import Shapefile.Proofs.Storage.WindowView

/-! Sequences of reads through a window, beside a reader that has no window.
The reader without one keeps a cursor only and decodes every request from the
whole content, so its answers cannot depend on a capacity or on what was
requested before. -/
namespace Shapefile

/-- What one read decodes. -/
inductive Datum where
  | uint8
  | int16
  | int32
  | int64
  | float64
  | raw (length : Nat)

/-- What one read gives. -/
inductive Item where
  | uint8 (b : UInt8)
  | int16 (n : Int16)
  | int32 (n : Int32)
  | int64 (n : Int64)
  | float64 (x : Float)
  | raw (bytes : Bytes)
deriving DecidableEq

namespace Datum

def width : Datum → Nat
  | uint8 => 1
  | int16 => 2
  | int32 => 4
  | int64 => 8
  | float64 => 8
  | raw length => length

/-- The bytes of a request, decoded in a byte order. -/
def decode (order : ByteOrder) (bytes : Bytes) : Datum → Item
  | uint8 => .uint8 (bytes[0]?.getD 0)
  | int16 => .int16 (order.toInt16 bytes.toList)
  | int32 => .int32 (order.toInt32 bytes.toList)
  | int64 => .int64 (order.toInt64 bytes.toList)
  | float64 => .float64 (order.toFloat64 bytes.toList)
  | raw _ => .raw bytes

/-- The read at an absolute position. -/
def readAt (position : Nat) : Datum → Reading StorageError Item
  | uint8 => Item.uint8 <$> Reading.uint8At position
  | int16 => Item.int16 <$> Reading.int16At position
  | int32 => Item.int32 <$> Reading.int32At position
  | int64 => Item.int64 <$> Reading.int64At position
  | float64 => Item.float64 <$> Reading.float64At position
  | raw length => Item.raw <$> Reading.bytesAt position length

/-- The read at the cursor. -/
def read : Datum → Reading StorageError Item
  | uint8 => Item.uint8 <$> Reading.uint8
  | int16 => Item.int16 <$> Reading.int16
  | int32 => Item.int32 <$> Reading.int32
  | int64 => Item.int64 <$> Reading.int64
  | float64 => Item.float64 <$> Reading.float64
  | raw length => Item.raw <$> Reading.bytes length

end Datum

/-- What the user of a window does with it. -/
inductive Operation where
  | readAt (datum : Datum) (position : Nat)
  | read (datum : Datum)
  | setOrder (order : ByteOrder)
  | seek (position : Nat)
  | skip (length : Nat)

namespace Operation

/-- The operation as a program. Only reads give an item. -/
def program : Operation → Reading StorageError (Option Item)
  | readAt datum position => some <$> datum.readAt position
  | read datum => some <$> datum.read
  | setOrder order => (fun _ => none) <$> Reading.setOrder order
  | seek position => (fun _ => none) <$> Reading.seek position
  | skip length => (fun _ => none) <$> Reading.skip length

/-- Position and length of the bytes that the operation asks for. -/
def request? (cursor : Cursor) : Operation → Option (Nat × Nat)
  | readAt datum position => some (position, datum.width)
  | read datum => some (cursor.position, datum.width)
  | _ => none

/-- What the operation gives where no window comes between: the bytes of the
channel in the byte order in force, or a refusal if the channel ends before
them. -/
def answer (channel : Bytes) (cursor : Cursor) : Operation → Except StorageError (Option Item)
  | readAt datum position =>
    if position + datum.width ≤ channel.size then
      .ok (some (datum.decode cursor.order (channel.extract position (position + datum.width))))
    else .error (.pastEnd position datum.width channel.size)
  | read datum =>
    if cursor.position + datum.width ≤ channel.size then
      .ok (some (datum.decode cursor.order
        (channel.extract cursor.position (cursor.position + datum.width))))
    else .error (.pastEnd cursor.position datum.width channel.size)
  | _ => .ok none

/-- Where the operation leaves the cursor. A read at the cursor moves it by
the length read, unless it fails. -/
def cursorAfter (channel : Bytes) (cursor : Cursor) : Operation → Cursor
  | readAt _ _ => cursor
  | read datum =>
    if cursor.position + datum.width ≤ channel.size then
      { cursor with position := cursor.position + datum.width }
    else cursor
  | setOrder order => { cursor with order }
  | seek position => { cursor with position }
  | skip length => { cursor with position := cursor.position + length }

/-- Where a sequence of operations leaves the cursor of a reader without a
window. -/
def cursorAfterAll (channel : Bytes) (cursor : Cursor) (operations : List Operation) : Cursor :=
  operations.foldl (fun cursor operation => operation.cursorAfter channel cursor) cursor

/-- An operation fails exactly when it asks for bytes that the channel does
not have. -/
theorem answer_eq_error_iff (channel : Bytes) (cursor : Cursor) (operation : Operation) :
    (∃ e, operation.answer channel cursor = .error e) ↔
      ∃ position length, operation.request? cursor = some (position, length) ∧
        channel.size < position + length := by
  have hFits (position length : Nat) (item : Option Item) :
      (∃ e, (if position + length ≤ channel.size then .ok item
          else .error (.pastEnd position length channel.size) :
            Except StorageError (Option Item)) = .error e) ↔
        channel.size < position + length := by
    by_cases h : position + length ≤ channel.size
    · simp [h]
    · simp [h, Nat.lt_of_not_le h]
  cases operation with
  | readAt datum position => simp [answer, request?, hFits, and_assoc]
  | read datum => simp [answer, request?, hFits, and_assoc]
  | setOrder order => simp [answer, request?]
  | seek position => simp [answer, request?]
  | skip length => simp [answer, request?]

/-- A failed operation leaves the cursor in place. -/
theorem cursorAfter_of_error {channel : Bytes} {cursor : Cursor} {operation : Operation}
    {e : StorageError} (hError : operation.answer channel cursor = .error e) :
    operation.cursorAfter channel cursor = cursor := by
  cases operation with
  | readAt datum position => rfl
  | read datum =>
      by_cases hFits : cursor.position + datum.width ≤ channel.size
      · simp [answer, hFits] at hError
      · exact if_neg hFits
  | setOrder order => cases hError
  | seek position => cases hError
  | skip length => cases hError

end Operation

namespace Window

def perform (w : Window) (channel : Bytes) (operation : Operation) :
    Except StorageError (Option Item) × Window :=
  w.run channel operation.program

/-- The window after some operations; their errors do not end the sequence. -/
def performAll (w : Window) (channel : Bytes) (operations : List Operation) : Window :=
  operations.foldl (fun w operation => (w.perform channel operation).2) w

/-- The window after the request of an operation, its cursor aside. -/
def afterOperation (w : Window) (channel : Bytes) (operation : Operation) : Window :=
  match operation.request? w.cursor with
  | some (position, length) => w.afterRequest channel position length
  | none => w

/-- A program that asks once and then answers is one request. -/
private theorem Views.run_fetch_done [OfStorage ε] {w : Window} {channel : Bytes}
    (h : w.Views channel) (position length : Nat) (answer : Bytes → α) :
    w.run channel (.fetch position length fun bytes => .done (answer bytes) : Reading ε α) =
      if position + length ≤ channel.size then
        (.ok (answer (channel.extract position (position + length))),
          w.afterRequest channel position length)
      else (.error (OfStorage.ofStorage (.pastEnd position length channel.size)), w) := by
  rw [run, h.fetch_eq]
  by_cases hFits : position + length ≤ channel.size
  · simp only [if_pos hFits, run]
  · simp only [if_neg hFits]

/-- A read at a position, as its request and the decoding of what comes. -/
private theorem perform_readAt_eq (w : Window) (channel : Bytes) (datum : Datum) (position : Nat) :
    w.perform channel (.readAt datum position) =
      w.run channel (.fetch position datum.width fun bytes =>
        .done (some (datum.decode w.cursor.order bytes)) : Reading StorageError _) := by
  cases datum <;> rfl

/-- A read at the cursor, as its request followed by the move. -/
private theorem perform_read_eq (w : Window) (channel : Bytes) (datum : Datum) :
    w.perform channel (.read datum) =
      match w.perform channel (.readAt datum w.cursor.position) with
      | (.ok item, w) =>
        (.ok item, { w with cursor.position := w.cursor.position + datum.width })
      | (.error e, w) => (.error e, w) := by
  rw [perform_readAt_eq]
  have hProgram : w.perform channel (.read datum) =
      w.run channel (.fetch w.cursor.position datum.width fun bytes =>
        .inspect fun cursor _ =>
          .place { cursor with position := cursor.position + datum.width }
            (.done (some (datum.decode w.cursor.order bytes))) : Reading StorageError _) := by
    cases datum <;> rfl
  rw [hProgram, run, run]
  rcases w.fetch channel w.cursor.position datum.width with ⟨_ | bytes, moved⟩
  · rfl
  · rfl

/-- Every operation answers as the whole content would, moves the cursor as
it says, and touches nothing else but for one load at most. -/
theorem Views.perform_eq {w : Window} {channel : Bytes} (h : w.Views channel)
    (operation : Operation) :
    w.perform channel operation =
      (operation.answer channel w.cursor,
        { w.afterOperation channel operation with
          cursor := operation.cursorAfter channel w.cursor }) := by
  have hReadAt (datum : Datum) (position : Nat) :
      w.perform channel (.readAt datum position) =
        ((Operation.readAt datum position).answer channel w.cursor,
          w.afterRequest channel position datum.width) := by
    rw [perform_readAt_eq, h.run_fetch_done, Operation.answer]
    by_cases hFits : position + datum.width ≤ channel.size
    · simp only [if_pos hFits]
    · simp only [if_neg hFits]
      rw [afterRequest_of_past (by omega)]
      rfl
  cases operation with
  | readAt datum position =>
      rw [hReadAt, ← w.afterRequest_cursor channel position datum.width]
      rfl
  | read datum =>
      rw [perform_read_eq, hReadAt]
      by_cases hFits : w.cursor.position + datum.width ≤ channel.size
      · simp only [Operation.answer, Operation.cursorAfter, if_pos hFits, afterRequest_cursor]
        rfl
      · simp only [Operation.answer, Operation.cursorAfter, if_neg hFits]
        have hStays : w.afterOperation channel (.read datum) = w := afterRequest_of_past (by omega)
        rw [hStays, afterRequest_of_past (by omega)]
  | setOrder order => rfl
  | seek position => rfl
  | skip length => rfl

theorem afterOperation_capacity (w : Window) (channel : Bytes) (operation : Operation) :
    (w.afterOperation channel operation).capacity = w.capacity := by
  unfold afterOperation
  split
  · exact w.afterRequest_capacity channel _ _
  · rfl

theorem Views.afterOperation {w : Window} {channel : Bytes} (h : w.Views channel)
    (operation : Operation) : (w.afterOperation channel operation).Views channel := by
  unfold Window.afterOperation
  split
  · exact h.afterRequest _ _
  · exact h

/-- What operations keep, however many there are. -/
theorem Views.performAll {w : Window} {channel : Bytes} (h : w.Views channel)
    (operations : List Operation) :
    (w.performAll channel operations).Views channel ∧
      (w.performAll channel operations).capacity = w.capacity ∧
      (w.performAll channel operations).cursor =
        Operation.cursorAfterAll channel w.cursor operations := by
  induction operations generalizing w with
  | nil => exact ⟨h, rfl, rfl⟩
  | cons operation operations ih =>
      have hNext : (w.perform channel operation).2.Views channel := by
        rw [h.perform_eq]
        exact (h.afterOperation operation).withCursor _
      obtain ⟨hViews, hCapacity, hCursor⟩ := ih hNext
      refine ⟨hViews, hCapacity.trans ?_, hCursor.trans ?_⟩
      · rw [h.perform_eq]
        exact w.afterOperation_capacity channel operation
      · rw [h.perform_eq]
        rfl

/-- A window reads faithfully. After any operations, whatever the capacity,
the next one gives what decoding the channel's own bytes gives, moves the
cursor as it would without a window, and fails exactly for bytes that the
channel does not have, in which case nothing changes. The window is loaded
exactly for bytes that the channel has and that are not all resident, and
then starts with them. -/
theorem reads_faithfully (channel : Bytes) (capacity : Nat) (earlier : List Operation)
    (operation : Operation) :
    let before := (onChannel channel capacity).performAll channel earlier
    let cursor := Operation.cursorAfterAll channel {} earlier
    let result := (before.perform channel operation).1
    let after := (before.perform channel operation).2
    before.cursor = cursor ∧
      result = operation.answer channel cursor ∧
      after.cursor = operation.cursorAfter channel cursor ∧
      ((∃ e, result = .error e) ↔
        ∃ position length, operation.request? cursor = some (position, length) ∧
          channel.size < position + length) ∧
      ((∃ e, result = .error e) → after = before) ∧
      (∀ position length, operation.request? cursor = some (position, length) →
        ¬before.Covers position length → position + length ≤ channel.size →
        let size := min (max capacity length) (channel.size - position)
        after.start = position ∧ after.resident.size = size ∧
          after.resident = channel.extract position (position + size) ∧
          after.loads = (position, size) :: before.loads) ∧
      ((∀ position length, operation.request? cursor = some (position, length) →
          before.Covers position length ∨ channel.size < position + length) →
        after.start = before.start ∧ after.resident = before.resident ∧
          after.loads = before.loads) := by
  intro before cursor result after
  have hOpened := views_onChannel channel capacity
  obtain ⟨hViews, hKept, hCursor⟩ := hOpened.performAll earlier
  have hCapacity : before.capacity = capacity := by
    rw [hKept, onChannel_eq]
  have hPlaced : before.cursor = cursor := by
    rw [hCursor, cursor_onChannel]
  have hPerform := hViews.perform_eq operation
  rw [hPlaced] at hPerform
  have hResult : result = operation.answer channel cursor := congrArg Prod.fst hPerform
  have hAfter : after = { before.afterOperation channel operation with
      cursor := operation.cursorAfter channel cursor } := congrArg Prod.snd hPerform
  have hStays (hRefused : ∀ position length, operation.request? cursor = some (position, length) →
      before.Covers position length ∨ channel.size < position + length) :
      before.afterOperation channel operation = before := by
    unfold afterOperation
    rw [hPlaced]
    split
    next position length hRequest => exact if_pos (hRefused position length hRequest)
    next => rfl
  refine ⟨hPlaced, hResult, by rw [hAfter], ?_, ?_, ?_, ?_⟩
  · rw [hResult]
    exact operation.answer_eq_error_iff channel cursor
  · rintro ⟨e, hError⟩
    rw [hResult] at hError
    obtain ⟨position, length, hRequest, hPast⟩ :=
      (operation.answer_eq_error_iff channel cursor).mp ⟨e, hError⟩
    have hWindow : before.afterOperation channel operation = before := by
      refine hStays fun p n hSame => Or.inr ?_
      rw [hRequest] at hSame
      cases hSame
      exact hPast
    rw [hAfter, hWindow, Operation.cursorAfter_of_error hError, ← hPlaced]
  · intro position length hRequest hCovers hFits size
    have hMoved : before.afterOperation channel operation =
        before.movedTo channel position length := by
      rw [afterOperation, hPlaced, hRequest]
      exact if_neg (by simp [hCovers, hFits])
    have hSize : before.loadSize position length = size := by
      rw [loadSize, hCapacity, hViews.size_eq]
    rw [hAfter, hMoved, movedTo, hSize]
    refine ⟨rfl, ?_, rfl, rfl⟩
    rw [Array.size_extract]
    omega
  · intro hRefused
    rw [hAfter, hStays hRefused]
    exact ⟨rfl, rfl, rfl⟩

end Window

end Shapefile
