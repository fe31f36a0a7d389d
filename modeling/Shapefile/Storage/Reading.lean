import Shapefile.Binary.ByteOrder
import Shapefile.Storage.Error

/-!
Programs that read a channel. A program asks for byte ranges at absolute offsets and keeps a cursor:
a position for sequential reads and the byte order in force. What it means does not mention how the
bytes are obtained; `onBytes` answers every request from the whole content, and a window on a file
answers the same requests from what it has resident.
-/

namespace Shapefile

/-- Where sequential reads go on, and in which byte order. -/
structure Cursor where
  position : Nat := 0
  order : ByteOrder := .big
deriving DecidableEq, Repr, Inhabited

/-- A program that reads a channel and ends with a value or with an error. -/
inductive Reading (ε α : Type) where
  | done (value : α)
  | fail (error : ε)
  /-- Ask for the bytes `position ..< position + length`. -/
  | fetch (position length : Nat) (next : Bytes → Reading ε α)
  /-- Look at the cursor and at the size of the channel. -/
  | inspect (next : Cursor → Nat → Reading ε α)
  /-- Replace the cursor. -/
  | place (cursor : Cursor) (next : Reading ε α)

namespace Reading

variable {ε α β : Type}

def bind : Reading ε α → (α → Reading ε β) → Reading ε β
  | done a, f => f a
  | fail e, _ => fail e
  | fetch position length next, f => fetch position length fun bytes => (next bytes).bind f
  | inspect next, f => inspect fun cursor size => (next cursor size).bind f
  | place cursor next, f => place cursor (next.bind f)

instance : Monad (Reading ε) where
  pure := done
  bind := bind

@[simp] theorem pure_eq (a : α) : (pure a : Reading ε α) = done a := rfl

@[simp] theorem bind_eq (r : Reading ε α) (f : α → Reading ε β) : r >>= f = r.bind f := rfl

theorem bind_done (r : Reading ε α) : r.bind done = r := by
  induction r with
  | done => rfl
  | fail => rfl
  | fetch position length next ih => simp [bind, ih]
  | inspect next ih => simp [bind, ih]
  | place cursor next ih => simp [bind, ih]

theorem bind_assoc {γ : Type} (r : Reading ε α) (f : α → Reading ε β) (g : β → Reading ε γ) :
    (r.bind f).bind g = r.bind fun a => (f a).bind g := by
  induction r with
  | done => rfl
  | fail => rfl
  | fetch position length next ih => simp [bind, ih]
  | inspect next ih => simp [bind, ih]
  | place cursor next ih => simp [bind, ih]

instance : LawfulMonad (Reading ε) :=
  LawfulMonad.mk' (Reading ε) bind_done (fun _ _ => rfl) bind_assoc

/-- A computed result as a program that reads nothing. -/
def ofExcept : Except ε α → Reading ε α
  | .ok a => done a
  | .error e => fail e

/-- Run a program with the whole content at hand. The cursor survives an error. -/
def onBytes [OfStorage ε] (channel : Bytes) : Reading ε α → Cursor → Except ε α × Cursor
  | done a, cursor => (.ok a, cursor)
  | fail e, cursor => (.error e, cursor)
  | fetch position length next, cursor =>
    if position + length ≤ channel.size then
      (next (channel.extract position (position + length))).onBytes channel cursor
    else
      (.error (OfStorage.ofStorage (.pastEnd position length channel.size)), cursor)
  | inspect next, cursor => (next cursor channel.size).onBytes channel cursor
  | place cursor next, _ => next.onBytes channel cursor

/-! ### The cursor -/

def position : Reading ε Nat := inspect fun cursor _ => done cursor.position

def byteOrder : Reading ε ByteOrder := inspect fun cursor _ => done cursor.order

/-- Bytes of the channel at and after the cursor. -/
def remaining : Reading ε Nat := inspect fun cursor size => done (size - cursor.position)

def seek (position : Nat) : Reading ε Unit :=
  inspect fun cursor _ => place { cursor with position } (done ())

/-- Move the cursor forward and read nothing, not even past the end. -/
def skip (length : Nat) : Reading ε Unit :=
  inspect fun cursor _ => place { cursor with position := cursor.position + length } (done ())

def setOrder (order : ByteOrder) : Reading ε Unit :=
  inspect fun cursor _ => place { cursor with order } (done ())

/-! ### Reads at an offset -/

def bytesAt (position length : Nat) : Reading ε Bytes := fetch position length done

/-- A number of `length` bytes at an offset, decoded in the current byte order. -/
def numberAt (length : Nat) (decode : ByteOrder → List UInt8 → α) (position : Nat) :
    Reading ε α :=
  inspect fun cursor _ =>
    fetch position length fun bytes => done (decode cursor.order bytes.toList)

def uint8At (position : Nat) : Reading ε UInt8 :=
  fetch position 1 fun bytes => done (bytes[0]?.getD 0)

def int16At (position : Nat) : Reading ε Int16 := numberAt 2 ByteOrder.toInt16 position

def int32At (position : Nat) : Reading ε Int32 := numberAt 4 ByteOrder.toInt32 position

def int64At (position : Nat) : Reading ε Int64 := numberAt 8 ByteOrder.toInt64 position

def float64At (position : Nat) : Reading ε Float := numberAt 8 ByteOrder.toFloat64 position

/-! ### Reads at the cursor -/

/-- Read at the cursor and then move it past what was read; a failed read leaves it in place. -/
def advancing (length : Nat) (read : Nat → Reading ε α) : Reading ε α := do
  let value ← read (← position)
  skip length
  return value

def bytes (length : Nat) : Reading ε Bytes := advancing length (bytesAt · length)

def uint8 : Reading ε UInt8 := advancing 1 uint8At

def int16 : Reading ε Int16 := advancing 2 int16At

def int32 : Reading ε Int32 := advancing 4 int32At

def int64 : Reading ε Int64 := advancing 8 int64At

def float64 : Reading ε Float := advancing 8 float64At

/-- The results of `count` runs of one program, in order. -/
def replicate (count : Nat) (item : Reading ε α) : Reading ε (List α) :=
  (List.replicate count item).mapM id

end Reading

end Shapefile
