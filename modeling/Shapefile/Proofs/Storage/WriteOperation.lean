import Shapefile.Proofs.Storage.StagingContent

/-! Sequences of writes through a staging area, beside a writer that has
none. The writer without one keeps a byte order only and gives a list of
puts, so nothing that it says can depend on a capacity. The staging area cuts
that list into chunks between puts, and never inside one. -/
namespace Shapefile

/-- What the user of a staging area does with it. -/
inductive WriteOperation where
  | uint8 (b : UInt8)
  | raw (bytes : List UInt8)
  | int16 (n : Int16)
  | int32 (n : Int32)
  | float64 (x : Float)
  | setOrder (order : ByteOrder)
  | flush

namespace WriteOperation

/-- The bytes that one operation puts where a byte order is in force. Setting
the order and flushing put nothing, which is not the same as no bytes. -/
def put? (order : ByteOrder) : WriteOperation → Option (List UInt8)
  | uint8 b => some [b]
  | raw bytes => some bytes
  | int16 n => some (order.int16 n)
  | int32 n => some (order.int32 n)
  | float64 x => some (order.float64 x)
  | setOrder _ => none
  | flush => none

def orderAfter (order : ByteOrder) : WriteOperation → ByteOrder
  | setOrder next => next
  | _ => order

/-- The puts of a sequence, each in the order in force at its time. -/
def puts (order : ByteOrder) : List WriteOperation → List (List UInt8)
  | [] => []
  | operation :: operations =>
    (operation.put? order).toList ++ puts (operation.orderAfter order) operations

end WriteOperation

namespace Staging

def perform (s : Staging) : WriteOperation → Staging
  | .uint8 b => s.put [b]
  | .raw bytes => s.put bytes
  | .int16 n => s.putInt16 n
  | .int32 n => s.putInt32 n
  | .float64 x => s.putFloat64 x
  | .setOrder order => s.setOrder order
  | .flush => s.flush

def performAll (s : Staging) (operations : List WriteOperation) : Staging :=
  operations.foldl perform s

/-- The length of the longest put. -/
def longest (puts : List (List UInt8)) : Nat :=
  puts.foldl (fun length bytes => max length bytes.length) 0

@[simp] theorem longest_concat (puts : List (List UInt8)) (bytes : List UInt8) :
    longest (puts ++ [bytes]) = max (longest puts) bytes.length := by
  simp [longest]

/-- Each chunk is a group of whole puts, and what is staged is the puts behind
the last chunk. -/
def CutBetween (s : Staging) (puts : List (List UInt8)) : Prop :=
  ∃ (groups : List (List (List UInt8))) (rest : List (List UInt8)),
    puts = groups.flatten ++ rest ∧
      s.sent.toList.map Array.toList = groups.map List.flatten ∧
      s.staged.toList = rest.flatten

/-- A staging area that began with a capacity and got these puts. -/
structure Carries (s : Staging) (capacity : Nat) (puts : List (List UInt8)) : Prop where
  cut_between : s.CutBetween puts
  chunk_ne_empty : ∀ chunk ∈ s.sent, chunk ≠ #[]
  written_eq : s.written = puts.flatten.length
  staged_le : s.staged.size ≤ s.capacity
  capacity_le : s.capacity ≤ max capacity (longest puts)

namespace Carries

variable {s : Staging} {capacity : Nat} {puts : List (List UInt8)}

/-- A new staging area got nothing yet. -/
theorem start (capacity : Nat) : Carries { capacity } capacity [] where
  cut_between := ⟨[], [], rfl, rfl, rfl⟩
  chunk_ne_empty := by simp
  written_eq := rfl
  staged_le := Nat.zero_le _
  capacity_le := Nat.le_max_left _ _

/-- Chunks and staged bytes are the puts one after the other. -/
theorem content_eq (h : s.Carries capacity puts) : s.content.toList = puts.flatten := by
  obtain ⟨groups, rest, hPuts, hSent, hStaged⟩ := h.cut_between
  have hChunks : s.sent.flatten.toList = (s.sent.toList.map Array.toList).flatten := by
    rw [Array.toList_flatten]
  rw [content, Array.toList_append, hChunks, hSent, hStaged, hPuts, List.flatten_append,
    List.flatten_flatten]

/-- Sending makes a chunk of the puts staged, if these have any bytes. -/
theorem send (h : s.Carries capacity puts) : s.send.Carries capacity puts := by
  unfold Staging.send
  split
  next hEmpty => exact h
  next hStaged =>
    obtain ⟨groups, rest, hPuts, hSent, hRest⟩ := h.cut_between
    refine ⟨⟨groups ++ [rest], [], ?_, ?_, rfl⟩, ?_, h.written_eq, Nat.zero_le _, h.capacity_le⟩
    · simp [hPuts]
    · simp [hSent, hRest]
    · intro chunk hChunk
      rcases Array.mem_push.mp hChunk with hOld | rfl
      · exact h.chunk_ne_empty chunk hOld
      · simpa using hStaged

/-- A put that fits behind what is staged, in a capacity no greater than the
puts call for. -/
theorem stage (h : s.Carries capacity puts) {bytes : List UInt8} {room : Nat}
    (hFits : s.staged.size + bytes.length ≤ room)
    (hRoom : room ≤ max capacity (longest (puts ++ [bytes]))) :
    Carries { s with
      capacity := room, staged := s.staged ++ bytes, written := s.written + bytes.length }
      capacity (puts ++ [bytes]) := by
  obtain ⟨groups, rest, hPuts, hSent, hRest⟩ := h.cut_between
  refine ⟨⟨groups, rest ++ [bytes], ?_, hSent, ?_⟩, h.chunk_ne_empty, ?_, ?_, hRoom⟩
  · rw [hPuts, List.append_assoc]
  · simp [hRest]
  · simp [h.written_eq]
  · rw [← Array.length_toList]
    simpa using hFits

theorem put (h : s.Carries capacity puts) (bytes : List UInt8) :
    (s.put bytes).Carries capacity (puts ++ [bytes]) := by
  unfold Staging.put reserve
  split
  next hFull =>
    -- Nothing is staged any more, so a capacity of the put's own length is enough.
    have hKept := h.send.capacity_le
    have hFits : s.send.staged.size + bytes.length ≤ max s.send.capacity bytes.length := by
      rw [send_staged, Array.size_empty]
      omega
    have hRoom : max s.send.capacity bytes.length ≤
        max capacity (longest (puts ++ [bytes])) := by
      rw [longest_concat]
      omega
    exact h.send.stage hFits hRoom
  next hRoom =>
    have hKept := h.capacity_le
    refine h.stage ?_ ?_
    · omega
    · rw [longest_concat]
      omega

/-- One operation adds its put, if it has one, to those carried. -/
theorem perform (h : s.Carries capacity puts) (operation : WriteOperation) :
    (s.perform operation).Carries capacity (puts ++ (operation.put? s.order).toList) := by
  cases operation with
  | uint8 b => exact h.put [b]
  | raw bytes => exact h.put bytes
  | int16 n => exact h.put _
  | int32 n => exact h.put _
  | float64 x => exact h.put _
  | setOrder order =>
      rw [WriteOperation.put?, Option.toList_none, List.append_nil]
      exact ⟨h.cut_between, h.chunk_ne_empty, h.written_eq, h.staged_le, h.capacity_le⟩
  | flush =>
      have hSent := h.send
      rw [WriteOperation.put?, Option.toList_none, List.append_nil]
      exact ⟨hSent.cut_between, hSent.chunk_ne_empty, hSent.written_eq, hSent.staged_le,
        hSent.capacity_le⟩

end Carries

@[simp] theorem send_order (s : Staging) : s.send.order = s.order := by
  unfold send
  split <;> rfl

theorem put_order (s : Staging) (bytes : List UInt8) : (s.put bytes).order = s.order := by
  unfold put reserve
  split
  · exact s.send_order
  · rfl

theorem perform_order (s : Staging) (operation : WriteOperation) :
    (s.perform operation).order = operation.orderAfter s.order := by
  cases operation with
  | setOrder order => rfl
  | flush => exact s.send_order
  | _ => exact s.put_order _

/-- The order in force after all operations. -/
theorem performAll_order (s : Staging) (operations : List WriteOperation) :
    (s.performAll operations).order =
      operations.foldl (fun order operation => operation.orderAfter order) s.order := by
  induction operations generalizing s with
  | nil => rfl
  | cons operation operations ih =>
      rw [List.foldl_cons, ← perform_order]
      exact ih (s.perform operation)

/-- The puts of all operations are carried, in their order. -/
theorem Carries.performAll {s : Staging} {capacity : Nat} {earlier : List (List UInt8)}
    (h : s.Carries capacity earlier) (operations : List WriteOperation) :
    (s.performAll operations).Carries capacity
      (earlier ++ WriteOperation.puts s.order operations) := by
  induction operations generalizing s earlier with
  | nil =>
      rw [WriteOperation.puts, List.append_nil]
      exact h
  | cons operation operations ih =>
      have hRest := ih (h.perform operation)
      rw [perform_order, List.append_assoc] at hRest
      exact hRest

/-- A staging area loses, doubles and reorders nothing. After any operations,
the chunks sent and then the bytes staged are the puts one after the other;
they are counted exactly, stay within the capacity, and are cut into chunks
between puts only, none of which is empty. The capacity grows no further than
one put calls for. Flushing leaves all of it in the channel, so the channel
ends with the same content for every capacity. -/
theorem puts_arrive (capacity : Nat) (operations : List WriteOperation) :
    let s := ({ capacity } : Staging).performAll operations
    let puts := WriteOperation.puts .big operations
    (s.sent.flatten ++ s.staged).toList = puts.flatten ∧
      s.written = puts.flatten.length ∧
      s.staged.size ≤ s.capacity ∧
      s.capacity ≤ max capacity (longest puts) ∧
      (∀ chunk ∈ s.sent, chunk ≠ #[]) ∧
      s.CutBetween puts ∧
      s.flush.staged = #[] ∧
      s.flush.sent.flatten.toList = puts.flatten ∧
      ∀ other, (({ capacity := other } : Staging).performAll operations).flush.sent.flatten =
        s.flush.sent.flatten := by
  intro s puts
  have hCarries (capacity : Nat) :
      (({ capacity } : Staging).performAll operations).Carries capacity puts :=
    (Carries.start capacity).performAll operations
  have hFlushed (capacity : Nat) :
      (({ capacity } : Staging).performAll operations).flush.sent.flatten.toList =
        puts.flatten := by
    rw [flush_sent]
    exact (hCarries capacity).content_eq
  have h := hCarries capacity
  refine ⟨h.content_eq, h.written_eq, h.staged_le, h.capacity_le, h.chunk_ne_empty,
    h.cut_between, s.send_staged, hFlushed capacity, fun other => ?_⟩
  apply Array.toList_inj.mp
  rw [hFlushed other, hFlushed capacity]

end Staging

end Shapefile
