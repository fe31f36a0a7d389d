import Shapefile.Proofs.Storage.ChannelNumbers

/-! What a program reads of a channel. The ranges that it is given are all it
knows of the content, so channels that agree on them cannot be told apart by
it; and it succeeds exactly where each number it asks for is there whole. -/
namespace Shapefile

namespace Bytes

/-- The big-endian signed word at an offset. -/
def bigWordAt (channel : Bytes) (offset : Nat) : Int32 :=
  ByteOrder.big.toInt32 (channel.extract offset (offset + 4)).toList

/-- Channels that agree on a range agree on the ranges inside it. -/
theorem extract_eq_of_inside {channel other : Bytes} {start stop i j : Nat}
    (hSame : channel.extract start stop = other.extract start stop) (hStart : start ≤ i)
    (hOrder : i ≤ j) (hStop : j ≤ stop) : channel.extract i j = other.extract i j := by
  have hInner (d : Bytes) :
      d.extract i j = (d.extract start stop).extract (i - start) (j - start) := by
    rw [Array.extract_extract]
    congr 1
    · omega
    · omega
  rw [hInner channel, hInner other, hSame]

end Bytes

namespace Reading

variable {ε α β : Type} [OfStorage ε] {channel : Bytes} {position : Nat} {order : ByteOrder}
  {result : β} {last : Cursor}

theorem onBytes_setOrder_bind (next : Unit → Reading ε β) (after : ByteOrder) :
    ((setOrder after).bind next).onBytes channel ⟨position, order⟩ =
      (next ()).onBytes channel ⟨position, after⟩ := rfl

theorem onBytes_skip_bind (next : Unit → Reading ε β) (length : Nat) :
    ((skip length).bind next).onBytes channel ⟨position, order⟩ =
      (next ()).onBytes channel ⟨position + length, order⟩ := rfl

/-- Bytes that were read were there. -/
theorem onBytes_bytesAt_ok {length : Nat} {bytes : Bytes} {cursor : Cursor}
    (hOk : (bytesAt position length : Reading ε Bytes).onBytes channel cursor =
      (.ok bytes, last)) :
    position + length ≤ channel.size ∧ bytes = channel.extract position (position + length) := by
  rw [bytesAt, onBytes] at hOk
  split at hOk
  next hInside =>
    cases hOk
    exact ⟨hInside, rfl⟩
  next hPast => cases hOk

/-- A program that begins with a number succeeds where the number is whole
and the rest succeeds behind it. -/
theorem onBytes_number_bind_ok_iff {length : Nat} {decode : ByteOrder → List UInt8 → α}
    {next : α → Reading ε β} :
    ((advancing length (numberAt length decode)).bind next).onBytes channel ⟨position, order⟩ =
        (.ok result, last) ↔
      position + length ≤ channel.size ∧
        (next (decode order (channel.extract position (position + length)).toList)).onBytes channel
          ⟨position + length, order⟩ = (.ok result, last) := by
  rw [onBytes_bind, onBytes_number]
  by_cases hInside : position + length ≤ channel.size
  · simp [hInside]
  · simp [hInside]

theorem onBytes_int32_bind_ok_iff {next : Int32 → Reading ε β} :
    (int32.bind next).onBytes channel ⟨position, order⟩ = (.ok result, last) ↔
      position + 4 ≤ channel.size ∧
        (next (order.toInt32 (channel.extract position (position + 4)).toList)).onBytes channel
          ⟨position + 4, order⟩ = (.ok result, last) :=
  onBytes_number_bind_ok_iff

theorem onBytes_float64_bind_ok_iff {next : Float → Reading ε β} :
    (float64.bind next).onBytes channel ⟨position, order⟩ = (.ok result, last) ↔
      position + 8 ≤ channel.size ∧
        (next (order.toFloat64 (channel.extract position (position + 8)).toList)).onBytes channel
          ⟨position + 8, order⟩ = (.ok result, last) :=
  onBytes_number_bind_ok_iff

/-- A program that fails unless a condition holds. -/
theorem onBytes_guard_ok_iff {p : Prop} [Decidable p] {e : ε} {skipped : α → Reading ε β}
    {rest : Reading ε β} {cursor : Cursor} :
    (if ¬p then (fail e).bind skipped else rest).onBytes channel cursor = (.ok result, last) ↔
      p ∧ rest.onBytes channel cursor = (.ok result, last) := by
  by_cases hHolds : p
  · simp [hHolds]
  · simp [hHolds, bind, onBytes]

/-! ### The ranges given -/

omit [OfStorage ε] in
/-- The ranges of the channel that a program asks for and is given, by their
positions and lengths. -/
def given (channel : Bytes) : Reading ε α → Cursor → List (Nat × Nat)
  | done _, _ => []
  | fail _, _ => []
  | fetch position length next, cursor =>
    if position + length ≤ channel.size then
      (position, length) ::
        (next (channel.extract position (position + length))).given channel cursor
    else []
  | inspect next, cursor => (next cursor channel.size).given channel cursor
  | place cursor next, _ => next.given channel cursor

/-- The bytes outside the ranges given do not matter. -/
theorem onBytes_congr {other : Bytes} (hSize : other.size = channel.size)
    (program : Reading ε β) (cursor : Cursor)
    (hSame : ∀ range ∈ program.given channel cursor,
      other.extract range.1 (range.1 + range.2) = channel.extract range.1 (range.1 + range.2)) :
    program.onBytes other cursor = program.onBytes channel cursor := by
  induction program generalizing cursor with
  | done value => rfl
  | fail error => rfl
  | fetch position length next ih =>
      rw [given] at hSame
      rw [onBytes, onBytes, hSize]
      by_cases hFits : position + length ≤ channel.size
      · rw [if_pos hFits] at hSame
        rw [if_pos hFits, if_pos hFits, hSame _ List.mem_cons_self]
        exact ih _ cursor fun range hMember => hSame range (List.mem_cons_of_mem _ hMember)
      · rw [if_neg hFits, if_neg hFits]
  | inspect next ih =>
      rw [onBytes, onBytes, hSize]
      exact ih _ _ cursor hSame
  | place target next ih => exact ih target hSame

end Reading

end Shapefile
