import Mathlib.Algebra.GroupWithZero.Nat
import Shapefile.Binary.ByteOrder
import Shapefile.Proofs.Lists

/-! Where bytes stand in a channel that is laid out piece by piece. -/
namespace Shapefile

/-- The channel has these bytes at a position. -/
def Bytes.HasAt (channel : Bytes) (position : Nat) (bytes : List UInt8) : Prop :=
  bytes <+: channel.toList.drop position

namespace Bytes.HasAt

variable {channel : Bytes} {position : Nat} {first second bytes : List UInt8}

theorem left (h : channel.HasAt position (first ++ second)) : channel.HasAt position first :=
  (List.prefix_append first second).trans h

theorem right (h : channel.HasAt position (first ++ second)) :
    channel.HasAt (position + first.length) second := by
  obtain ⟨rest, hRest⟩ := h
  refine ⟨rest, ?_⟩
  rw [← List.drop_drop, ← hRest, List.append_assoc, List.drop_left]

/-- No more bytes are there than remain in the channel. -/
theorem length_le (h : channel.HasAt position bytes) : bytes.length ≤ channel.size - position := by
  have hLength := List.IsPrefix.length_le h
  rwa [List.length_drop, Array.length_toList] at hLength

/-- Bytes that are there end inside the channel, unless there are none. -/
theorem inside (h : channel.HasAt position bytes) (hSome : 0 < bytes.length) :
    position + bytes.length ≤ channel.size := by
  have hLength := h.length_le
  omega

/-- A slice of the channel that is the bytes. -/
theorem extract (h : channel.HasAt position bytes) :
    (channel.extract position (position + bytes.length)).toList = bytes := by
  obtain ⟨rest, hRest⟩ := h
  rw [Array.toList_extract, List.extract_eq_take_drop, ← hRest, Nat.add_sub_cancel_left,
    List.take_left]

theorem of_toList (before after : List UInt8) (h : channel.toList = before ++ bytes ++ after) :
    channel.HasAt before.length bytes := by
  refine ⟨after, ?_⟩
  rw [h, List.append_assoc, List.drop_left]

end Bytes.HasAt

/-- Pieces of one size, one behind the other. -/
theorem Bytes.length_flatten_pieces {pieces : List (List UInt8)} {size : Nat}
    (hSize : ∀ piece ∈ pieces, piece.length = size) :
    pieces.flatten.length = size * pieces.length := by
  induction pieces with
  | nil => rfl
  | cons piece pieces ih =>
      rw [List.flatten_cons, List.length_append, hSize piece List.mem_cons_self,
        ih fun other hOther => hSize other (List.mem_cons_of_mem piece hOther),
        List.length_cons, Nat.mul_succ, Nat.add_comm]

/-- Items that are laid out in several puts of one size together. -/
theorem Bytes.length_flatten_flatMap {α : Type} (items : List α) {puts : α → List (List UInt8)}
    {size : Nat} (hSize : ∀ item, (puts item).flatten.length = size) :
    (items.flatMap puts).flatten.length = size * items.length := by
  have hPieces : (items.flatMap puts).flatten =
      (items.map fun item => (puts item).flatten).flatten := by
    rw [List.flatMap_def, List.flatten_flatten, List.map_map]
    rfl
  have hEach : ∀ piece ∈ items.map fun item => (puts item).flatten, piece.length = size := by
    intro piece hPiece
    obtain ⟨item, _, rfl⟩ := List.mem_map.mp hPiece
    exact hSize item
  rw [hPieces, length_flatten_pieces hEach, List.length_map]

end Shapefile
