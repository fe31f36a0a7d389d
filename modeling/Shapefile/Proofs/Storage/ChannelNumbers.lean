import Shapefile.Proofs.Storage.ReadingBack

/-! Numbers in a channel of which nothing is known. A read gives what the
bytes there say, or it fails because the channel ends too early; of a list of
items, the first one that cannot be read ends the run. -/
namespace Shapefile

namespace Bytes

/-- The little-endian signed word at an offset. -/
def wordAt (channel : Bytes) (offset : Nat) : Int32 :=
  ByteOrder.little.toInt32 (channel.extract offset (offset + 4)).toList

/-- The little-endian double at an offset. -/
def doubleAt (channel : Bytes) (offset : Nat) : Float :=
  ByteOrder.little.toFloat64 (channel.extract offset (offset + 8)).toList

end Bytes

namespace Reading

variable {ε α : Type} [OfStorage ε] {channel : Bytes} {position : Nat} {order : ByteOrder}

theorem onBytes_skip (length : Nat) :
    (skip length : Reading ε Unit).onBytes channel ⟨position, order⟩ =
      (.ok (), ⟨position + length, order⟩) := rfl

/-- A number is read, or it is cut and nothing moves. -/
theorem onBytes_number (length : Nat) (decode : ByteOrder → List UInt8 → α) :
    (advancing length (numberAt length decode) : Reading ε α).onBytes channel ⟨position, order⟩ =
      if position + length ≤ channel.size then
        (.ok (decode order (channel.extract position (position + length)).toList),
          ⟨position + length, order⟩)
      else
        (.error (OfStorage.ofStorage (.pastEnd position length channel.size)),
          ⟨position, order⟩) := by
  have hProgram : (advancing length (numberAt length decode) : Reading ε α) =
      Reading.position.bind fun start => (numberAt length decode start).bind fun value =>
        (skip length).bind fun _ => .done value := rfl
  rw [hProgram, onBytes_bind]
  simp only [Reading.position, onBytes]
  rw [onBytes_bind]
  by_cases hFits : position + length ≤ channel.size
  · simp only [numberAt, onBytes, if_pos hFits]
    rfl
  · simp only [numberAt, onBytes, if_neg hFits]

theorem onBytes_int32 :
    (int32 : Reading ε Int32).onBytes channel ⟨position, .little⟩ =
      if position + 4 ≤ channel.size then
        (.ok (channel.wordAt position), ⟨position + 4, .little⟩)
      else
        (.error (OfStorage.ofStorage (.pastEnd position 4 channel.size)), ⟨position, .little⟩) :=
  onBytes_number 4 ByteOrder.toInt32

theorem onBytes_float64 :
    (float64 : Reading ε Float).onBytes channel ⟨position, .little⟩ =
      if position + 8 ≤ channel.size then
        (.ok (channel.doubleAt position), ⟨position + 8, .little⟩)
      else
        (.error (OfStorage.ofStorage (.pastEnd position 8 channel.size)), ⟨position, .little⟩) :=
  onBytes_number 8 ByteOrder.toFloat64

omit [OfStorage ε] in
/-- Runs of one program are runs for the numbers below their count. -/
theorem replicate_eq_mapM (count : Nat) (item : Reading ε α) :
    Reading.replicate count item = (List.range count).mapM fun _ => item := by
  have hLength := replicate_length_eq (List.range count) item
  rwa [List.length_range] at hLength

section Items

variable {width count : Nat} {read : Nat → Reading ε α} {value : Nat → α}

omit [OfStorage ε] in
theorem mapM_range_succ (count : Nat) (read : Nat → Reading ε α) :
    (List.range (count + 1)).mapM read =
      (read 0).bind fun first => ((List.range count).mapM fun i => read (i + 1)).bind fun rest =>
        .done (first :: rest) := by
  rw [List.range_succ_eq_map, List.mapM_cons, List.mapM_map]
  rfl

private theorem behind_first (i : Nat) :
    position + width * (i + 1) = position + width + width * i := by
  rw [Nat.mul_succ, Nat.add_comm (width * i), ← Nat.add_assoc]

/-- Items of one width, one behind the other, each of which can be read. -/
theorem onBytes_mapM_range
    (hItem : ∀ i < count, (read i).onBytes channel ⟨position + width * i, order⟩ =
      (.ok (value i), ⟨position + width * i + width, order⟩)) :
    ((List.range count).mapM read).onBytes channel ⟨position, order⟩ =
      (.ok ((List.range count).map value), ⟨position + width * count, order⟩) := by
  induction count generalizing position read value with
  | zero => rfl
  | succ count ih =>
      have hFirst := hItem 0 (Nat.succ_pos count)
      rw [Nat.mul_zero, Nat.add_zero] at hFirst
      have hRest : ((List.range count).mapM fun i => read (i + 1)).onBytes channel
            ⟨position + width, order⟩ =
          (.ok ((List.range count).map fun i => value (i + 1)),
            ⟨position + width + width * count, order⟩) := by
        apply ih
        intro i hBelow
        rw [← behind_first]
        exact hItem (i + 1) (Nat.succ_lt_succ hBelow)
      rw [mapM_range_succ, onBytes_bind_of_ok hFirst, onBytes_bind_of_ok hRest,
        List.range_succ_eq_map, List.map_cons, List.map_map, behind_first]
      rfl

/-- Items of one width, one of which cannot be read. The run ends with the
error of the first of these. -/
theorem onBytes_mapM_range_error (width : Nat) (Good : Nat → Prop) (Reason : ε → Prop)
    (hGood : ∀ i < count, Good i → ∃ item,
      (read i).onBytes channel ⟨position + width * i, order⟩ =
        (.ok item, ⟨position + width * i + width, order⟩))
    (hBad : ∀ i < count, ¬Good i → ∃ e last,
      (read i).onBytes channel ⟨position + width * i, order⟩ = (.error e, last) ∧ Reason e)
    (hSome : ∃ i < count, ¬Good i) :
    ∃ e last, ((List.range count).mapM read).onBytes channel ⟨position, order⟩ =
      (.error e, last) ∧ Reason e := by
  induction count generalizing position read Good with
  | zero =>
      obtain ⟨i, hBelow, _⟩ := hSome
      cases hBelow
  | succ count ih =>
      have hStart := hGood 0 (Nat.succ_pos count)
      have hStartBad := hBad 0 (Nat.succ_pos count)
      rw [Nat.mul_zero, Nat.add_zero] at hStart hStartBad
      by_cases hFirst : Good 0
      · obtain ⟨first, hRead⟩ := hStart hFirst
        have hRest : ∃ e last, ((List.range count).mapM fun i => read (i + 1)).onBytes channel
            ⟨position + width, order⟩ = (.error e, last) ∧ Reason e := by
          refine ih (fun i => Good (i + 1)) (fun i hBelow => ?_) (fun i hBelow => ?_) ?_
          · rw [← behind_first]
            exact hGood (i + 1) (Nat.succ_lt_succ hBelow)
          · rw [← behind_first]
            exact hBad (i + 1) (Nat.succ_lt_succ hBelow)
          · obtain ⟨i, hBelow, hNot⟩ := hSome
            cases i with
            | zero => exact absurd hFirst hNot
            | succ i => exact ⟨i, Nat.lt_of_succ_lt_succ hBelow, hNot⟩
        obtain ⟨e, last, hRest, hReason⟩ := hRest
        refine ⟨e, last, ?_, hReason⟩
        rw [mapM_range_succ, onBytes_bind_of_ok hRead, onBytes_bind_of_error hRest]
      · obtain ⟨e, last, hRead, hReason⟩ := hStartBad hFirst
        refine ⟨e, last, ?_, hReason⟩
        rw [mapM_range_succ, onBytes_bind_of_error hRead]

end Items

end Reading

end Shapefile
