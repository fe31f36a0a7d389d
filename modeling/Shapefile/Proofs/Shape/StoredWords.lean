import Shapefile.Proofs.Shape.RecordLayout

/-! The numbers of a shape file and its index as they are stored. Lengths are
made signed words before they are halved, so a record of 2 ^ 31 bytes or more
is stored with a negative length, and every record behind it with a negative
offset. A file that is short enough for its own header has room for one such
record at most. -/
namespace Shapefile

/-- A sum that is a signed word is exact. -/
theorem toInt_add_of_range {a b : Int32} (hLow : -2 ^ 31 ≤ a.toInt + b.toInt)
    (hHigh : a.toInt + b.toInt < 2 ^ 31) : (a + b).toInt = a.toInt + b.toInt := by
  rw [Int32.toInt_add, Int.bmod_eq_of_le hLow hHigh]

namespace ShapeHeader

/-- Words as bytes; a negative number becomes one close to 2 ^ 64. -/
theorem toNat_bytesOf (words : Int32) :
    ((bytesOf words).toNat : Int) = 2 * words.toInt % 2 ^ 64 := by
  have hUnsigned : (words.toInt64.toUInt64.toNat : Int) = words.toInt % 2 ^ 64 := by
    have hLess := words.toInt64.toBitVec.isLt
    have hPlain : words.toInt64.toUInt64.toNat = words.toInt64.toBitVec.toNat := rfl
    rw [← words.toInt_toInt64, ← Int64.toInt_toBitVec, hPlain, BitVec.toInt_eq_toNat_cond]
    split <;> omega
  rw [bytesOf, UInt64.toNat_mul]
  push_cast
  rw [hUnsigned]
  omega

end ShapeHeader

namespace ShapeWriter

/-- The stored length is the true one, less 2 ^ 31 words if the bytes are no
signed word. -/
theorem toInt_contentWords {bytes : Nat} (hEven : bytes % 2 = 0) (hSmall : bytes < 2 ^ 32) :
    (contentWords bytes).toInt =
      if bytes < 2 ^ 31 then (bytes / 2 : Int) else (bytes / 2 : Int) - 2 ^ 31 := by
  have hWord : (Int32.ofNat bytes).toInt =
      if bytes < 2 ^ 31 then (bytes : Int) else (bytes : Int) - 2 ^ 32 := by
    rw [Int32.toInt_ofNat', Int.bmod_eq_emod]
    simp only [Int32.size]
    split <;> split <;> omega
  have hHalf : (Int32.ofNat bytes).toInt.tdiv 2 = (Int32.ofNat bytes).toInt / 2 := by
    apply Int.tdiv_eq_ediv_of_dvd
    rw [hWord]
    split <;> omega
  have hTwo : (2 : Int32).toInt = 2 := rfl
  rw [contentWords, Int32.toInt_div, hTwo, hHalf, hWord, Int.bmod_eq_emod]
  split <;> split <;> omega

end ShapeWriter

namespace RecordFormat

variable {f : RecordFormat} {record : Option Geometry} {records : List (Option Geometry)}

/-- The length of the record in bytes is a signed word. -/
def Narrow (f : RecordFormat) (record : Option Geometry) : Prop :=
  2 * f.recordWords record < 2 ^ 31

instance (f : RecordFormat) (record : Option Geometry) : Decidable (f.Narrow record) :=
  inferInstanceAs (Decidable (_ < _))

/-- A narrow record is stored with its length, any other one with 2 ^ 31 words
less. -/
theorem toInt_storedWords (hTakes : f.Takes record) (hSmall : f.recordWords record < 2 ^ 31) :
    (f.storedWords record).toInt =
      if f.Narrow record then (f.recordWords record : Int)
      else (f.recordWords record : Int) - 2 ^ 31 := by
  cases record with
  | none => rfl
  | some g =>
      obtain ⟨length, hLength⟩ := hTakes
      have hEven := length_mod_four hLength
      have hWords : f.recordWords (some g) = length / 2 := by
        rw [recordWords, hLength]
        rfl
      rw [hWords] at hSmall
      simp only [Narrow, hWords, storedWords, hLength, Except.toOption, Option.getD_some]
      rw [ShapeWriter.toInt_contentWords (by omega) (by omega)]
      split <;> split <;> omega

/-- A record that is not narrow takes half of the words there are. -/
theorem le_wordOffset_of_not_narrow (hMember : record ∈ records) (hWide : ¬f.Narrow record) :
    2 ^ 30 + 54 ≤ f.wordOffset records := by
  have hOne : f.recordWords record + ShapeWriter.recordHeaderWords ≤
      (records.map fun other => f.recordWords other + ShapeWriter.recordHeaderWords).sum :=
    List.le_sum_of_mem (List.mem_map_of_mem hMember)
  simp only [Narrow, wordOffset, ShapeHeader.size, ShapeWriter.recordHeaderWords] at hWide hOne ⊢
  omega

/-- The offset behind these records as a number that does not wrap around. -/
def offsetSum (f : RecordFormat) (records : List (Option Geometry)) : Int :=
  ShapeHeader.size / 2 +
    (records.map fun record => (f.storedWords record).toInt + ShapeWriter.recordHeaderWords).sum

theorem offsetSum_concat (f : RecordFormat) (records : List (Option Geometry))
    (record : Option Geometry) : f.offsetSum (records ++ [record]) =
      f.offsetSum records + ((f.storedWords record).toInt + 4) := by
  simp only [offsetSum, List.map_append, List.map_cons, List.map_nil, List.sum_append,
    List.sum_cons, List.sum_nil, ShapeWriter.recordHeaderWords]
  omega

/-- Behind narrow records the sum is where the next one starts. Behind any other
record 2 ^ 31 words are missing from it. -/
theorem offsetSum_eq (hTakes : ∀ record ∈ records, f.Takes record)
    (hSmall : f.wordOffset records < 2 ^ 31) :
    f.offsetSum records =
      if ∀ record ∈ records, f.Narrow record then (f.wordOffset records : Int)
      else (f.wordOffset records : Int) - 2 ^ 31 := by
  induction records using List.reverseRecOn with
  | nil => rfl
  | append_singleton records record ih =>
      have hNext := f.wordOffset_concat records record
      rw [ShapeWriter.recordHeaderWords] at hNext
      have hBefore := ih (fun other hOther => hTakes other (List.mem_append_left _ hOther))
        (by omega)
      have hLast := toInt_storedWords (hTakes record (by simp)) (by omega)
      have hAll : (∀ other ∈ records ++ [record], f.Narrow other) ↔
          (∀ other ∈ records, f.Narrow other) ∧ f.Narrow record := by
        rw [List.forall_mem_append, List.forall_mem_singleton]
      by_cases hNarrow : ∀ other ∈ records, f.Narrow other
      · rw [if_pos hNarrow] at hBefore
        rw [offsetSum_concat, if_congr (hAll.trans (and_iff_right hNarrow)) rfl rfl, hBefore, hLast,
          hNext]
        push_cast
        split <;> omega
      · -- The record behind one that is not narrow finds too little room to be another.
        obtain ⟨wide, hMember, hWide⟩ : ∃ other ∈ records, ¬f.Narrow other := by
          simpa only [not_forall, exists_prop] using hNarrow
        have hHalf := le_wordOffset_of_not_narrow hMember hWide
        have hRecord : f.Narrow record := by
          rw [Narrow]
          omega
        rw [if_neg hNarrow] at hBefore
        rw [if_pos hRecord] at hLast
        rw [offsetSum_concat, if_neg fun hBoth => hNarrow (hAll.mp hBoth).1, hBefore, hLast, hNext]
        push_cast
        omega

/-- While the shape file is short enough for its own header, no sum of the
offset wraps around. -/
theorem toInt_storedOffset_eq_sum (hTakes : ∀ record ∈ records, f.Takes record)
    (hSmall : f.wordOffset records < 2 ^ 31) :
    (f.storedOffset records).toInt = f.offsetSum records := by
  have hRange := offsetSum_eq hTakes hSmall
  induction records using List.reverseRecOn with
  | nil => rfl
  | append_singleton records record ih =>
      have hNext := f.wordOffset_concat records record
      rw [ShapeWriter.recordHeaderWords] at hNext
      have hTakesBefore : ∀ other ∈ records, f.Takes other :=
        fun other hOther => hTakes other (List.mem_append_left _ hOther)
      have hBefore := ih hTakesBefore (by omega) (offsetSum_eq hTakesBefore (by omega))
      have hLast := toInt_storedWords (hTakes record (by simp)) (by omega)
      have hHeader : (Int32.ofNat ShapeWriter.recordHeaderWords).toInt = 4 := rfl
      have hContent : (f.storedWords record + Int32.ofNat ShapeWriter.recordHeaderWords).toInt =
          (f.storedWords record).toInt + 4 := by
        rw [← hHeader]
        apply toInt_add_of_range
        all_goals
          rw [hLast, hHeader]
          split <;> omega
      rw [storedOffset_concat, toInt_add_of_range, hContent, hBefore, offsetSum_concat]
      all_goals
        rw [hContent, hBefore, ← offsetSum_concat, hRange]
        split <;> omega

/-- A record behind narrow ones is stored where it starts, and a record behind
any other one with a negative offset. -/
theorem toInt_storedOffset (hTakes : ∀ record ∈ records, f.Takes record)
    (hSmall : f.wordOffset records < 2 ^ 31) :
    (f.storedOffset records).toInt =
      if ∀ record ∈ records, f.Narrow record then (f.wordOffset records : Int)
      else (f.wordOffset records : Int) - 2 ^ 31 :=
  (toInt_storedOffset_eq_sum hTakes hSmall).trans (offsetSum_eq hTakes hSmall)

/-! ### Lengths of files -/

/-- Room for records that all take at least so many words. -/
theorem length_mul_le_wordOffset (least : Nat)
    (hLeast : ∀ record ∈ records, least ≤ f.recordWords record + ShapeWriter.recordHeaderWords) :
    records.length * least + 50 ≤ f.wordOffset records := by
  have hSum := List.card_nsmul_le_sum
    (records.map fun record => f.recordWords record + ShapeWriter.recordHeaderWords) least
    (List.forall_mem_map.mpr hLeast)
  rw [List.length_map, smul_eq_mul] at hSum
  simp only [wordOffset, ShapeHeader.size]
  omega

/-- Entries are at most twice as long as the numbers in front of a record. -/
theorem indexBytes_lt (hSmall : f.wordOffset records < 2 ^ 31) : indexBytes records < 2 ^ 32 := by
  have hRoom : records.length * 4 + 50 ≤ f.wordOffset records :=
    length_mul_le_wordOffset 4 fun record _ => Nat.le_add_left _ _
  simp only [indexBytes, ShapeHeader.size, ShapeWriter.entrySize]
  omega

/-- A record with a geometry takes more words than an entry has bytes. -/
theorem indexBytes_lt_of_geometries (hTakes : ∀ record ∈ records, f.Takes record)
    (hSome : none ∉ records) (hSmall : f.wordOffset records < 2 ^ 31) :
    indexBytes records < 2 ^ 31 := by
  have hLeast : ∀ record ∈ records, 14 ≤ f.recordWords record + ShapeWriter.recordHeaderWords := by
    intro record hMember
    cases record with
    | none => exact absurd hMember hSome
    | some g =>
        obtain ⟨length, hLength⟩ := hTakes _ hMember
        have hShortest := twenty_le_length hLength
        simp only [recordWords, hLength, Except.toOption, Option.getD_some,
          ShapeWriter.recordHeaderWords]
        omega
  have hRoom := length_mul_le_wordOffset 14 hLeast
  simp only [indexBytes, ShapeHeader.size, ShapeWriter.entrySize]
  omega

/-- The final header of the shape file says how long the file is. -/
theorem fileBytes_shapesHeader (hSmall : f.wordOffset records < 2 ^ 31) :
    (f.shapesHeader records).fileBytes = 2 * f.wordOffset records := by
  have hWords : (Int32.ofNat (f.wordOffset records)).toInt = f.wordOffset records :=
    Int32.toInt_ofNat_of_lt hSmall
  have hBytes := ShapeHeader.toNat_bytesOf (Int32.ofNat (f.wordOffset records))
  rw [hWords] at hBytes
  change (ShapeHeader.bytesOf (Int32.ofNat (f.wordOffset records))).toNat = _
  omega

/-- The final header of the index says how long the index is, if its length in
bytes is a signed word. -/
theorem fileBytes_indexHeader_eq_iff (hSmall : indexBytes records < 2 ^ 32) :
    (f.indexHeader records).fileBytes = indexBytes records ↔ indexBytes records < 2 ^ 31 := by
  have hEven : indexBytes records % 2 = 0 := by
    simp only [indexBytes, ShapeHeader.size, ShapeWriter.entrySize]
    omega
  have hWords := ShapeWriter.toInt_contentWords hEven hSmall
  have hBytes := ShapeHeader.toNat_bytesOf (ShapeWriter.contentWords (indexBytes records))
  rw [hWords] at hBytes
  change (ShapeHeader.bytesOf (ShapeWriter.contentWords (indexBytes records))).toNat = _ ↔ _
  split at hBytes <;> omega

end RecordFormat

end Shapefile
