import Shapefile.Proofs.Table.KeptValues

/-! Columns made for a type of integers. They have ten characters for 32 bits
and eighteen for 64. The integers whose numerals fit are read back; a sign
takes a character like a digit, and what does not fit is encoded as nothing. -/
namespace Shapefile

namespace Field

/-- What is read back from a wide field of integers: the integers between the least and the
greatest numeral of its width, and nothing for the others. -/
theorem readBack_wide [Host] {f : Field} (hField : f.WellFormed) (hType : f.fieldType = .bigInt)
    {width : Nat} (hWidth : f.length = width + 1) {value : Value} {n : Int64}
    (hNumber : value.integer? = some n.toInt) (page : Text.CodePage) :
    f.readBack page value =
      .ok (if -(10 ^ width : Nat) < n.toInt ∧ n.toInt < (10 ^ (width + 1) : Nat) then .bigInt n
        else .null) := by
  obtain ⟨m, hSame, hRead⟩ := readNumber_bigInt n.minValue_le_toInt n.toInt_le
  rw [readBack_integer hField (.inr hType) hNumber, hType, hRead, Int64.toInt_inj.mp hSame, hWidth]
  simp only [Decimal.length_integer_le_iff]

end Field

namespace TableHeader

/-- A new table with one wide column of integers. -/
structure HasWideColumn (h : TableHeader) (width : Nat) : Prop where
  edited : h.Edited
  field : ∃ f, h.fields = [f] ∧ f.fieldType = .bigInt ∧ f.length = width

theorem exists_wideColumn (date : Date) (name : String) {width : Nat} (hWide : 10 ≤ width)
    (hWidth : width ≤ greatestWidth) :
    ∃ h, (TableHeader.new date).addColumn name 'N' width 0 = .ok h ∧ h.HasWideColumn width := by
  have hSome : ¬width = 0 := by omega
  have hLayout : storedLayout? 'N' width 0 = some ('N', width, 0) := by
    rw [storedLayout?, Nat.zero_min]
  have hType : FieldType.ofDescriptor (UInt8.ofNat 'N'.toNat) width 0 = .ok .bigInt :=
    congrArg Except.ok (if_neg (Nat.not_lt_of_le hWide))
  obtain ⟨h, hAdd, hField⟩ : ∃ h, (TableHeader.new date).addColumn name 'N' width 0 = .ok h ∧
      ∃ f, h.fields = [f] ∧ f.fieldType = .bigInt ∧ f.length = width := by
    unfold addColumn
    rw [if_neg hSome, hLayout]
    simp only [if_neg (Nat.not_lt_of_le hWidth), hType]
    exact ⟨_, rfl, _, rfl, rfl, rfl⟩
  exact ⟨h, hAdd, .add (.new date) hAdd, hField⟩

/-- A row of one integer is read back in full from such a table if it is in range. -/
theorem HasWideColumn.rowOf [Host] {h : TableHeader} {width : Nat}
    (hColumn : h.HasWideColumn (width + 1))
    {value : Value} {n : Int64} (hNumber : value.integer? = some n.toInt) :
    ∃ record, h.encodeRow [value] = .ok record ∧
      h.rowOf record.toArray =
        .ok [if -(10 ^ width : Nat) < n.toInt ∧ n.toInt < (10 ^ (width + 1) : Nat) then .bigInt n
          else .null] := by
  obtain ⟨hEdited, f, hFields, hType, hWidth⟩ := hColumn
  have hLaid := hEdited.laid
  have hField : h.fields[0]? = some f := by rw [hFields]; rfl
  have hBack := Field.readBack_wide (hLaid.fields f (List.mem_of_getElem? hField)) hType hWidth
    hNumber h.codePage
  have hRow : h.rowWith 0 value = [value] := by
    rw [rowWith, fieldCount, hFields]
    rfl
  obtain ⟨record, hEncode⟩ := encodeRow_rowWith hLaid hField hBack
  rw [hRow] at hEncode
  refine ⟨record, hEncode, ?_⟩
  rw [TableHeader.rowOf, hFields, List.mapM_cons, cellOf_encodeRow hLaid hEncode hField rfl, hBack]
  rfl

/-- Columns made for a type of integers accept every integer of it and read
back, as integers of 64 bits, those whose numerals fit: at most ten characters
for 32 bits and eighteen for 64, the sign among them. The others are lost. -/
theorem integer_columns_hold [Host] (date : Date) (name : String) :
    (∃ h, (TableHeader.new date).addColumnOfType name .int none = .ok h ∧
      ∀ n : Int32, ∃ record, h.encodeRow [.int n] = .ok record ∧
        h.rowOf record.toArray =
          .ok [if -1000000000 < n.toInt then .bigInt n.toInt64 else .null]) ∧
    ∃ h, (TableHeader.new date).addColumnOfType name .bigInt none = .ok h ∧
      ∀ n : Int64, ∃ record, h.encodeRow [.bigInt n] = .ok record ∧
        h.rowOf record.toArray =
          .ok [if -100000000000000000 < n.toInt ∧ n.toInt < 1000000000000000000 then .bigInt n
            else .null] := by
  constructor
  · obtain ⟨h, hAdd, hColumn⟩ := exists_wideColumn date name (le_refl 10) (by decide)
    refine ⟨h, hAdd, fun n => ?_⟩
    have hNumber : (Value.int n).integer? = some n.toInt64.toInt :=
      congrArg some (Int32.toInt_toInt64 n).symm
    obtain ⟨record, hEncode, hRow⟩ := hColumn.rowOf hNumber
    -- No integer of 32 bits has too many digits, so only those with a sign can be lost.
    have hGreatest : n.toInt < 2 ^ 31 := n.toInt_lt
    have hFits : (-(10 ^ 9 : Nat) < n.toInt ∧ n.toInt < (10 ^ (9 + 1) : Nat)) ↔
        -1000000000 < n.toInt := by omega
    simp only [Int32.toInt_toInt64, hFits] at hRow
    exact ⟨record, hEncode, hRow⟩
  · obtain ⟨h, hAdd, hColumn⟩ := exists_wideColumn date name (by decide : 10 ≤ 18) (by decide)
    refine ⟨h, hAdd, fun n => ?_⟩
    exact hColumn.rowOf rfl

/-- Ten digits and a sign are lost in a column for 32 bits, nineteen digits and a sign in one for
64, though each is an integer of the type that the column was made for. -/
theorem least_integer_lost :
    (∃ h record, (TableHeader.new .epoch).addColumnOfType "n" .int none = .ok h ∧
      h.encodeRow [.int (-1000000000)] = .ok record ∧ h.rowOf record.toArray = .ok [.null]) ∧
    ∃ h record, (TableHeader.new .epoch).addColumnOfType "n" .bigInt none = .ok h ∧
      h.encodeRow [.bigInt Int64.minValue] = .ok record ∧ h.rowOf record.toArray = .ok [.null] :=
  ⟨⟨_, _, rfl, rfl, by decide +kernel⟩, _, _, rfl, rfl, by decide +kernel⟩

end TableHeader

end Shapefile
