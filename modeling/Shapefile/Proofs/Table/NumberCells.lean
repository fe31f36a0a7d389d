import Shapefile.Proofs.Decimal.NumeralForm
import Shapefile.Proofs.Table.KeptValues

/-! What is written to columns of numbers. It is either stars, which stand for
nothing, or blanks and a numeral. The one exception are doubles that are not
finite in columns of integers: if their name fits it is written, where a
column with decimal places would have stars. -/
namespace Shapefile

namespace Field

/-- A cell of numbers: stars to its end, or blanks and a numeral. -/
def IsNumberCell (f : Field) (bytes : List UInt8) : Prop :=
  bytes = List.replicate f.length 0x2A ∨
    ∃ blanks text, bytes = List.replicate blanks 0x20 ++ ascii text ∧ Decimal.IsNumeral text

/-- Fields of these codes hold integers or doubles. -/
theorem isWhole_or_double {f : Field} (hField : f.WellFormed)
    (hCode : f.typeCode = 0x4E ∨ f.typeCode = 0x46) : f.IsWhole ∨ f.fieldType = .double := by
  rcases hCode with hCode | hCode
  · have hType := hField.fieldType_eq (by rw [hCode]; rfl)
    rw [IsWhole, hType]
    split
    · split
      · exact Or.inl (Or.inl rfl)
      · exact Or.inl (Or.inr rfl)
    · exact Or.inr rfl
  · apply Or.inr
    apply hField.fieldType_eq
    rw [hCode]
    rfl

/-- The filler of a field of numbers. -/
theorem filler_of_numeric {f : Field} (hField : f.WellFormed)
    (hNumeric : f.IsWhole ∨ f.fieldType = .double) : f.filler = List.replicate f.length 0x2A := by
  rw [filler_eq hField]
  rcases hNumeric with (hType | hType) | hType
  all_goals rw [hType, FieldType.fillerByte]

/-- Text at the right end of a field makes a cell of numbers if it is a numeral, and if it is too
wide to be there at all. -/
theorem isNumberCell_fitNumber_iff {f : Field} (hField : f.WellFormed)
    (hNumeric : f.IsWhole ∨ f.fieldType = .double) {text : List Char}
    (hChars : ∀ c ∈ text, IsPrintable c ∧ c ≠ '*') :
    f.IsNumberCell (f.fitNumber text) ↔ f.length < text.length ∨ Decimal.IsNumeral text := by
  by_cases hFits : text.length ≤ f.length
  · have hText := cellText_fitNumber hFits fun c hMem => (hChars c hMem).1
    -- Whatever form the cell has, it is trimmed to the text, which is no row of stars.
    constructor
    · rintro (hStars | ⟨blanks, numeral, hSame, hNumeral⟩)
      · have hAll : List.replicate f.length '*' = text := by
          rw [← hText, hStars]
          exact (cellText_replicate (by decide : IsPrintable '*') f.length).symm
        have hMem : '*' ∈ text := by
          rw [← hAll, List.mem_replicate]
          exact ⟨Nat.ne_of_gt hField.length_pos, rfl⟩
        exact absurd rfl (hChars '*' hMem).2
      · rw [hSame, cellText_blanks fun c hMem => (isPrintable_of_mem_numeral hNumeral hMem).1]
          at hText
        rw [← hText]
        exact Or.inr hNumeral
    · rintro (hWide | hNumeral)
      · exact absurd hFits (Nat.not_le_of_lt hWide)
      · exact Or.inr ⟨_, text, if_pos hFits, hNumeral⟩
  · refine iff_of_true (Or.inl ?_) (Or.inl (Nat.lt_of_not_le hFits))
    rw [fitNumber, if_neg hFits, filler_of_numeric hField hNumeric]

/-- Every numeral makes a cell of numbers. -/
theorem isNumberCell_of_isNumeral {f : Field} (hField : f.WellFormed)
    (hNumeric : f.IsWhole ∨ f.fieldType = .double) {text : List Char}
    (hNumeral : Decimal.IsNumeral text) : f.IsNumberCell (f.fitNumber text) :=
  (isNumberCell_fitNumber_iff hField hNumeric fun _ => isPrintable_of_mem_numeral hNumeral).mpr
    (Or.inr hNumeral)

/-- A double makes a cell of numbers if it is finite or its name is too wide. -/
theorem isNumberCell_fixed_iff {f : Field} (hField : f.WellFormed)
    (hNumeric : f.IsWhole ∨ f.fieldType = .double) {places : Nat} {x : Float} :
    f.IsNumberCell (f.fitNumber (Decimal.fixed places x)) ↔
      (x.isFinite = false → f.length < (Decimal.fixed places x).length) := by
  rw [isNumberCell_fitNumber_iff hField hNumeric fun _ => isPrintable_of_mem_fixed,
    Decimal.isNumeral_fixed_iff]
  cases x.isFinite with
  | false => simp
  | true => simp

/-- A field of integers formats a double, whatever it is. -/
theorem encode_double_of_isWhole [Host] {f : Field} (hType : f.IsWhole) (page : Text.CodePage)
    (x : Float) : f.encode page (.double x) = .ok (f.fitNumber (Decimal.fixed 0 x)) := by
  rcases hType with hType | hType <;> simp [encode, hType, Value.isNull]

/-- A field of doubles formats those that are finite. -/
theorem encode_of_double [Host] {f : Field} (hType : f.fieldType = .double) {value : Value}
    {x : Float} (hNumber : value.asFloat? = some x) (page : Text.CodePage) :
    f.encode page value =
      .ok (if x.isFinite then f.fitNumber (Decimal.fixed f.decimals x) else f.filler) := by
  have hSome : ¬value.isNull = true := by
    cases value <;> simp_all [Value.isNull, Value.asFloat?]
  unfold encode
  rw [if_neg hSome, hType]
  simp only [hNumber]

/-- A field of numbers takes numbers only, and the empty value. -/
theorem number_of_encode [Host] {f : Field} (hNumeric : f.IsWhole ∨ f.fieldType = .double)
    {page : Text.CodePage} {value : Value} {bytes : List UInt8}
    (hEncode : f.encode page value = .ok bytes) :
    value = .null ∨ ∃ x, value.asFloat? = some x := by
  have hRefused (hTakes : f.fieldType.takes value = false) : False := by
    rw [encode_of_not_takes hTakes] at hEncode
    cases hEncode
  cases value with
  | null => exact Or.inl rfl
  | int n => exact Or.inr ⟨_, rfl⟩
  | bigInt n => exact Or.inr ⟨_, rfl⟩
  | double x => exact Or.inr ⟨_, rfl⟩
  | _ =>
      refine (hRefused ?_).elim
      rcases hNumeric with (hType | hType) | hType
      all_goals
        rw [hType]
        rfl

/-- What a field of numbers is encoded in is a cell of numbers, unless it is the name of a double
in a field of integers that is wide enough for it. -/
theorem isNumberCell_encode_iff [Host] {f : Field} (hField : f.WellFormed)
    (hNumeric : f.IsWhole ∨ f.fieldType = .double) {page : Text.CodePage} {value : Value}
    {bytes : List UInt8} (hEncode : f.encode page value = .ok bytes) :
    f.IsNumberCell bytes ↔ ∀ x, f.IsWhole → value = .double x → x.isFinite = false →
      f.length < (Decimal.fixed 0 x).length := by
  have hFiller : f.IsNumberCell f.filler := Or.inl (filler_of_numeric hField hNumeric)
  have hNumeral {text : List Char} (hText : Decimal.IsNumeral text) :=
    isNumberCell_of_isNumeral hField hNumeric hText
  rcases number_of_encode hNumeric hEncode with rfl | ⟨x, hNumber⟩
  · cases hEncode
    exact iff_of_true hFiller nofun
  · rcases hNumeric with hWhole | hDouble
    · cases value with
      | int n =>
          rw [encode_integer hWhole rfl] at hEncode
          cases hEncode
          exact iff_of_true (hNumeral (Decimal.isNumeral_integer n.toInt)) nofun
      | bigInt n =>
          rw [encode_integer hWhole rfl] at hEncode
          cases hEncode
          exact iff_of_true (hNumeral (Decimal.isNumeral_integer n.toInt)) nofun
      | double y =>
          rw [encode_double_of_isWhole hWhole] at hEncode
          cases hEncode
          rw [isNumberCell_fixed_iff hField (.inl hWhole)]
          constructor
          · intro hNamed x _ hSame
            cases hSame
            exact hNamed
          · exact fun hNamed => hNamed y hWhole rfl
      | _ => cases hNumber
    · rw [encode_of_double hDouble hNumber] at hEncode
      cases hEncode
      refine iff_of_true ?_ fun y hWhole => ?_
      · split
        next hFinite => exact hNumeral (Decimal.isNumeral_fixed_iff.mpr hFinite)
        next => exact hFiller
      · rcases hWhole with hType | hType
        all_goals
          rw [hDouble] at hType
          cases hType

end Field

namespace TableHeader

/-- Columns of numbers hold numbers. In every row that is encoded, a column of
numbers is stars or blanks and a numeral, exactly unless it is a column of
integers whose value is a double that is not finite and has a name no wider
than the column: that name is written. -/
theorem number_column_iff [Host] {h : TableHeader} (hEdited : Edited h) {values : List Value}
    {record : List UInt8} (hEncode : h.encodeRow values = .ok record) {column : Nat} {f : Field}
    {value : Value} (hField : h.fields[column]? = some f) (hValue : values[column]? = some value)
    (hCode : f.typeCode = 0x4E ∨ f.typeCode = 0x46) :
    f.IsNumberCell (f.slice record) ↔
      ∀ x, f.IsWhole → value = .double x → x.isFinite = false →
        f.length < (Decimal.fixed 0 x).length := by
  have hLaid := hEdited.laid
  have hWellFormed := hLaid.fields f (List.mem_of_getElem? hField)
  exact Field.isNumberCell_encode_iff hWellFormed (Field.isWhole_or_double hWellFormed hCode)
    (encode_slice hLaid hEncode hField hValue)

theorem number_column_rounded : ∃ f record, readingsHeader.fields[2]? = some f ∧
    readingsHeader.encodeRow [.null, .null, .double (-2.5)] = .ok record ∧
    f.slice record = [0x20, 0x20, 0x2D, 0x32] ∧ f.IsNumberCell (f.slice record) := by
  obtain ⟨f, record, hField, hEncode, hSlice, hCode⟩ : ∃ f record,
      readingsHeader.fields[2]? = some f ∧
      readingsHeader.encodeRow [.null, .null, .double (-2.5)] = .ok record ∧
      f.slice record = [0x20, 0x20, 0x2D, 0x32] ∧ f.typeCode = 0x4E :=
    ⟨_, _, rfl, rfl, by decide +kernel, rfl⟩
  refine ⟨f, record, hField, hEncode, hSlice, ?_⟩
  refine (number_column_iff readingsHeader_edited hEncode hField rfl (.inl hCode)).mpr ?_
  intro x _ hSame hOther
  cases hSame
  exact absurd hOther (by decide +kernel)

/-- A double that is no number stands by its name in a column of four digits. -/
theorem name_in_number_column : ∃ f record, readingsHeader.fields[2]? = some f ∧
    f.typeCode = 0x4E ∧ readingsHeader.encodeRow [.null, .null, .double (0 / 0)] = .ok record ∧
    f.slice record = Field.ascii [' ', 'N', 'a', 'N'] ∧ ¬f.IsNumberCell (f.slice record) := by
  obtain ⟨f, record, hField, hCode, hEncode, hSlice, hWhole, hLength⟩ : ∃ f record,
      readingsHeader.fields[2]? = some f ∧ f.typeCode = 0x4E ∧
      readingsHeader.encodeRow [.null, .null, .double (0 / 0)] = .ok record ∧
      f.slice record = Field.ascii [' ', 'N', 'a', 'N'] ∧ f.IsWhole ∧ f.length = 4 :=
    ⟨_, _, rfl, rfl, rfl, by decide +kernel, .inl rfl, rfl⟩
  refine ⟨f, record, hField, hCode, hEncode, hSlice, fun hNumber => ?_⟩
  have hLaid := readingsHeader_edited.laid
  have hWellFormed := hLaid.fields f (List.mem_of_getElem? hField)
  have hCell := encode_slice hLaid hEncode hField rfl
  have hWide := (Field.isNumberCell_encode_iff hWellFormed (.inl hWhole) hCell).mp hNumber
    (0 / 0) hWhole rfl (by decide +kernel)
  rw [hLength] at hWide
  exact absurd hWide (by decide +kernel)

end TableHeader

end Shapefile
