import Shapefile.Proofs.Calendar.CompactDate
import Shapefile.Proofs.Decimal.IntegerText
import Shapefile.Proofs.Table.CellText
import Shapefile.Proofs.Table.EditedHeader
import Shapefile.Proofs.Table.RecordCells
import Shapefile.Proofs.Table.RowRefusal
import Shapefile.Text.SampleSets

/-! Values that columns keep. Logical values, days of years with four digits
and integers are read back from columns made for them as they were written;
an integer with more characters than its column has is read back as nothing,
and so is nothing, whatever the column is made for. -/
namespace Shapefile

/-- The integer that a value is. -/
def Value.integer? : Value → Option Int
  | .int n => some n.toInt
  | .bigInt n => some n.toInt
  | _ => none

/-- The integers that are values have 64 bits. -/
theorem Value.integer?_bounds {value : Value} {n : Int} (hNumber : value.integer? = some n) :
    Int64.minValue.toInt ≤ n ∧ n ≤ Int64.maxValue.toInt := by
  cases value with
  | int m =>
      cases hNumber
      have hLow : Int64.minValue.toInt ≤ Int32.minValue.toInt := by decide
      have hHigh : Int32.maxValue.toInt ≤ Int64.maxValue.toInt := by decide
      exact ⟨hLow.trans m.minValue_le_toInt, m.toInt_le.trans hHigh⟩
  | bigInt m =>
      cases hNumber
      exact ⟨m.minValue_le_toInt, m.toInt_le⟩
  | _ => cases hNumber

namespace Field

/-- The type of a field is the one that its descriptor stands for. -/
theorem WellFormed.fieldType_eq {f : Field} (hField : f.WellFormed) {type : FieldType}
    (hType : FieldType.ofDescriptor f.typeCode f.length (f.decimals % 256) = .ok type) :
    f.fieldType = type :=
  Except.ok.inj (hField.stored_type.symm.trans hType)

theorem fieldType_of_whole {f : Field} (hField : f.WellFormed) (hCode : f.typeCode = 0x4E)
    (hWhole : f.decimals = 0) : f.fieldType = if f.length < 10 then .int else .bigInt := by
  apply hField.fieldType_eq
  rw [hCode, hWhole]
  rfl

/-! ### What is read from a cell -/

/-- The filler of a field is read as nothing. -/
theorem parse_filler [Host] {f : Field} (hField : f.WellFormed) (page : Text.CodePage) :
    f.parse page f.filler = .ok .null := by
  obtain ⟨more, hLength⟩ := Nat.exists_eq_succ_of_ne_zero (Nat.ne_of_gt hField.length_pos)
  have hStars : trim (Text.Utf8.decode (List.replicate f.length 0x2A)) =
      List.replicate f.length '*' :=
    cellText_replicate (by decide : IsPrintable '*') f.length
  have hZeros : trim (Text.Utf8.decode (List.replicate f.length 0x30)) =
      List.replicate f.length '0' :=
    cellText_replicate (by decide : IsPrintable '0') f.length
  -- Logical fields look at one byte and text fields at all of them; the others read text.
  rw [filler_eq hField, parse]
  cases hType : f.fieldType with
  | varchar => simp [FieldType.fillerByte]
  | boolean =>
      rw [hField.boolean_length hType]
      rfl
  | date => simp [FieldType.fillerByte, hZeros]
  | _ =>
      simp only [FieldType.fillerByte, hStars]
      rw [hLength, List.replicate_succ]
      rfl

theorem readBack_null [Host] {f : Field} (hField : f.WellFormed) (page : Text.CodePage) :
    f.readBack page .null = .ok .null :=
  parse_filler hField page

theorem readBack_boolean [Host] {f : Field} (hType : f.fieldType = .boolean) (page : Text.CodePage)
    (b : Bool) : f.readBack page (.boolean b) = .ok (.boolean b) := by
  rw [readBack, encode, hType]
  cases b with
  | false => simp [Value.isNull, ok_bind, parse, hType, readLogical]; rfl
  | true => simp [Value.isNull, ok_bind, parse, hType, readLogical]; rfl

/-- Days of years with four digits are read back. -/
theorem readBack_date [Host] {f : Field} (hType : f.fieldType = .date) (page : Text.CodePage)
    {d : Date}
    (hYear : 0 ≤ d.year ∧ d.year ≤ 9999) : f.readBack page (.date d) = .ok (.date d) := by
  obtain ⟨hFirst, hLast⟩ := hYear
  have hText : trim (Text.Utf8.decode (ascii d.compact)) = d.compact :=
    cellText_ascii fun c hMem =>
      isPrintable_of_isDigit (Date.isDigit_of_mem_compact hFirst hLast hMem)
  rw [readBack, encode_date hType, if_pos ⟨hFirst, hLast⟩, ok_bind, parse, hType]
  simp only [hText, Date.compact_not_zeros hFirst hLast, Date.ofCompact?_compact hFirst hLast]
  rfl

/-! ### Integers -/

/-- A field that holds integers. -/
def IsWhole (f : Field) : Prop := f.fieldType = .int ∨ f.fieldType = .bigInt

theorem isWhole_of_code {f : Field} (hField : f.WellFormed) (hCode : f.typeCode = 0x4E)
    (hWhole : f.decimals = 0) : f.IsWhole := by
  rw [IsWhole, fieldType_of_whole hField hCode hWhole]
  split
  · exact Or.inl rfl
  · exact Or.inr rfl

/-- A numeral in a field of integers is read as the type of the field asks. -/
theorem parse_numeral [Host] {f : Field} (hType : f.IsWhole) {bytes : List UInt8} {text : List Char}
    (hText : cellText bytes = text) (hNumeral : Decimal.IsNumeral text) (page : Text.CodePage) :
    f.parse page bytes = .ok (readNumber f.fieldType text) := by
  have hDecoded : trim (Text.Utf8.decode bytes) = text := hText
  rw [parse]
  rcases hType with hType | hType
  all_goals
    simp only [hType, hDecoded]
    split
    next => exact absurd rfl hNumeral.ne_nil
    next => exact absurd rfl (isPrintable_of_mem_numeral hNumeral List.mem_cons_self).2
    next => rfl

/-- A field of integers puts the numeral at its right end. -/
theorem encode_integer [Host] {f : Field} (hType : f.IsWhole) {value : Value} {n : Int}
    (hNumber : value.integer? = some n) (page : Text.CodePage) :
    f.encode page value = .ok (f.fitNumber (Decimal.integer n)) := by
  cases value with
  | int m =>
      cases hNumber
      rcases hType with hType | hType <;> simp [encode, hType, Value.isNull]
  | bigInt m =>
      cases hNumber
      rcases hType with hType | hType <;> simp [encode, hType, Value.isNull]
  | _ => cases hNumber

/-- An integer is read back if its numeral fits, and else nothing is. -/
theorem readBack_integer [Host] {f : Field} (hField : f.WellFormed) (hType : f.IsWhole)
    {value : Value} {n : Int} (hNumber : value.integer? = some n) (page : Text.CodePage) :
    f.readBack page value =
      .ok (if (Decimal.integer n).length ≤ f.length then readNumber f.fieldType (Decimal.integer n)
        else .null) := by
  rw [readBack, encode_integer hType hNumber, ok_bind]
  split
  next hFits =>
    have hNumeral := Decimal.isNumeral_integer n
    have hText := cellText_fitNumber hFits fun c hMem =>
      (isPrintable_of_mem_numeral hNumeral hMem).1
    exact parse_numeral hType hText hNumeral page
  next hWide => rw [fitNumber, if_neg hWide, parse_filler hField]

/-- A numeral of fewer than ten characters stands for a word of 32 bits. -/
theorem readNumber_int {n : Int} (hShort : (Decimal.integer n).length < 10) :
    ∃ m : Int32, m.toInt = n ∧ readNumber .int (Decimal.integer n) = .int m := by
  obtain ⟨hLow, hHigh⟩ := Decimal.length_integer_le_iff.mp (Nat.le_of_lt_succ hShort)
  have hFirst : Int32.minValue.toInt ≤ n := by
    have hLeast : Int32.minValue.toInt = -2147483648 := rfl
    omega
  have hLast : n ≤ Int32.maxValue.toInt := by
    have hGreatest : Int32.maxValue.toInt = 2147483647 := rfl
    omega
  refine ⟨Int32.ofInt n, Int32.toInt_ofInt_of_le hFirst (Int.lt_add_one_of_le hLast), ?_⟩
  rw [readNumber, Decimal.readInt32?_integer hFirst hLast]
  rfl

theorem readNumber_bigInt {n : Int} (hFirst : Int64.minValue.toInt ≤ n)
    (hLast : n ≤ Int64.maxValue.toInt) :
    ∃ m : Int64, m.toInt = n ∧ readNumber .bigInt (Decimal.integer n) = .bigInt m := by
  refine ⟨Int64.ofInt n, Int64.toInt_ofInt_of_le hFirst (Int.lt_add_one_of_le hLast), ?_⟩
  rw [readNumber, Decimal.readInt64?_integer hFirst hLast]
  rfl

/-! ### Columns and the values they are made for -/

/-- The values that a column is made for: nothing in any column, logical values, days and integers
in those of their own. -/
inductive Holds (f : Field) : Value → Prop where
  | null : Holds f .null
  | boolean (hCode : f.typeCode = 0x4C) (b : Bool) : Holds f (.boolean b)
  | date (hCode : f.typeCode = 0x44) {d : Date} (hYear : 0 ≤ d.year ∧ d.year ≤ 9999) :
      Holds f (.date d)
  | integer (hCode : f.typeCode = 0x4E) (hWhole : f.decimals = 0) {value : Value} {n : Int}
      (hNumber : value.integer? = some n) : Holds f value

/-- What a column gives back for a value that it is made for. Integers come back as words of 32
bits from columns of fewer than ten characters, and of 64 bits from wider ones. -/
inductive Returns (f : Field) : Value → Value → Prop where
  | null : Returns f .null .null
  | boolean (b : Bool) : Returns f (.boolean b) (.boolean b)
  | date (d : Date) : Returns f (.date d) (.date d)
  | int {value : Value} {n : Int32} (hNumber : value.integer? = some n.toInt)
      (hFits : (Decimal.integer n.toInt).length ≤ f.length) (hShort : f.length < 10) :
      Returns f value (.int n)
  | bigInt {value : Value} {n : Int64} (hNumber : value.integer? = some n.toInt)
      (hFits : (Decimal.integer n.toInt).length ≤ f.length) (hLong : 10 ≤ f.length) :
      Returns f value (.bigInt n)
  | wide {value : Value} {n : Int} (hNumber : value.integer? = some n)
      (hWide : f.length < (Decimal.integer n).length) : Returns f value .null

/-- A column reads back the values that it is made for. -/
theorem Holds.readBack [Host] {f : Field} (hField : f.WellFormed) {value : Value}
    (hHolds : f.Holds value)
    (page : Text.CodePage) : ∃ back, f.Returns value back ∧ f.readBack page value = .ok back := by
  cases hHolds with
  | null => exact ⟨_, .null, readBack_null hField page⟩
  | boolean hCode b =>
      have hType : f.fieldType = .boolean := hField.fieldType_eq (by rw [hCode]; rfl)
      exact ⟨_, .boolean b, readBack_boolean hType page b⟩
  | date hCode hYear =>
      have hType : f.fieldType = .date := hField.fieldType_eq (by rw [hCode]; rfl)
      exact ⟨_, .date _, readBack_date hType page hYear⟩
  | @integer hCode hWhole _ n hNumber =>
      have hType := fieldType_of_whole hField hCode hWhole
      have hBack := readBack_integer hField (isWhole_of_code hField hCode hWhole) hNumber page
      by_cases hFits : (Decimal.integer n).length ≤ f.length
      · by_cases hShort : f.length < 10
        · obtain ⟨m, rfl, hRead⟩ := readNumber_int (Nat.lt_of_le_of_lt hFits hShort)
          refine ⟨.int m, .int hNumber hFits hShort, ?_⟩
          rw [hBack, if_pos hFits, hType, if_pos hShort, hRead]
        · obtain ⟨hFirst, hLast⟩ := Value.integer?_bounds hNumber
          obtain ⟨m, rfl, hRead⟩ := readNumber_bigInt hFirst hLast
          refine ⟨.bigInt m, .bigInt hNumber hFits (Nat.le_of_not_lt hShort), ?_⟩
          rw [hBack, if_pos hFits, hType, if_neg hShort, hRead]
      · refine ⟨.null, .wide hNumber (Nat.lt_of_not_le hFits), ?_⟩
        rw [hBack, if_neg hFits]

/-- A value that is read back is not refused. -/
theorem not_refuses_of_readBack [Host] {f : Field} {page : Text.CodePage} {value back : Value}
    (hBack : f.readBack page value = .ok back) (fault : RowFault) : ¬f.Refuses value fault := by
  obtain ⟨bytes, hBytes, _⟩ := bind_eq_ok hBack
  rcases f.encode_cases page value with ⟨_, hTaken⟩ | ⟨_, hError, _⟩
  · exact hTaken fault
  · rw [hBytes] at hError
    cases hError

end Field

namespace TableHeader

/-- The row that has a value in one column alone. -/
def rowWith (h : TableHeader) (column : Nat) (value : Value) : List Value :=
  (List.replicate h.fieldCount .null).set column value

/-- A value that its column reads back makes a row of its own. -/
theorem encodeRow_rowWith [Host] {h : TableHeader} (hLaid : h.Laid) {column : Nat} {f : Field}
    (hField : h.fields[column]? = some f) {value back : Value}
    (hBack : f.readBack h.codePage value = .ok back) :
    ∃ record, h.encodeRow (h.rowWith column value) = .ok record := by
  rw [encodeRow_ok_iff hLaid]
  rintro fault (⟨hCount⟩ | ⟨_, hOther, hStands, hWhy⟩)
  · exact hCount (by rw [rowWith, List.length_set, List.length_replicate])
  · rw [rowWith, List.getElem?_set] at hStands
    split at hStands
    next hSame =>
      split at hStands
      · cases hStands
        subst hSame
        cases hField.symm.trans hOther
        exact Field.not_refuses_of_readBack hBack fault hWhy
      · cases hStands
    next hElse =>
      cases List.eq_of_mem_replicate (List.mem_of_getElem? hStands)
      have hWellFormed := hLaid.fields _ (List.mem_of_getElem? hOther)
      exact Field.not_refuses_of_readBack (Field.readBack_null hWellFormed h.codePage) fault hWhy

/-- Values come back from a table exact, or as nothing. Whatever columns it
has, a value that a column is made for can be put there, and wherever a row
with it is encoded the column is read as the value itself; only an integer
with more characters than the column has is read as nothing. -/
theorem column_keeps_values [Host] {h : TableHeader} (hEdited : Edited h) {column : Nat} {f : Field}
    (hField : h.fields[column]? = some f) {value : Value} (hHolds : f.Holds value) :
    (∃ record, h.encodeRow (h.rowWith column value) = .ok record) ∧
      ∃ back, f.Returns value back ∧
        ∀ values record, values[column]? = some value → h.encodeRow values = .ok record →
          h.cellOf record.toArray f = .ok back := by
  have hLaid := hEdited.laid
  have hWellFormed := hLaid.fields f (List.mem_of_getElem? hField)
  obtain ⟨back, hReturns, hBack⟩ := hHolds.readBack hWellFormed h.codePage
  refine ⟨encodeRow_rowWith hLaid hField hBack, back, hReturns,
    fun values record hValue hEncode => ?_⟩
  rw [cellOf_encodeRow hLaid hEncode hField hValue, hBack]

/-- A table of readings: whether they were taken, when, and how many. -/
def readingsHeader : TableHeader :=
  let columns : Except TableError TableHeader := do
    let taken ← (TableHeader.new .epoch).addColumn "taken" 'L' 1 0
    let dated ← taken.addColumn "day" 'D' 8 0
    dated.addColumn "count" 'N' 4 0
  columns.toOption.getD (.new .epoch)

theorem readingsHeader_edited : readingsHeader.Edited := by
  have hColumns : ∃ taken dated, (TableHeader.new .epoch).addColumn "taken" 'L' 1 0 = .ok taken ∧
      taken.addColumn "day" 'D' 8 0 = .ok dated ∧
      dated.addColumn "count" 'N' 4 0 = .ok readingsHeader := ⟨_, _, rfl, rfl, rfl⟩
  obtain ⟨taken, dated, hTaken, hDay, hCount⟩ := hColumns
  exact .add (.add (.add (.new .epoch) hTaken) hDay) hCount

theorem column_keeps_values_readings : ∃ f, readingsHeader.fields[2]? = some f ∧
    (∃ record, readingsHeader.encodeRow [.boolean true, .null, .bigInt (-999)] = .ok record ∧
      readingsHeader.cellOf record.toArray f = .ok (.int (-999))) ∧
    ∃ record, readingsHeader.encodeRow (readingsHeader.rowWith 2 (.int (-1000))) = .ok record ∧
      readingsHeader.cellOf record.toArray f = .ok .null := by
  obtain ⟨f, hField, hCode, hWhole, hLength⟩ : ∃ f, readingsHeader.fields[2]? = some f ∧
      f.typeCode = 0x4E ∧ f.decimals = 0 ∧ f.length = 4 := ⟨_, rfl, rfl, rfl, rfl⟩
  refine ⟨f, hField, ?_, ?_⟩
  · obtain ⟨_, back, hReturns, hRead⟩ := column_keeps_values readingsHeader_edited hField
      (.integer hCode hWhole (rfl : (Value.bigInt (-999)).integer? = some (-999)))
    obtain ⟨record, hRecord⟩ : ∃ record,
        readingsHeader.encodeRow [.boolean true, .null, .bigInt (-999)] = .ok record := ⟨_, rfl⟩
    refine ⟨record, hRecord, (hRead _ _ rfl hRecord).trans (congrArg _ ?_)⟩
    cases hReturns with
    | @int _ n hNumber _ _ =>
        have hSame : (-999 : Int32).toInt = n.toInt := Option.some.inj hNumber
        rw [Int32.toInt_inj.mp hSame]
    | bigInt _ _ hLong => omega
    | wide hNumber hWide =>
        cases hNumber
        rw [hLength] at hWide
        exact absurd hWide (by decide)
  · obtain ⟨⟨record, hRecord⟩, back, hReturns, hRead⟩ := column_keeps_values readingsHeader_edited
      hField (.integer hCode hWhole (rfl : (Value.int (-1000)).integer? = some (-1000)))
    refine ⟨record, hRecord, (hRead _ _ rfl hRecord).trans (congrArg _ ?_)⟩
    cases hReturns with
    | int hNumber hFits _ | bigInt hNumber hFits _ =>
        rw [← Option.some.inj hNumber, hLength] at hFits
        exact absurd hFits (by decide)
    | wide _ _ => rfl

end TableHeader

end Shapefile
