import Mathlib.Algebra.GroupWithZero.Nat
import Shapefile.Table.Header

/-! Headers that are built up column by column. Their fields lie one behind
the other from the byte behind the deletion flag, both lengths are those of
the layout, and every field has the width that its values need. -/
namespace Shapefile

/-- The width and the type code of a field go with the values it holds, also
when the number of places is cut to the byte that a file has for it. -/
structure Field.WellFormed (f : Field) : Prop where
  length_pos : 0 < f.length
  length_le : f.length ≤ TableHeader.greatestWidth
  stored_type : FieldType.ofDescriptor f.typeCode f.length (f.decimals % 256) = .ok f.fieldType
  boolean_length : f.fieldType = .boolean → f.length = 1
  date_length : f.fieldType = .date → f.length = 8

/-- A field that a descriptor gives back: its width is there and fits a byte,
and its type is the one that the other parts of the descriptor stand for. -/
structure Field.Storable (f : Field) : Prop where
  length_pos : 0 < f.length
  length_le : f.length ≤ TableHeader.greatestWidth
  stored_type : FieldType.ofDescriptor f.typeCode f.length (f.decimals % 256) = .ok f.fieldType

theorem Field.WellFormed.storable {f : Field} (hField : f.WellFormed) : f.Storable :=
  ⟨hField.length_pos, hField.length_le, hField.stored_type⟩

/-- Fields one behind the other, the first one at an offset. -/
def LaidFrom : Nat → List Field → Prop
  | _, [] => True
  | offset, f :: fields => f.offset = offset ∧ LaidFrom f.stop fields

/-- Where fields from an offset end. -/
def stopFrom (offset : Nat) (fields : List Field) : Nat :=
  offset + (fields.map Field.length).sum

theorem stopFrom_cons (first : Field) (fields : List Field) :
    stopFrom first.offset (first :: fields) = stopFrom first.stop fields := by
  rw [stopFrom, stopFrom, Field.stop, List.map_cons, List.sum_cons, Nat.add_assoc]

theorem LaidFrom.concat {offset : Nat} {fields : List Field} {field : Field}
    (hLaid : LaidFrom offset fields) (hOffset : field.offset = stopFrom offset fields) :
    LaidFrom offset (fields ++ [field]) := by
  induction fields generalizing offset with
  | nil => exact ⟨hOffset, True.intro⟩
  | cons first fields ih =>
      obtain ⟨rfl, hRest⟩ := hLaid
      exact ⟨rfl, ih hRest (hOffset.trans (stopFrom_cons first fields))⟩

/-- Each of the fields ends where they all do, or before. -/
theorem LaidFrom.stop_le {offset : Nat} {fields : List Field} (hLaid : LaidFrom offset fields)
    {f : Field} (hField : f ∈ fields) : f.stop ≤ stopFrom offset fields := by
  induction fields generalizing offset with
  | nil => cases hField
  | cons first fields ih =>
      obtain ⟨rfl, hRest⟩ := hLaid
      rw [stopFrom_cons]
      rcases List.mem_cons.mp hField with rfl | hLater
      · exact Nat.le_add_right _ _
      · exact ih hRest hLater

/-- A field ends where the widths up to its own say. -/
theorem LaidFrom.stop_eq {offset column : Nat} {fields : List Field} {f : Field}
    (hLaid : LaidFrom offset fields) (hField : fields[column]? = some f) :
    f.stop = stopFrom offset (fields.take (column + 1)) := by
  induction fields generalizing offset column with
  | nil => cases hField
  | cons first fields ih =>
      obtain ⟨rfl, hRest⟩ := hLaid
      rw [List.take_succ_cons, stopFrom_cons]
      cases column with
      | zero =>
          cases hField
          rfl
      | succ column => exact ih hRest hField

namespace TableHeader

/-- The fields are well-formed and lie behind one another, and the lengths of
header and record are those of the layout. -/
structure Laid (h : TableHeader) : Prop where
  fields : ∀ f ∈ h.fields, f.WellFormed
  offsets : LaidFrom 1 h.fields
  headerLength_eq : h.headerLength = leastLength + descriptorSize * h.fields.length
  recordLength_eq : h.recordLength = stopFrom 1 h.fields

/-- The descriptors of the fields fill the header to its end, and give the
fields back. Records may be longer or shorter than their fields. -/
structure Tight (h : TableHeader) : Prop where
  fields : ∀ f ∈ h.fields, f.Storable
  offsets : LaidFrom 1 h.fields
  headerLength_eq : h.headerLength = leastLength + descriptorSize * h.fields.length

theorem Laid.tight {h : TableHeader} (hLaid : h.Laid) : h.Tight :=
  ⟨fun f hField => (hLaid.fields f hField).storable, hLaid.offsets, hLaid.headerLength_eq⟩

/-- A header that was made new and given columns. -/
inductive Built : TableHeader → Prop where
  | new (date : Date) : Built (.new date)
  | add {h next : TableHeader} {name : String} {typeCode : Char} {length decimals : Nat}
      (prior : Built h) (last : h.addColumn name typeCode length decimals = .ok next) : Built next

/-- The layouts in which columns are stored: one for each type code. -/
theorem storedLayout?_cases {typeCode code : Char} {length decimals width places : Nat}
    (hLength : 0 < length)
    (hStored : storedLayout? typeCode length decimals = some (code, width, places)) :
    0 < width ∧
      ((code = 'C' ∧ places = 0) ∨ (code = 'D' ∧ width = 8 ∧ places = 0) ∨ code = 'F' ∨
        (code = 'N' ∧ places < width) ∨ (code = 'L' ∧ width = 1 ∧ places = 0)) := by
  have hPlaces : min decimals (length - 1) < length := by omega
  unfold storedLayout? at hStored
  split at hStored
  all_goals cases hStored
  all_goals simp [hLength, hPlaces]

/-- The field of a stored layout is well-formed. -/
theorem wellFormed_of_storedLayout {typeCode code : Char} {length decimals width places : Nat}
    {name : String} {offset : Nat} {fieldType : FieldType} (hLength : 0 < length)
    (hStored : storedLayout? typeCode length decimals = some (code, width, places))
    (hWidth : width ≤ greatestWidth)
    (hType : FieldType.ofDescriptor (UInt8.ofNat code.toNat) width places = .ok fieldType) :
    Field.WellFormed
      { name, typeCode := UInt8.ofNat code.toNat, length := width, decimals := places, offset,
        fieldType } := by
  obtain ⟨hPositive, hCases⟩ := storedLayout?_cases hLength hStored
  rcases hCases with ⟨rfl, rfl⟩ | ⟨rfl, rfl, rfl⟩ | rfl | ⟨rfl, hPlaces⟩ | ⟨rfl, rfl, rfl⟩
  · cases hType
    exact ⟨hPositive, hWidth, rfl, nofun, nofun⟩
  · cases hType
    exact ⟨hPositive, hWidth, rfl, nofun, fun _ => rfl⟩
  · cases hType
    exact ⟨hPositive, hWidth, rfl, nofun, nofun⟩
  · have hByte : places % 256 = places := by
      rw [greatestWidth] at hWidth
      omega
    have hNumber : fieldType ≠ .boolean ∧ fieldType ≠ .date := by
      have hOk := Except.ok.inj hType
      rw [← hOk]
      split
      · split <;> decide
      · decide
    refine ⟨hPositive, hWidth, ?_, ?_, ?_⟩
    · simp only [hByte]
      exact hType
    · intro hBoolean
      exact absurd hBoolean hNumber.1
    · intro hDate
      exact absurd hDate hNumber.2
  · cases hType
    exact ⟨hPositive, hWidth, rfl, fun _ => rfl, nofun⟩

/-- What adding a column does: one more field behind the others, with the kept
part of the name, in a layout that it can be stored with. -/
theorem addColumn_ok {h next : TableHeader} {name : String} {typeCode : Char}
    {length decimals : Nat} (hAdd : h.addColumn name typeCode length decimals = .ok next) :
    ∃ (code : Char) (width places : Nat) (fieldType : FieldType), 0 < length ∧
      storedLayout? typeCode length decimals = some (code, width, places) ∧
      width ≤ greatestWidth ∧
      FieldType.ofDescriptor (UInt8.ofNat code.toNat) width places = .ok fieldType ∧
      next = { h with
        fields := h.fields ++
          [{ name := columnName name, typeCode := UInt8.ofNat code.toNat, length := width,
             decimals := places, offset := h.recordLength, fieldType }]
        recordLength := h.recordLength + width
        headerLength := leastLength + descriptorSize * (h.fields.length + 1) } := by
  unfold addColumn at hAdd
  by_cases hZero : length = 0
  · rw [if_pos hZero] at hAdd
    cases hAdd
  · rw [if_neg hZero] at hAdd
    cases hStored : storedLayout? typeCode length decimals with
    | none =>
        simp only [hStored] at hAdd
        cases hAdd
    | some layout =>
        obtain ⟨code, width, places⟩ := layout
        simp only [hStored] at hAdd
        by_cases hWide : greatestWidth < width
        · rw [if_pos hWide] at hAdd
          cases hAdd
        · rw [if_neg hWide] at hAdd
          cases hType : FieldType.ofDescriptor (UInt8.ofNat code.toNat) width places with
          | error e =>
              rw [hType] at hAdd
              cases hAdd
          | ok fieldType =>
              rw [hType] at hAdd
              cases hAdd
              exact ⟨code, width, places, fieldType, Nat.pos_of_ne_zero hZero, rfl,
                Nat.le_of_not_lt hWide, hType, rfl⟩

/-- The field that is added is well-formed. -/
theorem addColumn_cases {h next : TableHeader} {name : String} {typeCode : Char}
    {length decimals : Nat} (hAdd : h.addColumn name typeCode length decimals = .ok next) :
    ∃ field : Field, field.WellFormed ∧ field.offset = h.recordLength ∧
      next = { h with
        fields := h.fields ++ [field]
        recordLength := h.recordLength + field.length
        headerLength := leastLength + descriptorSize * (h.fields.length + 1) } := by
  obtain ⟨code, width, places, fieldType, hLength, hStored, hWidth, hType, rfl⟩ := addColumn_ok hAdd
  exact ⟨_, wellFormed_of_storedLayout hLength hStored hWidth hType, rfl, rfl⟩

theorem laid_new (date : Date) : (TableHeader.new date).Laid :=
  ⟨nofun, True.intro, rfl, rfl⟩

/-- A column more keeps the layout in step. -/
theorem Laid.addColumn {h next : TableHeader} {name : String} {typeCode : Char}
    {length decimals : Nat} (hLaid : h.Laid)
    (hAdd : h.addColumn name typeCode length decimals = .ok next) : next.Laid := by
  obtain ⟨field, hField, hOffset, rfl⟩ := addColumn_cases hAdd
  refine ⟨?_, ?_, ?_, ?_⟩
  · intro f hMember
    rcases List.mem_append.mp hMember with hBefore | hLast
    · exact hLaid.fields f hBefore
    · rw [List.mem_singleton.mp hLast]
      exact hField
  · exact hLaid.offsets.concat (hOffset.trans hLaid.recordLength_eq)
  · simp only [List.length_append, List.length_cons, List.length_nil]
  · simp only [hLaid.recordLength_eq, stopFrom, List.map_append, List.map_cons, List.map_nil,
      List.sum_append, List.sum_cons, List.sum_nil]
    omega

/-- Every header built column by column is laid out, in the standard code
page. -/
theorem Built.laid {h : TableHeader} (hBuilt : Built h) :
    h.Laid ∧ h.codePage = .standard := by
  induction hBuilt with
  | new date => exact ⟨laid_new date, rfl⟩
  | add prior last ih =>
      refine ⟨ih.1.addColumn last, ?_⟩
      obtain ⟨_, _, _, rfl⟩ := addColumn_cases last
      exact ih.2

end TableHeader

end Shapefile
