import Shapefile.Proofs.Running
import Shapefile.Proofs.Table.RowReading

/-! Why a row is refused. A field takes the values of some types, and dates
only of years with four digits; a row that has a value for every field and
only values that the fields take is always encoded, to the bytes of a record. -/
namespace Shapefile

/-- The types of the values that a field of this type takes. Nothing has no
type and can stand anywhere, text is made of any value but a geometry, and
numbers are as good as one another. -/
def FieldType.takes : FieldType → Value → Bool
  | _, .null => true
  | .varchar, .geometry _ => false
  | .varchar, _ => true
  | .boolean, .boolean _ => true
  | .date, .date _ => true
  | .int, .int _ | .int, .bigInt _ | .int, .double _ => true
  | .bigInt, .int _ | .bigInt, .bigInt _ | .bigInt, .double _ => true
  | .double, .int _ | .double, .bigInt _ | .double, .double _ => true
  | _, _ => false

namespace Field

/-- Why a field refuses a value. -/
inductive Refuses (f : Field) : Value → RowFault → Prop where
  | type {value : Value} (hType : f.fieldType.takes value = false) :
      Refuses f value (.typeMismatch f.name f.typeCode value.typeName)
  | year {d : Date} (hType : f.fieldType = .date) (hYear : ¬(0 ≤ d.year ∧ d.year ≤ 9999)) :
      Refuses f (.date d) (.dateOutOfRange f.name d)

theorem encode_of_not_takes [Host] {f : Field} {value : Value}
    (hTakes : f.fieldType.takes value = false) (page : Text.CodePage) :
    f.encode page value = f.mismatch value := by
  obtain ⟨name, typeCode, length, decimals, offset, fieldType⟩ := f
  cases fieldType
  all_goals cases value
  all_goals first
    | rfl
    | cases hTakes

/-- A value of a type that the field takes is encoded, unless it is a date. -/
theorem encode_of_takes [Host] {f : Field} {value : Value} (hTakes : f.fieldType.takes value = true)
    (hDate : ∀ d, f.fieldType = .date → value ≠ .date d) (page : Text.CodePage) :
    ∃ bytes, f.encode page value = .ok bytes := by
  obtain ⟨name, typeCode, length, decimals, offset, fieldType⟩ := f
  cases fieldType
  all_goals cases value
  all_goals first
    | exact absurd rfl (hDate _ rfl)
    | exact ⟨_, rfl⟩
    | cases hTakes

theorem encode_date [Host] {f : Field} (hType : f.fieldType = .date) (page : Text.CodePage)
    (d : Date) : f.encode page (.date d) =
      if 0 ≤ d.year ∧ d.year ≤ 9999 then .ok (ascii d.compact)
      else .error (.row (.dateOutOfRange f.name d)) := by
  rw [encode, hType]
  rfl

/-- A field encodes a value that it does not refuse, and says why it refuses
one. -/
theorem encode_cases [Host] (f : Field) (page : Text.CodePage) (value : Value) :
    ((∃ bytes, f.encode page value = .ok bytes) ∧ ∀ fault, ¬f.Refuses value fault) ∨
      ∃ fault, f.encode page value = .error (.row fault) ∧ f.Refuses value fault := by
  cases hTakes : f.fieldType.takes value with
  | false => exact Or.inr ⟨_, encode_of_not_takes hTakes page, .type hTakes⟩
  | true =>
      by_cases hDate : ∃ d, f.fieldType = .date ∧ value = .date d
      · obtain ⟨d, hType, rfl⟩ := hDate
        by_cases hYear : 0 ≤ d.year ∧ d.year ≤ 9999
        · refine Or.inl ⟨⟨_, (encode_date hType page d).trans (if_pos hYear)⟩, ?_⟩
          rintro fault (⟨hOther⟩ | ⟨_, hOutside⟩)
          · rw [hTakes] at hOther
            cases hOther
          · exact hOutside hYear
        · exact Or.inr ⟨_, (encode_date hType page d).trans (if_neg hYear), .year hType hYear⟩
      · refine Or.inl ⟨encode_of_takes hTakes (fun d hType hSame => hDate ⟨d, hType, hSame⟩) page,
          ?_⟩
        rintro fault (⟨hOther⟩ | ⟨hType, _⟩)
        · rw [hTakes] at hOther
          cases hOther
        · exact hDate ⟨_, hType, rfl⟩

end Field

namespace TableHeader

/-- Why a table refuses a row: it has not a value for each field, or a field
refuses its value. -/
inductive Refuses (h : TableHeader) (values : List Value) : RowFault → Prop where
  | count (hCount : values.length ≠ h.fieldCount) :
      Refuses h values (.fieldCount values.length h.fieldCount)
  | cell {column : Nat} {f : Field} {value : Value} {fault : RowFault}
      (hCount : values.length = h.fieldCount) (hField : h.fields[column]? = some f)
      (hValue : values[column]? = some value) (hCell : f.Refuses value fault) :
      Refuses h values fault

/-- The cells of a row are encoded to the widths of their fields if no field
refuses its value, and otherwise one that does says why. -/
theorem mapM_encode_cases [Host] {fields : List Field} (hFields : ∀ f ∈ fields, f.WellFormed)
    (page : Text.CodePage) {values : List Value} (hCount : values.length = fields.length) :
    (∃ cells, (fields.zip values).mapM (fun (field, value) => field.encode page value) =
          .ok cells ∧ cells.flatten.length = (fields.map Field.length).sum ∧
        ∀ (column : Nat) (f : Field) value fault, fields[column]? = some f →
          values[column]? = some value → ¬f.Refuses value fault) ∨
      ∃ (column : Nat) (f : Field) (value : Value) (fault : RowFault),
        fields[column]? = some f ∧ values[column]? = some value ∧
        f.Refuses value fault ∧
        (fields.zip values).mapM (fun (field, value) => field.encode page value) =
          .error (.row fault) := by
  induction fields generalizing values with
  | nil =>
      refine Or.inl ⟨[], rfl, rfl, ?_⟩
      intro column f value fault hField
      cases hField
  | cons first fields ih =>
      cases values with
      | nil => cases hCount
      | cons value values =>
          rw [List.zip_cons_cons, List.mapM_cons]
          rcases first.encode_cases page value with ⟨⟨cell, hCell⟩, hTaken⟩ | ⟨fault, hCell, hWhy⟩
          · simp only [hCell, ok_bind]
            rcases ih (fun f hField => hFields f (List.mem_cons_of_mem first hField))
                (Nat.succ.inj hCount) with
              ⟨cells, hCells, hWidth, hAll⟩ |
                ⟨column, f, other, fault, hField, hValue, hWhy, hCells⟩
            · refine Or.inl ⟨cell :: cells, ?_, ?_, ?_⟩
              · rw [hCells]
                rfl
              · rw [List.flatten_cons, List.length_append, List.map_cons, List.sum_cons, hWidth,
                  Field.length_encode (hFields first List.mem_cons_self) hCell]
              · rintro (_ | column) f other fault hField hValue
                · cases hField
                  cases hValue
                  exact hTaken fault
                · exact hAll column f other fault hField hValue
            · refine Or.inr ⟨column + 1, f, other, fault, hField, hValue, hWhy, ?_⟩
              rw [hCells]
              rfl
          · refine Or.inr ⟨0, first, value, fault, rfl, rfl, hWhy, ?_⟩
            simp only [hCell]
            rfl

/-- A row that is not refused becomes a record of the declared length, so the
length of a record that was encoded is never at fault. -/
theorem encodeRow_cases [Host] {h : TableHeader} (hLaid : h.Laid) (values : List Value) :
    ((∃ record, h.encodeRow values = .ok record ∧ record.length = h.recordLength) ∧
        ∀ fault, ¬h.Refuses values fault) ∨
      ∃ fault, h.encodeRow values = .error (.row fault) ∧ h.Refuses values fault := by
  by_cases hCount : values.length = h.fieldCount
  · have hCounted : ¬values.length ≠ h.fieldCount := not_not_intro hCount
    rcases mapM_encode_cases hLaid.fields h.codePage hCount with
      ⟨cells, hCells, hWidth, hAll⟩ | ⟨column, f, value, fault, hField, hValue, hWhy, hCells⟩
    · have hLength : (inUse :: cells.flatten).length = h.recordLength := by
        rw [List.length_cons, hWidth, hLaid.recordLength_eq, stopFrom]
        omega
      have hChecked : h.checkRecord (inUse :: cells.flatten) = .ok () :=
        if_neg (not_not_intro hLength)
      refine Or.inl ⟨⟨inUse :: cells.flatten, ?_, hLength⟩, ?_⟩
      · unfold encodeRow
        rw [if_neg hCounted, hCells]
        simp only [ok_bind, hChecked]
        rfl
      · rintro fault (⟨hOther⟩ | ⟨_, hField, hValue, hCell⟩)
        · exact hOther hCount
        · exact hAll _ _ _ _ hField hValue hCell
    · refine Or.inr ⟨fault, ?_, .cell hCount hField hValue hWhy⟩
      unfold encodeRow
      rw [if_neg hCounted, hCells]
      rfl
  · refine Or.inr ⟨_, ?_, .count hCount⟩
    unfold encodeRow
    rw [if_pos hCount]
    rfl

/-- The length of a record is no reason to refuse a row. -/
theorem Refuses.ne_recordSize {h : TableHeader} {values : List Value} {fault : RowFault}
    (hRefuses : h.Refuses values fault) (found expected : Nat) :
    fault ≠ .recordSize found expected := by
  rcases hRefuses with _ | ⟨_, _, _, _ | _⟩
  all_goals nofun

/-- A row is encoded exactly if there is no reason to refuse it. -/
theorem encodeRow_ok_iff [Host] {h : TableHeader} (hLaid : h.Laid) (values : List Value) :
    (∃ record, h.encodeRow values = .ok record) ↔ ∀ fault, ¬h.Refuses values fault := by
  rcases encodeRow_cases hLaid values with ⟨⟨record, hEncode, _⟩, hTaken⟩ | ⟨fault, hEncode, hWhy⟩
  · exact ⟨fun _ => hTaken, fun _ => ⟨record, hEncode⟩⟩
  · refine ⟨?_, fun hTaken => absurd hWhy (hTaken fault)⟩
    rintro ⟨record, hOther⟩
    rw [hEncode] at hOther
    cases hOther

/-- A row that is refused is refused for a reason. -/
theorem refuses_of_encodeRow [Host] {h : TableHeader} (hLaid : h.Laid) {values : List Value}
    {e : TableError} (hError : h.encodeRow values = .error e) :
    ∃ fault, e = .row fault ∧ h.Refuses values fault := by
  rcases encodeRow_cases hLaid values with ⟨⟨record, hEncode, _⟩, _⟩ | ⟨fault, hEncode, hWhy⟩
  · rw [hEncode] at hError
    cases hError
  · rw [hEncode] at hError
    cases hError
    exact ⟨fault, rfl, hWhy⟩

end TableHeader

end Shapefile
