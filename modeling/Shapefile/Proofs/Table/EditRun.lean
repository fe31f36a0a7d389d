import Shapefile.Proofs.Running
import Shapefile.Proofs.Table.EditedHeader
import Shapefile.Proofs.Table.RowReading
import Shapefile.Proofs.Text.CharacterSizes

/-! Any edits of a new header, one after the other, whether or not they
succeed. Adding and removing bring the offsets and both lengths up to date in
different ways and agree on the layout; every check comes before the first
change, so an edit that fails leaves the header as it was. -/
namespace Shapefile

/-- A field as adding a column makes it: a short name, one of five type codes,
and the width and the places that go with the code. -/
structure Field.Normal (f : Field) : Prop where
  name_pos : 0 < f.name.utf8ByteSize
  name_le : f.name.utf8ByteSize ≤ 10
  code_mem : FieldType.code f.typeCode ∈ ['C', 'D', 'F', 'N', 'L']
  length_pos : 0 < f.length
  length_le : f.length ≤ 255
  date_length : FieldType.code f.typeCode = 'D' → f.length = 8
  logical_length : FieldType.code f.typeCode = 'L' → f.length = 1
  places_lt : FieldType.code f.typeCode = 'N' → f.decimals < f.length
  type_eq : FieldType.ofDescriptor f.typeCode f.length f.decimals = .ok f.fieldType

/-- The field wherever it lies. -/
def Field.unplaced (f : Field) : Field := { f with offset := 0 }

theorem map_unplaced_placeFrom (offset : Nat) (fields : List Field) :
    (placeFrom offset fields).map Field.unplaced = fields.map Field.unplaced := by
  induction fields generalizing offset with
  | nil => rfl
  | cons f fields ih =>
      rw [placeFrom, List.map_cons, List.map_cons, ih]
      rfl

/-- What a field is made of does not depend on its place. -/
theorem normal_of_mem_placeFrom {offset : Nat} {fields : List Field}
    (hFields : ∀ f ∈ fields, f.Normal) : ∀ f ∈ placeFrom offset fields, f.Normal := by
  intro f hField
  have hUnplaced : f.unplaced ∈ fields.map Field.unplaced := by
    rw [← map_unplaced_placeFrom offset fields]
    exact List.mem_map_of_mem hField
  obtain ⟨other, hOther, hSame⟩ := List.mem_map.mp hUnplaced
  obtain ⟨hName, hShort, hCode, hPositive, hWidth, hDate, hLogical, hPlaces, hType⟩ :
      f.unplaced.Normal := by
    rw [← hSame]
    obtain ⟨hName, hShort, hCode, hPositive, hWidth, hDate, hLogical, hPlaces, hType⟩ :=
      hFields other hOther
    exact ⟨hName, hShort, hCode, hPositive, hWidth, hDate, hLogical, hPlaces, hType⟩
  exact ⟨hName, hShort, hCode, hPositive, hWidth, hDate, hLogical, hPlaces, hType⟩

namespace TableHeader

/-! ### One column -/

theorem utf8Length_takeBytes_le (room : Nat) (text : List Char) :
    Text.utf8Length (takeBytes room text) ≤ room := by
  induction text generalizing room with
  | nil => exact Nat.zero_le room
  | cons c text ih =>
      rw [takeBytes]
      split
      · have hRest := ih (room - c.utf8Size)
        rw [Text.utf8Length_cons]
        omega
      · exact Nat.zero_le room

/-- A column has a name, and one that fits its descriptor. -/
theorem utf8ByteSize_columnName (name : String) :
    0 < (columnName name).utf8ByteSize ∧ (columnName name).utf8ByteSize ≤ 10 := by
  by_cases hNone : (String.ofList (takeBytes nameSize name.toList)).isEmpty
  · have hStandIn : columnName name = "NoName" := if_pos hNone
    rw [hStandIn]
    decide
  · have hKept : columnName name = String.ofList (takeBytes nameSize name.toList) := if_neg hNone
    rw [String.isEmpty_iff_utf8ByteSize_eq_zero] at hNone
    rw [hKept]
    refine ⟨Nat.pos_of_ne_zero hNone, ?_⟩
    rw [Text.utf8ByteSize_ofList]
    exact utf8Length_takeBytes_le nameSize name.toList

/-- The field of a stored layout is as it should be. -/
theorem normal_of_storedLayout {typeCode code : Char} {length decimals width places : Nat}
    {name : String} {offset : Nat} {fieldType : FieldType} (hLength : 0 < length)
    (hStored : storedLayout? typeCode length decimals = some (code, width, places))
    (hWidth : width ≤ greatestWidth)
    (hType : FieldType.ofDescriptor (UInt8.ofNat code.toNat) width places = .ok fieldType) :
    Field.Normal
      { name := columnName name, typeCode := UInt8.ofNat code.toNat, length := width,
        decimals := places, offset, fieldType } := by
  obtain ⟨hName, hShort⟩ := utf8ByteSize_columnName name
  obtain ⟨hPositive, hCases⟩ := storedLayout?_cases hLength hStored
  have hCode : FieldType.code (UInt8.ofNat code.toNat) = code ∧ code ∈ ['C', 'D', 'F', 'N', 'L'] ∧
      (code = 'D' → width = 8) ∧ (code = 'L' → width = 1) ∧ (code = 'N' → places < width) := by
    rcases hCases with ⟨rfl, _⟩ | ⟨rfl, rfl, _⟩ | rfl | ⟨rfl, hPlaces⟩ | ⟨rfl, rfl, _⟩
    · exact ⟨rfl, by decide, nofun, nofun, nofun⟩
    · exact ⟨rfl, by decide, fun _ => rfl, nofun, nofun⟩
    · exact ⟨rfl, by decide, nofun, nofun, nofun⟩
    · exact ⟨rfl, by decide, nofun, nofun, fun _ => hPlaces⟩
    · exact ⟨rfl, by decide, nofun, fun _ => rfl, nofun⟩
  obtain ⟨hSame, hMember, hDate, hLogical, hNumber⟩ := hCode
  refine ⟨hName, hShort, ?_, hPositive, hWidth, ?_, ?_, ?_, hType⟩
  all_goals simp only [hSame]
  · exact hMember
  · exact hDate
  · exact hLogical
  · exact hNumber

/-- After any successful edits, every field is as adding a column made it. -/
theorem Edited.normal {h : TableHeader} (hEdited : Edited h) : ∀ f ∈ h.fields, f.Normal := by
  induction hEdited with
  | new date => exact nofun
  | add prior last ih =>
      obtain ⟨code, width, places, fieldType, hLength, hStored, hWidth, hType, rfl⟩ :=
        addColumn_ok last
      intro f hField
      rcases List.mem_append.mp hField with hBefore | hLast
      · exact ih f hBefore
      · rw [List.mem_singleton.mp hLast]
        exact normal_of_storedLayout hLength hStored hWidth hType
  | @remove h next name index prior last ih =>
      unfold TableHeader.removeColumn at last
      split at last
      next => cases last
      next found hFound =>
        cases last
        rw [withFields_eq]
        exact normal_of_mem_placeFrom fun f hField => ih f (List.mem_of_mem_eraseIdx hField)
  | count prior recordCount ih => exact ih
  | day prior date ih => exact ih
  | page prior codePage ih => exact ih

/-! ### Edits in place -/

/-- A change of a header that may fail half way. -/
abbrev Editing (α : Type) := ExceptT TableError (StateM TableHeader) α

/-- The length of the header by the number of its fields. -/
def countFields : Editing Unit :=
  modify fun h => { h with headerLength := leastLength + descriptorSize * h.fields.length }

/-- Add a column, changing one part of the header after the other. -/
def addInPlace (name : String) (typeCode : Char) (length decimals : Nat) : Editing Unit := do
  if length = 0 then
    throw (.field (.zeroLength name))
  match storedLayout? typeCode length decimals with
  | none => throw (.field (.undefinedType typeCode name))
  | some (code, length, decimals) =>
    if greatestWidth < length then
      throw (.field (.tooLong (columnName name) length))
    let typeCode := UInt8.ofNat code.toNat
    let fieldType ← FieldType.ofDescriptor typeCode length decimals
    modify fun h => { h with
      fields := h.fields ++
        [{ name := columnName name, typeCode, length, decimals, offset := h.recordLength,
           fieldType }] }
    modify fun h => { h with recordLength := h.recordLength + length }
    countFields

/-- Remove a column, changing one part of the header after the other. -/
def removeInPlace (name : String) : Editing Nat := do
  match (← get).fieldIndex? name with
  | none => throw (.field (.notFound name))
  | some index =>
    modify fun h => { h with fields := h.fields.eraseIdx index }
    modify fun h => { h with fields := placeFrom 1 h.fields }
    modify fun h => { h with recordLength := stopFrom 1 h.fields }
    countFields
    return index

/-- What is done to a header. -/
inductive Edit where
  | add (name : String) (typeCode : Char) (length decimals : Nat)
  | addOfType (name : String) (type : FieldType) (precision : Option Nat)
  | remove (name : String)
  | count (recordCount : Nat)
  | day (date : Date)
  | page (codePage : Text.CodePage)

/-- The edit as a change in place. Removing a column tells which one it was. -/
def Edit.inPlace : Edit → Editing (Option Nat)
  | .add name typeCode length decimals => do
    addInPlace name typeCode length decimals
    return none
  | .addOfType name type precision => do
    let (code, length, decimals) := type.descriptor precision
    addInPlace name code length decimals
    return none
  | .remove name => some <$> removeInPlace name
  | .count recordCount => do
    modify fun h => { h with recordCount }
    return none
  | .day date => do
    modify fun h => { h with lastUpdate := some date }
    return none
  | .page codePage => do
    modify fun h => { h with codePage }
    return none

/-- The header that an edit gives, or the one before. -/
def replaceBy (h : TableHeader) (result : Except TableError (Option Nat × TableHeader)) :
    Except TableError (Option Nat) × TableHeader :=
  match result with
  | .ok (answer, next) => (.ok answer, next)
  | .error e => (.error e, h)

/-- What an edit answers, and the header that it leaves. -/
def perform (h : TableHeader) : Edit → Except TableError (Option Nat) × TableHeader
  | .add name typeCode length decimals =>
    h.replaceBy ((h.addColumn name typeCode length decimals).map fun next => (none, next))
  | .addOfType name type precision =>
    h.replaceBy ((h.addColumnOfType name type precision).map fun next => (none, next))
  | .remove name =>
    h.replaceBy ((h.removeColumn name).map fun (index, next) => (some index, next))
  | .count recordCount => (.ok none, { h with recordCount })
  | .day date => (.ok none, { h with lastUpdate := some date })
  | .page codePage => (.ok none, { h with codePage })

/-- The header after some edits, whatever they answered. -/
def afterEdits (h : TableHeader) (edits : List Edit) : TableHeader :=
  edits.foldl (fun h edit => (h.perform edit).2) h

/-- A column is added in place only after every check, and the header is then
the one with the column. -/
theorem runOn_addInPlace (h : TableHeader) (name : String) (typeCode : Char)
    (length decimals : Nat) :
    runOn (addInPlace name typeCode length decimals) h =
      match h.addColumn name typeCode length decimals with
      | .ok next => (.ok (), next)
      | .error e => (.error e, h) := by
  unfold addInPlace addColumn
  by_cases hZero : length = 0
  · rw [if_pos hZero, if_pos hZero]
    rfl
  · rw [if_neg hZero, if_neg hZero]
    cases hStored : storedLayout? typeCode length decimals with
    | none => rfl
    | some layout =>
        obtain ⟨code, width, places⟩ := layout
        by_cases hWide : greatestWidth < width
        · simp only [if_pos hWide]
          rfl
        · simp only [if_neg hWide]
          cases hType : FieldType.ofDescriptor (UInt8.ofNat code.toNat) width places with
          | error e => rfl
          | ok fieldType =>
              simp only [runOn_bind, runOn_lift, runOn_modify, countFields, ok_bind,
                List.length_append, List.length_cons, List.length_nil]
              rfl

theorem runOn_removeInPlace (h : TableHeader) (name : String) :
    runOn (removeInPlace name) h =
      match h.removeColumn name with
      | .ok (index, next) => (.ok index, next)
      | .error e => (.error e, h) := by
  rw [removeInPlace, removeColumn, runOn_bind, runOn_get]
  cases hFound : h.fieldIndex? name with
  | none => simp only [hFound, runOn_throw]
  | some index =>
      simp only [hFound, runOn_bind, runOn_modify, runOn_pure, countFields, withFields_eq,
        length_placeFrom, stopFrom_placeFrom]

/-- Made in place or not, an edit gives the same answer and the same header. -/
theorem runOn_inPlace (h : TableHeader) (edit : Edit) : runOn edit.inPlace h = h.perform edit := by
  cases edit with
  | add name typeCode length decimals =>
      simp only [Edit.inPlace, runOn_bind, runOn_addInPlace, perform]
      cases h.addColumn name typeCode length decimals with
      | error e => rfl
      | ok next => rfl
  | addOfType name type precision =>
      simp only [Edit.inPlace, runOn_bind, runOn_addInPlace, perform, addColumnOfType]
      cases h.addColumn name _ _ _ with
      | error e => rfl
      | ok next => rfl
  | remove name =>
      simp only [Edit.inPlace, ← bind_pure_comp, runOn_bind, runOn_removeInPlace, perform]
      cases h.removeColumn name with
      | error e => rfl
      | ok found => rfl
  | count recordCount | day date | page codePage => rfl

/-! ### Any sequence of edits -/

/-- An edit that fails leaves the header as it was. -/
theorem perform_of_error {h : TableHeader} {edit : Edit} {e : TableError}
    (hFailed : (h.perform edit).1 = .error e) : (h.perform edit).2 = h := by
  have hReplace : ∀ result, (h.replaceBy result).1 = .error e → (h.replaceBy result).2 = h := by
    rintro (_ | _) hError
    · rfl
    · cases hError
  cases edit with
  | add | addOfType | remove => exact hReplace _ hFailed
  | count | day | page => cases hFailed

theorem Edited.perform {h : TableHeader} (hEdited : Edited h) (edit : Edit) :
    Edited (h.perform edit).2 := by
  cases edit with
  | add name typeCode length decimals =>
      rw [TableHeader.perform]
      cases hAdd : h.addColumn name typeCode length decimals with
      | error e => exact hEdited
      | ok next => exact .add hEdited hAdd
  | addOfType name type precision =>
      rw [TableHeader.perform]
      cases hAdd : h.addColumnOfType name type precision with
      | error e => exact hEdited
      | ok next => exact .add hEdited hAdd
  | remove name =>
      rw [TableHeader.perform]
      cases hRemove : h.removeColumn name with
      | error e => exact hEdited
      | ok found => exact .remove hEdited hRemove
  | count recordCount => exact .count hEdited recordCount
  | day date => exact .day hEdited date
  | page codePage => exact .page hEdited codePage

theorem Edited.afterEdits {h : TableHeader} (hEdited : Edited h) (edits : List Edit) :
    Edited (h.afterEdits edits) := by
  induction edits generalizing h with
  | nil => exact hEdited
  | cons edit edits ih => exact ih (hEdited.perform edit)

/-- The fields are as adding a column makes them, and the offsets, both lengths
and what is written go with them. -/
structure Consistent [Host] (h : TableHeader) : Prop where
  fields : ∀ f ∈ h.fields, f.Normal
  offsets : LaidFrom 1 h.fields
  recordLength_eq : h.recordLength = 1 + (h.fields.map Field.length).sum
  headerLength_eq : h.headerLength = 33 + 32 * h.fieldCount
  length_bytes_eq : h.bytes.length = h.headerLength

theorem Edited.consistent [Host] {h : TableHeader} (hEdited : Edited h) : h.Consistent :=
  ⟨hEdited.normal, hEdited.laid.offsets, hEdited.laid.recordLength_eq,
    hEdited.laid.headerLength_eq, length_bytes hEdited.laid.tight⟩

/-- The same name but for blanks around it and the case of ASCII letters. -/
def SameName (name other : String) : Prop :=
  (Text.trim name.toList).map Char.toLower = (Text.trim other.toList).map Char.toLower

theorem sameName_iff (name other : String) : sameName name other = true ↔ SameName name other :=
  beq_iff_eq

/-- The first column of a name was taken out: which one it was, and what is
left, one behind the other. -/
structure RemovedFirst (h : TableHeader) (name : String) (index : Nat) (next : TableHeader) :
    Prop where
  found : ∃ f, h.fields[index]? = some f ∧ SameName f.name name
  first : ∀ before < index, ∀ f, h.fields[before]? = some f → ¬SameName f.name name
  others : next.fields.map Field.unplaced = (h.fields.eraseIdx index).map Field.unplaced
  recordCount_eq : next.recordCount = h.recordCount
  lastUpdate_eq : next.lastUpdate = h.lastUpdate
  codePage_eq : next.codePage = h.codePage

theorem removeColumn_ok {h next : TableHeader} {name : String} {index : Nat}
    (hRemove : h.removeColumn name = .ok (index, next)) : h.RemovedFirst name index next := by
  unfold removeColumn at hRemove
  split at hRemove
  next => cases hRemove
  next found hFound =>
    cases hRemove
    obtain ⟨hInside, hSame, hBefore⟩ := List.findIdx?_eq_some_iff_getElem.mp hFound
    refine ⟨⟨h.fields[index], List.getElem?_eq_getElem hInside, (sameName_iff _ _).mp hSame⟩,
      ?_, ?_, ?_, ?_, ?_⟩
    · intro before hLess f hField hMatch
      obtain ⟨_, rfl⟩ := List.getElem?_eq_some_iff.mp hField
      exact hBefore before hLess ((sameName_iff _ _).mpr hMatch)
    · rw [withFields_eq]
      exact map_unplaced_placeFrom 1 _
    all_goals rw [withFields_eq]

theorem removeColumn_eq_error_iff (h : TableHeader) (name : String) :
    (∃ e, h.removeColumn name = .error e) ↔ ∀ f ∈ h.fields, ¬SameName f.name name := by
  have hNone : h.fieldIndex? name = none ↔ ∀ f ∈ h.fields, ¬SameName f.name name := by
    simp only [fieldIndex?, List.findIdx?_eq_none_iff, ← sameName_iff, Bool.not_eq_true]
  rw [← hNone, removeColumn]
  cases h.fieldIndex? name with
  | none => simp
  | some index => simp

/-- Whatever is done to a new header, with whatever arguments and in whatever
order, its fields are as they should be, lie one behind the other from the
byte behind the deletion flag, and go with both lengths, and it is written in
as many bytes as it says. The next edit, made in place, changes nothing if it
fails. Removing a column takes out the first one of its name and says which it
was, and it fails only if there is none. -/
theorem edits_keep_consistent [Host] (date : Date) (edits : List Edit) :
    let h := (TableHeader.new date).afterEdits edits
    h.Consistent ∧
    (∀ edit, runOn edit.inPlace h = h.perform edit ∧
      ∀ e, (h.perform edit).1 = .error e → (h.perform edit).2 = h) ∧
    ∀ name, (∀ index next, h.removeColumn name = .ok (index, next) →
        h.RemovedFirst name index next) ∧
      ((∃ e, h.removeColumn name = .error e) ↔ ∀ f ∈ h.fields, ¬SameName f.name name) := by
  generalize hHeader : (TableHeader.new date).afterEdits edits = h
  have hEdited : h.Edited := hHeader ▸ (Edited.new date).afterEdits edits
  refine ⟨hEdited.consistent, fun edit => ⟨h.runOn_inPlace edit, fun e hFailed => ?_⟩,
    fun name => ⟨fun index next => removeColumn_ok, h.removeColumn_eq_error_iff name⟩⟩
  exact perform_of_error hFailed

end TableHeader

end Shapefile
