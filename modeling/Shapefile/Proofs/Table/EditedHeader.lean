import Shapefile.Proofs.Table.Layout

/-! Headers after any edits. Adding a column puts it behind the others, and
removing one places the rest again from the byte behind the deletion flag, so
the offsets and both lengths are those of the layout after every edit. -/
namespace Shapefile

/-- These fields, placed one behind the other from an offset. -/
def placeFrom : Nat → List Field → List Field
  | _, [] => []
  | offset, f :: fields => { f with offset } :: placeFrom (offset + f.length) fields

theorem length_placeFrom (offset : Nat) (fields : List Field) :
    (placeFrom offset fields).length = fields.length := by
  induction fields generalizing offset with
  | nil => rfl
  | cons f fields ih => rw [placeFrom, List.length_cons, List.length_cons, ih]

theorem laidFrom_placeFrom (offset : Nat) (fields : List Field) :
    LaidFrom offset (placeFrom offset fields) := by
  induction fields generalizing offset with
  | nil => exact True.intro
  | cons f fields ih => exact ⟨rfl, ih _⟩

theorem stopFrom_placeFrom (offset : Nat) (fields : List Field) :
    stopFrom offset (placeFrom offset fields) = stopFrom offset fields := by
  have hWidths : ∀ start, (placeFrom start fields).map Field.length = fields.map Field.length := by
    induction fields with
    | nil => exact fun _ => rfl
    | cons f fields ih =>
        intro start
        rw [placeFrom, List.map_cons, List.map_cons, ih]
  rw [stopFrom, hWidths, stopFrom]

/-- A field does not depend on its place. -/
theorem wellFormed_of_mem_placeFrom {offset : Nat} {fields : List Field}
    (hFields : ∀ f ∈ fields, f.WellFormed) : ∀ f ∈ placeFrom offset fields, f.WellFormed := by
  induction fields generalizing offset with
  | nil => exact hFields
  | cons first fields ih =>
      intro f hField
      rcases List.mem_cons.mp hField with rfl | hRest
      · obtain ⟨hPositive, hWidth, hType, hBoolean, hDate⟩ := hFields first List.mem_cons_self
        exact ⟨hPositive, hWidth, hType, hBoolean, hDate⟩
      · exact ih (fun other hOther => hFields other (List.mem_cons_of_mem first hOther)) f hRest

namespace TableHeader

/-- Placing fields one by one, behind fields that are in place. -/
theorem foldl_place (placed : List Field) (offset : Nat) (fields : List Field) :
    fields.foldl
      (fun (placed, offset) field => (placed ++ [{ field with offset }], offset + field.length))
      (placed, offset) = (placed ++ placeFrom offset fields, stopFrom offset fields) := by
  induction fields generalizing placed offset with
  | nil => simp [placeFrom, stopFrom]
  | cons f fields ih =>
      rw [List.foldl_cons, ih, placeFrom, List.append_assoc, stopFrom, stopFrom, List.map_cons,
        List.sum_cons, Nat.add_assoc]
      rfl

/-- What laying fields out again gives. -/
theorem withFields_eq (h : TableHeader) (fields : List Field) :
    h.withFields fields = { h with
      fields := placeFrom 1 fields
      recordLength := stopFrom 1 fields
      headerLength := leastLength + descriptorSize * fields.length } := by
  rw [withFields]
  simp only [foldl_place [] 1 fields, List.nil_append, length_placeFrom]

/-- A header that was made new and then given columns, freed of columns and
told its count, its day and its code page, in any order. -/
inductive Edited : TableHeader → Prop where
  | new (date : Date) : Edited (.new date)
  | add {h next : TableHeader} {name : String} {typeCode : Char} {length decimals : Nat}
      (prior : Edited h) (last : h.addColumn name typeCode length decimals = .ok next) :
      Edited next
  | remove {h next : TableHeader} {name : String} {index : Nat} (prior : Edited h)
      (last : h.removeColumn name = .ok (index, next)) : Edited next
  | count {h : TableHeader} (prior : Edited h) (recordCount : Nat) : Edited { h with recordCount }
  | day {h : TableHeader} (prior : Edited h) (date : Date) :
      Edited { h with lastUpdate := some date }
  | page {h : TableHeader} (prior : Edited h) (codePage : Text.CodePage) :
      Edited { h with codePage }

/-- A header that was built by adding columns only is one of them. -/
theorem Built.edited {h : TableHeader} (hBuilt : h.Built) : h.Edited := by
  induction hBuilt with
  | new date => exact .new date
  | add prior last ih => exact .add ih last

/-- A column less keeps the layout in step. -/
theorem Laid.removeColumn {h next : TableHeader} {name : String} {index : Nat} (hLaid : h.Laid)
    (hRemove : h.removeColumn name = .ok (index, next)) : next.Laid := by
  unfold TableHeader.removeColumn at hRemove
  cases hFound : h.fieldIndex? name with
  | none =>
      rw [hFound] at hRemove
      cases hRemove
  | some found =>
      rw [hFound] at hRemove
      cases hRemove
      rw [withFields_eq]
      refine ⟨?_, laidFrom_placeFrom 1 _, ?_, (stopFrom_placeFrom 1 _).symm⟩
      · refine wellFormed_of_mem_placeFrom fun f hField => ?_
        exact hLaid.fields f (List.mem_of_mem_eraseIdx hField)
      · simp only [length_placeFrom]

/-- Every edit keeps the layout in step. -/
theorem Edited.laid {h : TableHeader} (hEdited : Edited h) : h.Laid := by
  induction hEdited with
  | new date => exact laid_new date
  | add prior last ih => exact ih.addColumn last
  | remove prior last ih => exact ih.removeColumn last
  | count prior recordCount ih => exact ⟨ih.fields, ih.offsets, ih.headerLength_eq,
      ih.recordLength_eq⟩
  | day prior date ih => exact ⟨ih.fields, ih.offsets, ih.headerLength_eq, ih.recordLength_eq⟩
  | page prior codePage ih => exact ⟨ih.fields, ih.offsets, ih.headerLength_eq,
      ih.recordLength_eq⟩

end TableHeader

end Shapefile
