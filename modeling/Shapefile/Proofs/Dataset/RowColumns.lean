import Mathlib.Data.List.InsertIdx
import Mathlib.Order.Fin.Tuple
import Shapefile.Row

/-! Rows are the attributes with a geometry among them. Taking the geometry out
of a row undoes putting it there, and the other way round; the other columns are
the attributes in their order. -/
namespace Shapefile.Row

/-- What was put into a row is taken out again, and the attributes are left. -/
theorem split?_splice (geometry : Value) {attributes : List Value} {index : Nat}
    (hIndex : index ≤ attributes.length) :
    split? (splice geometry attributes index) index = some (geometry, attributes) := by
  rw [split?, splice, List.getElem?_insertIdx_self, if_pos hIndex, List.eraseIdx_insertIdx_self]
  rfl

/-- What was taken out of a row is put back, and the row is there again. -/
theorem splice_of_split? {row attributes : List Value} {index : Nat} {value : Value}
    (hSplit : split? row index = some (value, attributes)) :
    splice value attributes index = row := by
  obtain ⟨found, hFound, hBoth⟩ := Option.map_eq_some_iff.mp hSplit
  cases hBoth
  obtain ⟨hIndex, rfl⟩ := List.getElem?_eq_some_iff.mp hFound
  exact List.insertIdx_eraseIdx_getElem hIndex

/-- A row can be split at each of its columns. -/
theorem exists_split {row : List Value} {index : Nat} (hIndex : index < row.length) :
    ∃ value attributes, split? row index = some (value, attributes) := by
  refine ⟨row[index], row.eraseIdx index, ?_⟩
  rw [split?, List.getElem?_eq_getElem hIndex, Option.map_some]

/-- A column of a spliced row is the geometry or the attribute it stands for. -/
theorem getElem?_splice (geometry : Value) {attributes : List Value} {index : Nat}
    (hIndex : index ≤ attributes.length) (column : Nat) :
    (splice geometry attributes index)[column]? =
      match attributeColumn? column index with
      | none => some geometry
      | some other => attributes[other]? := by
  rw [splice, attributeColumn?]
  by_cases hBefore : column < index
  · rw [if_pos hBefore, List.getElem?_insertIdx_of_lt hBefore]
  · rw [if_neg hBefore]
    by_cases hSame : column = index
    · rw [if_pos hSame, hSame, List.getElem?_insertIdx_self, if_pos hIndex]
    · rw [if_neg hSame, List.getElem?_insertIdx_of_gt (by omega)]

theorem attributeColumn?_self (index : Nat) : attributeColumn? index index = none := by
  rw [attributeColumn?, if_neg (Nat.lt_irrefl index), if_pos rfl]

/-- The column of an attribute, which is one further on behind the geometry,
stands for that attribute. -/
theorem attributeColumn?_succAbove {count : Nat} (index : Fin (count + 1)) (other : Fin count) :
    attributeColumn? (index.succAbove other) index = some other.val := by
  rw [attributeColumn?]
  rcases Nat.lt_or_ge other.val index.val with hBefore | hBehind
  · rw [Fin.succAbove_of_castSucc_lt index other hBefore]
    exact if_pos hBefore
  · rw [Fin.succAbove_of_le_castSucc index other hBehind, Fin.val_succ, if_neg (by omega),
      if_neg (by omega), Nat.add_sub_cancel]

/-- The columns beside the geometry are the attributes in their order. -/
theorem exists_attributeOrder {count : Nat} (index : Fin (count + 1)) :
    ∃ order : { column : Fin (count + 1) // column ≠ index } ≃o Fin count,
      ∀ column, attributeColumn? column.val.val index = some (order column).val := by
  refine ⟨(finSuccAboveOrderIso index).symm, fun column => ?_⟩
  obtain ⟨other, rfl⟩ := (finSuccAboveOrderIso index).surjective column
  rw [OrderIso.symm_apply_apply, finSuccAboveOrderIso_apply]
  exact attributeColumn?_succAbove index other

/-- Splitting, splicing and the columns of attributes agree on where the
geometry is, be it before all attributes, behind them or among them. A row is
split into what it was spliced from and spliced into what it was split from;
its columns are the geometry, where no attribute stands, and the attributes,
each of them once and in their order. -/
theorem splice_agrees_with_split :
    (∀ (geometry : Value) (attributes : List Value) (index : Fin (attributes.length + 1)),
      split? (splice geometry attributes index) index = some (geometry, attributes) ∧
      (splice geometry attributes index).length = attributes.length + 1 ∧
      (∀ column : Fin (attributes.length + 1), (splice geometry attributes index)[column.val]? =
        match attributeColumn? column index with
        | none => some geometry
        | some other => attributes[other]?) ∧
      attributeColumn? index index = none ∧
      ∃ order : { column : Fin (attributes.length + 1) // column ≠ index } ≃o
          Fin attributes.length,
        ∀ column, attributeColumn? column.val index = some (order column).val) ∧
    ∀ (row : List Value) (index : Fin row.length), ∃ value attributes,
      split? row index = some (value, attributes) ∧ splice value attributes index = row := by
  constructor
  · intro geometry attributes index
    have hIndex : index.val ≤ attributes.length := Nat.le_of_lt_succ index.isLt
    exact ⟨split?_splice geometry hIndex, List.length_insertIdx_of_le_length hIndex geometry,
      fun column => getElem?_splice geometry hIndex column, attributeColumn?_self index,
      exists_attributeOrder index⟩
  · intro row index
    obtain ⟨value, attributes, hSplit⟩ := exists_split index.isLt
    exact ⟨value, attributes, hSplit, splice_of_split? hSplit⟩

end Shapefile.Row
