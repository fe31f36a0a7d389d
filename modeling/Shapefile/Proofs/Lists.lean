import Mathlib.Data.List.Basic
import Mathlib.Data.List.Induction

/-! Lists taken apart: a list with one more element at its end, and a list at
one of its elements. -/
namespace Shapefile

/-- An element of a list with one more at its end is an old one or that one. -/
theorem List.getElem?_concat_cases {α : Type} {items : List α} {last item : α} {i : Nat}
    (hAt : (items ++ [last])[i]? = some item) :
    (i < items.length ∧ items[i]? = some item) ∨ (i = items.length ∧ item = last) := by
  rw [List.getElem?_append] at hAt
  split at hAt
  next hBefore => exact .inl ⟨hBefore, hAt⟩
  next hBehind =>
    rw [List.getElem?_singleton, Option.ite_none_right_eq_some] at hAt
    exact .inr ⟨by omega, (Option.some.inj hAt.2).symm⟩

/-- The items before and behind one that is there. -/
theorem List.exists_split_at {α : Type} {items : List α} {i : Nat} {item : α}
    (hThere : items[i]? = some item) :
    ∃ before later, items = before ++ item :: later ∧ before.length = i := by
  obtain ⟨hInside, rfl⟩ := List.getElem?_eq_some_iff.mp hThere
  exact ⟨items.take i, items.drop (i + 1), by simp, by simp; omega⟩

/-- A layout that grows at its end has the piece of an item behind the layout
of the items before it. -/
theorem split_of_concat {α β : Type} {layout : List α → List β} {piece : List α → α → List β}
    (hConcat : ∀ items item, layout (items ++ [item]) = layout items ++ piece items item)
    (before later : List α) (item : α) :
    ∃ after, layout (before ++ item :: later) = layout before ++ piece before item ++ after := by
  induction later using List.reverseRecOn with
  | nil => exact ⟨[], by rw [hConcat, List.append_nil]⟩
  | append_singleton later last ih =>
      obtain ⟨after, hAfter⟩ := ih
      refine ⟨after ++ piece (before ++ item :: later) last, ?_⟩
      rw [← List.cons_append, ← List.append_assoc, hConcat, hAfter]
      simp only [List.append_assoc]

end Shapefile
