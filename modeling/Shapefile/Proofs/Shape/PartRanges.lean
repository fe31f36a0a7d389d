import Mathlib.Order.Nat
import Shapefile.Shape.Record.Block

/-! The ranges that a part table gives. Starts that do not decrease cut the
points from the first start on into ranges without gap or overlap; all other
starts are refused. -/
namespace Shapefile.Block

variable {points start : Nat} {starts : List Nat}

/-- No start is behind the next one, and none is behind the last point. -/
def Ordered (points : Nat) (starts : List Nat) : Prop := (starts ++ [points]).Pairwise (· ≤ ·)

/-- The range of each part, from its start to the next one or to the last point. -/
def rangesTo (points : Nat) (starts : List Nat) : List (Nat × Nat) :=
  starts.zip (starts.tail ++ [points])

theorem rangesTo_cons (points start : Nat) (starts : List Nat) :
    rangesTo points (start :: starts) =
      (start, starts.head?.getD points) :: rangesTo points starts := by
  cases starts with
  | nil => rfl
  | cons next starts => rfl

/-- There is one range for every start. -/
theorem map_fst_rangesTo (points : Nat) (starts : List Nat) :
    (rangesTo points starts).map Prod.fst = starts := by
  induction starts with
  | nil => rfl
  | cons start starts ih => rw [rangesTo_cons, List.map_cons, ih]

theorem ordered_cons :
    Ordered points (start :: starts) ↔
      start ≤ starts.head?.getD points ∧ starts.head?.getD points ≤ points ∧
        Ordered points starts := by
  unfold Ordered
  cases starts with
  | nil => simp
  | cons next starts =>
      simp only [List.cons_append, List.pairwise_cons, List.head?_cons, Option.getD_some]
      constructor
      · rintro ⟨hFirst, hNext, hRest⟩
        exact ⟨hFirst next List.mem_cons_self, hNext points (by simp), hNext, hRest⟩
      · rintro ⟨hFirst, _, hNext, hRest⟩
        refine ⟨fun other hOther => ?_, hNext, hRest⟩
        rcases List.mem_cons.mp hOther with rfl | hLater
        · exact hFirst
        · exact hFirst.trans (hNext other hLater)

theorem partRanges_of_ordered (hOrdered : Ordered points starts) :
    partRanges points starts = .ok (rangesTo points starts) := by
  induction starts with
  | nil => rfl
  | cons start starts ih =>
      obtain ⟨hStart, hStop, hRest⟩ := ordered_cons.mp hOrdered
      have hTaken : ¬(starts.head?.getD points < start ∨ points < starts.head?.getD points) := by
        omega
      rw [partRanges, if_neg hTaken, ih hRest, rangesTo_cons]
      rfl

theorem partRanges_of_not_ordered (hNot : ¬Ordered points starts) :
    ∃ fault, partRanges points starts = .error (.malformed fault) := by
  induction starts with
  | nil => exact absurd (List.pairwise_singleton _ _) hNot
  | cons start starts ih =>
      rw [ordered_cons] at hNot
      by_cases hRefused : starts.head?.getD points < start ∨ points < starts.head?.getD points
      · refine ⟨.partOutOfRange start (starts.head?.getD points) points, ?_⟩
        rw [partRanges, if_pos hRefused]
        rfl
      · obtain ⟨fault, hRest⟩ := ih fun hRest => hNot ⟨by omega, by omega, hRest⟩
        refine ⟨fault, ?_⟩
        rw [partRanges, if_neg hRefused, hRest]
        rfl

/-- Every range lies among the points. -/
theorem Ordered.range_le (hOrdered : Ordered points starts) :
    ∀ range ∈ rangesTo points starts, range.1 ≤ range.2 ∧ range.2 ≤ points := by
  induction starts with
  | nil => exact nofun
  | cons start starts ih =>
      obtain ⟨hStart, hStop, hRest⟩ := ordered_cons.mp hOrdered
      rw [rangesTo_cons]
      rintro range hRange
      rcases List.mem_cons.mp hRange with rfl | hLater
      · exact ⟨hStart, hStop⟩
      · exact ih hRest range hLater

/-- Behind the first start, every point is in exactly one range. -/
theorem Ordered.tile (hOrdered : Ordered points (start :: starts)) :
    (rangesTo points (start :: starts)).flatMap (fun range =>
      List.range' range.1 (range.2 - range.1)) = List.range' start (points - start) := by
  induction starts generalizing start with
  | nil => simp [rangesTo]
  | cons next starts ih =>
      obtain ⟨hStart, hStop, hRest⟩ := ordered_cons.mp hOrdered
      simp only [List.head?_cons, Option.getD_some] at hStart hStop
      obtain ⟨width, rfl⟩ := Nat.exists_eq_add_of_le hStart
      have hAll : points - start = width + (points - (start + width)) := by omega
      have hJoin : List.range' start (start + width - start) ++
          List.range' (start + width) (points - (start + width)) =
            List.range' start (points - start) := by
        rw [Nat.add_sub_cancel_left, List.range'_append_1, ← hAll]
      rw [rangesTo_cons, List.flatMap_cons, ih hRest]
      exact hJoin

/-- So the parts are, one behind the other, the points from the first start on. -/
theorem Ordered.flatten_slices {α : Type} {items : List α}
    (hOrdered : Ordered items.length (start :: starts)) :
    ((rangesTo items.length (start :: starts)).map (slice items)).flatten = items.drop start := by
  induction starts generalizing start with
  | nil => simp [rangesTo, slice, List.take_of_length_le]
  | cons next starts ih =>
      obtain ⟨hStart, _, hRest⟩ := ordered_cons.mp hOrdered
      simp only [List.head?_cons, Option.getD_some] at hStart
      obtain ⟨width, rfl⟩ := Nat.exists_eq_add_of_le hStart
      have hJoin : (items.drop start).take (start + width - start) ++ items.drop (start + width) =
          items.drop start := by
        rw [Nat.add_sub_cancel_left, ← List.drop_drop, List.take_append_drop]
      rw [rangesTo_cons, List.map_cons, List.flatten_cons, ih hRest]
      exact hJoin

end Shapefile.Block
