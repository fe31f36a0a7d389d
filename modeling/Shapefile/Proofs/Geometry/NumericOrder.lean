import Mathlib.Algebra.Order.Group.Nat
import Mathlib.Algebra.Order.Ring.Int
import Mathlib.Data.List.Basic
import Mathlib.Data.Prod.Lex
import Shapefile.Geometry.Envelope

/-! The order of doubles, and of boxes by their sides. A double that is a number
has a spot on a line, on which both zeros share one spot. Comparing two numbers
compares their spots, and a NaN compares with nothing. -/
namespace Shapefile

namespace Double

open Float.Model (UnpackedFloat)

/-- Where a number stands, from coarse to fine: its class, from minus to plus
infinity, and within a class its exponent and its mantissa. -/
def spot : UnpackedFloat → ℤ ×ₗ ℤ ×ₗ ℤ
  | .infinity .negative => toLex (-2, toLex (0, 0))
  | .finite .negative mantissa exponent _ => toLex (-1, toLex (-exponent, -mantissa))
  | .zero _ | .notANumber => toLex (0, toLex (0, 0))
  | .finite .positive mantissa exponent _ => toLex (1, toLex (exponent, mantissa))
  | .infinity .positive => toLex (2, toLex (0, 0))

theorem compare_natCast (m n : ℕ) : compare (m : ℤ) (n : ℤ) = compare m n := by
  rcases lt_trichotomy m n with hLess | hSame | hMore
  · rw [compare_lt_iff_lt.mpr hLess, compare_lt_iff_lt.mpr (Int.ofNat_lt.mpr hLess)]
  · rw [hSame, compare_eq_iff_eq.mpr rfl, compare_eq_iff_eq.mpr rfl]
  · rw [compare_gt_iff_gt.mpr hMore, compare_gt_iff_gt.mpr (Int.ofNat_lt.mpr hMore)]

theorem compare_neg (a b : ℤ) : compare (-a) (-b) = (compare a b).swap := by
  rw [Int.compare_swap]
  rcases lt_trichotomy b a with hLess | hSame | hMore
  · rw [compare_lt_iff_lt.mpr hLess, compare_lt_iff_lt.mpr (Int.neg_lt_neg hLess)]
  · rw [hSame, compare_eq_iff_eq.mpr rfl, compare_eq_iff_eq.mpr rfl]
  · rw [compare_gt_iff_gt.mpr hMore, compare_gt_iff_gt.mpr (Int.neg_lt_neg hMore)]

theorem compare_toLex (kind kind' exponent exponent' mantissa mantissa' : ℤ) :
    compare (toLex (kind, toLex (exponent, mantissa)))
        (toLex (kind', toLex (exponent', mantissa'))) =
      (compare kind kind').then
        ((compare exponent exponent').then (compare mantissa mantissa')) := by
  rw [Prod.Lex.compare_def, compareLex, compareOn, compareOn, Prod.Lex.compare_def]
  rfl

/-- Numbers compare as their spots do. -/
theorem compare_eq_spot {a b : UnpackedFloat} (hA : a.isNaN = false) (hB : b.isNaN = false) :
    a.compare b = some (compare (spot a) (spot b)) := by
  rcases a with (_ | _) | _ | (_ | _) | ⟨_ | _, _, _, _⟩
  case notANumber => cases hA
  all_goals rcases b with (_ | _) | _ | (_ | _) | ⟨_ | _, _, _, _⟩
  all_goals
    dsimp only [spot, UnpackedFloat.compare]
    rw [compare_toLex]
  -- Only two finite numbers of one sign need more than their classes.
  case finite.negative.finite.negative mantissa exponent _ mantissa' exponent' _ =>
    rw [compare_neg exponent exponent', compare_neg mantissa mantissa', compare_natCast,
      Ordering.swap_then]
    rfl
  case finite.positive.finite.positive =>
    rw [compare_natCast]
    rfl
  all_goals first
    | rfl
    | cases hB

/-- A NaN compares with nothing. -/
theorem compare_eq_none {a b : UnpackedFloat} (hNaN : a.isNaN = true ∨ b.isNaN = true) :
    a.compare b = none := by
  rcases hNaN with hA | hB
  · cases a with
    | notANumber => rfl
    | _ => cases hA
  · cases b with
    | notANumber => cases a <;> rfl
    | _ => cases hB

/-- The spot of a double. -/
def spotOf (x : Float) : ℤ ×ₗ ℤ ×ₗ ℤ := spot x.toModel.unpack

theorem compare_unpack (x y : Float) :
    x.toModel.unpack.compare y.toModel.unpack =
      if x.isNaN = false ∧ y.isNaN = false then some (compare (spotOf x) (spotOf y)) else none := by
  split
  next hNumbers => exact compare_eq_spot hNumbers.1 hNumbers.2
  next hNaN =>
    apply compare_eq_none
    rw [← Bool.not_eq_false, ← Bool.not_eq_false, ← not_and_or]
    exact hNaN

theorem le_iff {x y : Float} :
    x ≤ y ↔ x.isNaN = false ∧ y.isNaN = false ∧ spotOf x ≤ spotOf y := by
  have hLe : x ≤ y ↔ (x.toModel.unpack.compare y.toModel.unpack).any (·.isLE) = true :=
    decide_eq_true_iff
  rw [hLe, compare_unpack, ← and_assoc]
  split
  next hNumbers =>
    rw [Option.any_some, and_iff_right hNumbers, Ordering.isLE_iff_ne_gt]
    exact compare_le_iff_le
  next hNaN => exact iff_of_false Bool.false_ne_true fun hBoth => hNaN hBoth.1

theorem lt_iff {x y : Float} :
    x < y ↔ x.isNaN = false ∧ y.isNaN = false ∧ spotOf x < spotOf y := by
  have hLt : x < y ↔ (x.toModel.unpack.compare y.toModel.unpack == some .lt) = true :=
    decide_eq_true_iff
  rw [hLt, compare_unpack, ← and_assoc]
  split
  next hNumbers =>
    rw [Option.some_beq_some, beq_iff_eq, and_iff_right hNumbers]
    exact compare_lt_iff_lt
  next hNaN => exact iff_of_false Bool.false_ne_true fun hBoth => hNaN hBoth.1

theorem beq_iff {x y : Float} :
    (x == y) = true ↔ x.isNaN = false ∧ y.isNaN = false ∧ spotOf x = spotOf y := by
  have hBeq : (x == y) = (x.toModel.unpack.compare y.toModel.unpack == some .eq) := rfl
  rw [hBeq, compare_unpack, ← and_assoc]
  split
  next hNumbers =>
    rw [Option.some_beq_some, beq_iff_eq, and_iff_right hNumbers]
    exact compare_eq_iff_eq
  next hNaN => exact iff_of_false Bool.false_ne_true fun hBoth => hNaN hBoth.1

theorem beq_comm (x y : Float) : (x == y) = (y == x) := by
  rw [Bool.eq_iff_iff, beq_iff, beq_iff, eq_comm (a := spotOf x), and_left_comm]

theorem le_trans {x y z : Float} (hLeft : x ≤ y) (hRight : y ≤ z) : x ≤ z := by
  obtain ⟨hX, _, hFirst⟩ := le_iff.mp hLeft
  obtain ⟨_, hZ, hSecond⟩ := le_iff.mp hRight
  exact le_iff.mpr ⟨hX, hZ, hFirst.trans hSecond⟩

/-- Two numbers of which neither is greater are equal, as far as numbers go. -/
theorem beq_of_le_of_le {x y : Float} (hLeft : x ≤ y) (hRight : y ≤ x) : (x == y) = true := by
  obtain ⟨hX, hY, hFirst⟩ := le_iff.mp hLeft
  exact beq_iff.mpr ⟨hX, hY, le_antisymm hFirst (le_iff.mp hRight).2.2⟩

theorem le_self {x : Float} (hNumber : x.isNaN = false) : x ≤ x :=
  le_iff.mpr ⟨hNumber, hNumber, le_rfl⟩

theorem le_of_lt {x y : Float} (hLess : x < y) : x ≤ y := by
  obtain ⟨hX, hY, hSpots⟩ := lt_iff.mp hLess
  exact le_iff.mpr ⟨hX, hY, hSpots.le⟩

/-- Of two numbers one is at most the other. -/
theorem le_of_not_lt {x y : Float} (hX : x.isNaN = false) (hY : y.isNaN = false)
    (hNot : ¬x < y) : y ≤ x := by
  rw [lt_iff] at hNot
  refine le_iff.mpr ⟨hY, hX, ?_⟩
  rw [← not_lt]
  exact fun hSpots => hNot ⟨hX, hY, hSpots⟩

/-- Of two numbers, `pick` gives the one that does not come later in an order,
in which only numbers come before anything. A NaN gives way to the other
value. -/
structure Picks (pick : Float → Float → Float) (before : Float → Float → Prop) : Prop where
  self : ∀ {x}, x.isNaN = false → before x x
  trans : ∀ {x y z}, before x y → before y z → before x z
  number : ∀ {x y}, before x y → x.isNaN = false
  pick_cases : ∀ {x y}, x.isNaN = false → y.isNaN = false →
    (pick x y = x ∧ before x y) ∨ (pick x y = y ∧ before y x)
  missing_left : ∀ {x y}, x.isNaN = true → pick x y = y
  missing_right : ∀ {x y}, x.isNaN = false → y.isNaN = true → pick x y = x

theorem not_lt_of_isNaN_left {x y : Float} (hNaN : x.isNaN = true) : ¬x < y := by
  rw [lt_iff, hNaN]
  simp

theorem not_lt_of_isNaN_right {x y : Float} (hNaN : y.isNaN = true) : ¬x < y := by
  rw [lt_iff, hNaN]
  simp

theorem picks_lesser : Picks lesser (· ≤ ·) where
  self := le_self
  trans := le_trans
  number hBefore := (le_iff.mp hBefore).1
  pick_cases {x y} hX hY := by
    rw [lesser, hX, if_neg Bool.false_ne_true]
    split
    next hLess => exact Or.inr ⟨rfl, le_of_lt hLess⟩
    next hNot => exact Or.inl ⟨rfl, le_of_not_lt hY hX hNot⟩
  missing_left hX := by rw [lesser, if_pos hX]
  missing_right hX hY := by
    rw [lesser, hX, if_neg Bool.false_ne_true, if_neg (not_lt_of_isNaN_left hY)]

theorem picks_greater : Picks greater (fun x y => y ≤ x) where
  self := le_self
  trans hFirst hSecond := le_trans hSecond hFirst
  number hBefore := (le_iff.mp hBefore).2.1
  pick_cases {x y} hX hY := by
    rw [greater, hX, if_neg Bool.false_ne_true]
    split
    next hLess => exact Or.inr ⟨rfl, le_of_lt hLess⟩
    next hNot => exact Or.inl ⟨rfl, le_of_not_lt hX hY hNot⟩
  missing_left hX := by rw [greater, if_pos hX]
  missing_right hX hY := by
    rw [greater, hX, if_neg Bool.false_ne_true, if_neg (not_lt_of_isNaN_right hY)]

/-- One of some values that comes before all numbers among them. It is a NaN
only if there is no number among them. -/
structure FirstOf (before : Float → Float → Prop) (first : Float) (values : List Float) :
    Prop where
  mem : first ∈ values
  before_number : ∀ v ∈ values, v.isNaN = false → before first v

theorem Picks.firstOf_pair {pick : Float → Float → Float} {before : Float → Float → Prop}
    (h : Picks pick before) (x y : Float) : FirstOf before (pick x y) [x, y] := by
  have hPair {first : Float} (hLeft : x.isNaN = false → before first x)
      (hRight : y.isNaN = false → before first y) (hMem : first = x ∨ first = y) :
      FirstOf before first [x, y] := by
    refine ⟨List.mem_pair.mpr hMem, fun v hV => ?_⟩
    rcases List.mem_pair.mp hV with rfl | rfl
    · exact hLeft
    · exact hRight
  cases hX : x.isNaN with
  | true =>
      rw [h.missing_left hX]
      exact hPair (fun hNumber => absurd (hX.symm.trans hNumber) Bool.noConfusion) h.self
        (Or.inr rfl)
  | false =>
      cases hY : y.isNaN with
      | true =>
          rw [h.missing_right hX hY]
          exact hPair h.self (fun hNumber => absurd (hY.symm.trans hNumber) Bool.noConfusion)
            (Or.inl rfl)
      | false =>
          rcases h.pick_cases hX hY with ⟨hPick, hBefore⟩ | ⟨hPick, hBefore⟩
          · rw [hPick]
            exact hPair h.self (fun _ => hBefore) (Or.inl rfl)
          · rw [hPick]
            exact hPair (fun _ => hBefore) h.self (Or.inr rfl)

/-- Picking over and over again gives the first of a list. -/
theorem Picks.firstOf_foldl {pick : Float → Float → Float} {before : Float → Float → Prop}
    (h : Picks pick before) (x : Float) (rest : List Float) :
    FirstOf before (rest.foldl pick x) (x :: rest) := by
  induction rest generalizing x with
  | nil => exact ⟨by simp, by simpa using h.self⟩
  | cons y rest ih =>
      obtain ⟨hPicked, hPair⟩ := h.firstOf_pair x y
      obtain ⟨hMem, hBefore⟩ := ih (pick x y)
      refine ⟨?_, fun v hV hNumber => ?_⟩
      · rcases List.mem_cons.mp hMem with hSame | hRest
        · rw [List.foldl_cons, hSame]
          exact List.mem_append_left rest hPicked
        · exact List.mem_append_right [x, y] hRest
      · rcases List.mem_append.mp (show v ∈ [x, y] ++ rest from hV) with hFront | hRest
        · have hFirst := hPair v hFront hNumber
          exact h.trans (hBefore _ List.mem_cons_self (h.number hFirst)) hFirst
        · exact hBefore v (List.mem_cons_of_mem _ hRest) hNumber

end Double

namespace Envelope

theorem contains_iff {outer inner : Envelope} :
    outer.contains inner = true ↔
      outer.minX ≤ inner.minX ∧ inner.maxX ≤ outer.maxX ∧
        outer.minY ≤ inner.minY ∧ inner.maxY ≤ outer.maxY := by
  simp only [contains, Bool.and_eq_true, decide_eq_true_eq, and_assoc]

theorem contains_trans {outer middle inner : Envelope} (hOuter : outer.contains middle = true)
    (hInner : middle.contains inner = true) : outer.contains inner = true := by
  obtain ⟨hMinX, hMaxX, hMinY, hMaxY⟩ := contains_iff.mp hOuter
  obtain ⟨hMinX', hMaxX', hMinY', hMaxY'⟩ := contains_iff.mp hInner
  exact contains_iff.mpr ⟨Double.le_trans hMinX hMinX', Double.le_trans hMaxX' hMaxX,
    Double.le_trans hMinY hMinY', Double.le_trans hMaxY' hMaxY⟩

/-- Boxes that contain each other have the same sides, as far as numbers go. -/
theorem beq_of_contains {a b : Envelope} (hFirst : a.contains b = true)
    (hSecond : b.contains a = true) : (a == b) = true := by
  obtain ⟨hMinX, hMaxX, hMinY, hMaxY⟩ := contains_iff.mp hFirst
  obtain ⟨hMinX', hMaxX', hMinY', hMaxY'⟩ := contains_iff.mp hSecond
  have hSides : (a == b) =
      (a.minX == b.minX && (a.minY == b.minY && (a.maxX == b.maxX && a.maxY == b.maxY))) := rfl
  rw [hSides, Double.beq_of_le_of_le hMinX hMinX', Double.beq_of_le_of_le hMinY hMinY',
    Double.beq_of_le_of_le hMaxX' hMaxX, Double.beq_of_le_of_le hMaxY' hMaxY]
  rfl

end Envelope

end Shapefile
