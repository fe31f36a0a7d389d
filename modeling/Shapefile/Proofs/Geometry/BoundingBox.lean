import Shapefile.Proofs.Geometry.NumericOrder

/-! Boxes around coordinates. Lesser and greater doubles can be taken in any
grouping, also with a NaN or with both zeros among them, so the box around two
lists one after the other is the box around their boxes. A side is one of the
ordinates, and no ordinate that is a number lies outside. -/
namespace Shapefile

namespace Double

theorem lesser_assoc (a b c : Float) : lesser (lesser a b) c = lesser a (lesser b c) := by
  simp only [lesser, lt_iff]
  grind

theorem greater_assoc (a b c : Float) : greater (greater a b) c = greater a (greater b c) := by
  simp only [greater, lt_iff]
  grind

end Double

namespace Envelope

theorem union_assoc (a b c : Envelope) : (a.union b).union c = a.union (b.union c) := by
  simp only [union, Double.lesser_assoc, Double.greater_assoc]

theorem foldl_expand_union (a b : Envelope) (cs : List Coordinate) :
    cs.foldl expand (a.union b) = a.union (cs.foldl expand b) := by
  induction cs generalizing b with
  | nil => rfl
  | cons c cs ih => simp only [List.foldl_cons, expand, union_assoc, ih]

/-- Boxes of parts make up the box of the whole; a part without coordinates
adds nothing. -/
theorem of?_append (cs ds : List Coordinate) :
    of? (cs ++ ds) = (of? cs).merge union (of? ds) := by
  cases cs with
  | nil => simp [of?]
  | cons c cs =>
      cases ds with
      | nil => simp [of?]
      | cons d ds => simp [of?, expand, foldl_expand_union]

theorem of?_eq_none_iff {cs : List Coordinate} : of? cs = none ↔ cs = [] := by
  cases cs <;> simp [of?]

/-- Each side of the box is one of the ordinates on its axis, and no ordinate
that is a number lies beyond it. A side is a NaN only if all ordinates on its
axis are. -/
structure Spans (box : Envelope) (cs : List Coordinate) : Prop where
  minX : Double.FirstOf (· ≤ ·) box.minX (cs.map Coordinate.x)
  minY : Double.FirstOf (· ≤ ·) box.minY (cs.map Coordinate.y)
  maxX : Double.FirstOf (fun side x => x ≤ side) box.maxX (cs.map Coordinate.x)
  maxY : Double.FirstOf (fun side y => y ≤ side) box.maxY (cs.map Coordinate.y)

/-- A box grows side by side. -/
theorem foldl_expand (box : Envelope) (cs : List Coordinate) :
    cs.foldl expand box =
      { minX := (cs.map Coordinate.x).foldl lesser box.minX
        minY := (cs.map Coordinate.y).foldl lesser box.minY
        maxX := (cs.map Coordinate.x).foldl greater box.maxX
        maxY := (cs.map Coordinate.y).foldl greater box.maxY } := by
  induction cs generalizing box with
  | nil => rfl
  | cons c cs ih =>
      rw [List.foldl_cons, ih]
      rfl

theorem spans_of_of? {cs : List Coordinate} {box : Envelope} (hBox : of? cs = some box) :
    box.Spans cs := by
  cases cs with
  | nil => cases hBox
  | cons c cs =>
      cases hBox
      rw [foldl_expand]
      exact ⟨Double.picks_lesser.firstOf_foldl _ _, Double.picks_lesser.firstOf_foldl _ _,
        Double.picks_greater.firstOf_foldl _ _, Double.picks_greater.firstOf_foldl _ _⟩

end Envelope

end Shapefile
