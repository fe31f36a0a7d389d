import Shapefile.Geometry.Ring
import Shapefile.Proofs.Geometry.NumericOrder

/-! Rings in the plane. How a ring winds and whether it is open depend on the
x and y of its coordinates alone, and a ring turned round is open if it was
open before. -/
namespace Shapefile

namespace Coordinate

theorem samePlace_comm (a b : Coordinate) : a.samePlace b = b.samePlace a := by
  rw [samePlace, samePlace, Double.beq_comm a.x, Double.beq_comm a.y]

/-- Coordinates may change in their elevation, but stay in place. -/
def StaysInPlace (change : Coordinate → Coordinate) : Prop :=
  ∀ c, (change c).x = c.x ∧ (change c).y = c.y

end Coordinate

namespace Ring

theorem isOpen_reverse (ring : Ring) : isOpen ring.reverse = isOpen ring := by
  unfold isOpen
  rw [List.head?_reverse, List.getLast?_reverse]
  cases ring.head? with
  | none => cases ring.getLast? <;> rfl
  | some first =>
      cases ring.getLast? with
      | none => rfl
      | some last => simp only [Coordinate.samePlace_comm last first]

/-- Turning a ring round does not open it. -/
theorem isOpen_wound (order : Winding) (ring : Ring) :
    isOpen (wound order ring) = isOpen ring := by
  unfold wound
  split
  · exact isOpen_reverse ring
  · rfl

theorem closed_eq_self {ring : Ring} (hClosed : isOpen ring = false) : closed ring = ring := by
  rw [closed, hClosed]
  rfl

section Change

variable {change : Coordinate → Coordinate} (hPlace : Coordinate.StaysInPlace change)
include hPlace

theorem isOpen_map (ring : Ring) : isOpen (ring.map change) = isOpen ring := by
  have hSame (a b : Coordinate) : (change a).samePlace (change b) = a.samePlace b := by
    rw [Coordinate.samePlace, (hPlace a).1, (hPlace a).2, (hPlace b).1, (hPlace b).2]
    rfl
  unfold isOpen
  rw [List.head?_map, List.getLast?_map]
  cases ring.head? with
  | none => cases ring.getLast? <;> rfl
  | some first =>
      cases ring.getLast? with
      | none => rfl
      | some last => simp only [Option.map_some, hSame]

theorem signedArea2_map (ring : Ring) : signedArea2 (ring.map change) = signedArea2 ring := by
  have hEdges : edges (ring.map change) = (edges ring).map (Prod.map change change) := by
    rw [edges, edges, ← List.map_tail, List.zip_map]
  have hCross (edge : Edge) : crossProduct (Prod.map change change edge) = crossProduct edge := by
    simp only [crossProduct, Prod.map_fst, Prod.map_snd, (hPlace edge.1).1, (hPlace edge.1).2,
      (hPlace edge.2).1, (hPlace edge.2).2]
  rw [signedArea2, signedArea2, hEdges, List.foldl_map]
  simp only [hCross]

/-- The winding of a ring is a matter of the plane. -/
theorem winding_map (ring : Ring) : winding (ring.map change) = winding ring := by
  rw [winding, winding, signedArea2_map hPlace]

end Change

end Ring

end Shapefile
