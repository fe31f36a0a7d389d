import Shapefile.Geometry.Envelope

/-!
Rings of coordinates: the way they wind, whether they enclose a position, and how they are closed.
Shells wind clockwise and holes counter-clockwise.
-/

namespace Shapefile

/-- A sequence of coordinates that is meant to end where it starts. -/
abbrev Ring := List Coordinate

inductive Winding where
  | clockwise
  | counterClockwise
deriving DecidableEq, Repr

/-- A side of a ring, from one coordinate to the next. -/
abbrev Edge := Coordinate × Coordinate

namespace Ring

/-- The sides of a ring in order. -/
def edges (ring : Ring) : List Edge := ring.zip ring.tail

/-- The signed area between an edge and the origin, doubled. -/
def crossProduct (edge : Edge) : Float := edge.1.x * edge.2.y - edge.2.x * edge.1.y

/-- Twice the signed area of a closed ring, summed in the order of its edges; positive if it winds
counter-clockwise with the y axis pointing up. -/
def signedArea2 (ring : Ring) : Float :=
  (edges ring).foldl (fun area edge => area + crossProduct edge) 0

/-- How a closed ring winds. A ring without area, or with an area that is not a number, counts as
clockwise, so that it is kept as a shell. -/
def winding (ring : Ring) : Winding :=
  if 0 < signedArea2 ring then .counterClockwise else .clockwise

/-- The ring wound this way: reversed if it winds the other way and has more than two
coordinates. -/
def wound (order : Winding) (ring : Ring) : Ring :=
  if 2 < ring.length ∧ winding ring ≠ order then ring.reverse else ring

/-- A ray from `p` to the right crosses this edge. -/
def crosses (p : Coordinate) (edge : Edge) : Bool :=
  let (a, b) := edge
  decide (p.y < a.y) != decide (p.y < b.y) &&
    p.x < a.x + (p.y - a.y) * (b.x - a.x) / (b.y - a.y)

/-- The position is a vertex of the ring, or a ray from it crosses an odd number of edges. -/
def encloses (ring : Ring) (p : Coordinate) : Bool :=
  ring.any (·.samePlace p) || (edges ring).countP (crosses p) % 2 == 1

/-- First and last coordinate differ in the plane. -/
def isOpen (ring : Ring) : Bool :=
  match ring.head?, ring.getLast? with
  | some first, some last => !first.samePlace last
  | _, _ => false

/-- The ring with its first coordinate repeated at the end, if it was open. -/
def closed (ring : Ring) : Ring := if isOpen ring then ring ++ ring.take 1 else ring

/-- The box around a ring; a ring without coordinates has the zero box. -/
def envelope (ring : Ring) : Envelope := (Envelope.of? ring).getD .zero

end Ring

end Shapefile
