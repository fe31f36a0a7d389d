import Shapefile.Geometry.Coordinate

/-!
Axis-aligned bounding boxes. The lesser and the greater of two doubles skip a NaN as long as the
other one is a number, so a box is spanned by the numbers among its coordinates.
-/

namespace Shapefile

/-- The lesser of two doubles; a NaN gives way to the other. -/
def lesser (a b : Float) : Float := if a.isNaN then b else if b < a then b else a

/-- The greater of two doubles; a NaN gives way to the other. -/
def greater (a b : Float) : Float := if a.isNaN then b else if a < b then b else a

/-- A box given by its sides. -/
structure Envelope where
  minX : Float
  minY : Float
  maxX : Float
  maxY : Float
deriving BEq, DecidableEq

namespace Envelope

/-- The box that stands for having none: the origin. -/
def zero : Envelope := ⟨0, 0, 0, 0⟩

instance : Inhabited Envelope := ⟨zero⟩

def ofCoordinate (c : Coordinate) : Envelope := ⟨c.x, c.y, c.x, c.y⟩

/-- The box around two boxes. -/
def union (a b : Envelope) : Envelope where
  minX := lesser a.minX b.minX
  minY := lesser a.minY b.minY
  maxX := greater a.maxX b.maxX
  maxY := greater a.maxY b.maxY

/-- The box around a box and a coordinate. -/
def expand (e : Envelope) (c : Coordinate) : Envelope := e.union (ofCoordinate c)

/-- The box around these coordinates, if there are any. -/
def of? : List Coordinate → Option Envelope
  | [] => none
  | c :: cs => some (cs.foldl expand (ofCoordinate c))

/-- No side of `inner` is outside; false as soon as one of its sides is a NaN. -/
def contains (outer inner : Envelope) : Bool :=
  outer.minX ≤ inner.minX && inner.maxX ≤ outer.maxX &&
    outer.minY ≤ inner.minY && inner.maxY ≤ outer.maxY

end Envelope

end Shapefile
