import Shapefile.Decimal.Shortest

/-!
Positions with an optional elevation. A missing elevation is a NaN, which is also how a file says
that there is none, and two missing elevations count as equal.
-/

namespace Shapefile

/-- No value: what a missing elevation is. -/
def absent : Float := Float.ofBits 0x7FF8000000000000

/-- A position; `z` is a NaN where there is no elevation. -/
structure Coordinate where
  x : Float
  y : Float
  z : Float := absent
deriving Inhabited, DecidableEq

namespace Coordinate

/-- The same position in the plane, by numeric equality. -/
def samePlace (a b : Coordinate) : Bool := a.x == b.x && a.y == b.y

/-- Numeric equality, except that a missing elevation equals a missing elevation. -/
instance : BEq Coordinate where
  beq a b := a.samePlace b && (a.z == b.z || (a.z.isNaN && b.z.isNaN))

/-- The numbers with blanks between them, without a missing elevation. -/
def text (c : Coordinate) : List Char :=
  let plane := Decimal.shortest c.x ++ ' ' :: Decimal.shortest c.y
  if c.z.isNaN then plane else plane ++ ' ' :: Decimal.shortest c.z

end Coordinate

end Shapefile
