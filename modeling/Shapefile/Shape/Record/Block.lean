import Shapefile.Geometry.Basic
import Shapefile.Shape.Header

/-!
The blocks that record payloads are made of: bounding box, counts, part table, positions, elevations
and measures, all little-endian. A written block is a list of puts; a read block checks every
count against what remains of the file before anything of that size is kept.
-/

namespace Shapefile.Block

/-! ### Writing -/

def int32 (n : Int32) : List UInt8 := ByteOrder.little.int32 n

def float64 (x : Float) : List UInt8 := ByteOrder.little.float64 x

/-- A count as a signed word. -/
def count (n : Nat) : List UInt8 := int32 (Int32.ofNat n)

/-- What stands for an unknown measure. -/
def noMeasure : Float := -10e40

/-- An elevation as it is stored; a missing one is stored as zero. -/
def storedElevation (z : Float) : Float := if z.isNaN then 0 else z

/-- Least and greatest of the elevations that are there, and zeros if none is. -/
def elevationRange (cs : List Coordinate) : Float × Float :=
  match (cs.map Coordinate.z).filter fun z => !z.isNaN with
  | [] => (0, 0)
  | first :: rest => (rest.foldl lesser first, rest.foldl greater first)

/-- The box around all coordinates of a geometry. -/
def bounds (g : Geometry) : List (List UInt8) :=
  ShapeHeader.boundsPuts (g.envelope?.getD .zero)

/-- The x and y of every position. -/
def positions (cs : List Coordinate) : List (List UInt8) :=
  cs.flatMap fun c => [float64 c.x, float64 c.y]

/-- Range and values of the elevations. -/
def elevations (cs : List Coordinate) : List (List UInt8) :=
  let (least, greatest) := elevationRange cs
  float64 least :: float64 greatest :: cs.map fun c => float64 (storedElevation c.z)

/-- Range and values of the measures, all unknown. -/
def measures (cs : List Coordinate) : List (List UInt8) :=
  List.replicate (cs.length + 2) (float64 noMeasure)

/-- The blocks behind the positions. -/
def extras (format : RecordFormat) (cs : List Coordinate) : List (List UInt8) :=
  (if format.hasElevation then elevations cs else []) ++
    (if format.hasMeasure then measures cs else [])

/-- Size of the blocks behind `points` positions. -/
def extrasSize (format : RecordFormat) (points : Nat) : Nat :=
  let block := 16 + 8 * points
  match format.dimensions with
  | .plane => 0
  | .measured => block
  | .elevated => 2 * block

/-- Where each part starts, if the first one starts at `start`. -/
def starts (start : Nat) : List (List Coordinate) → List Nat
  | [] => []
  | part :: parts => start :: starts (start + part.length) parts

/-- The numbers of parts and of points, then the start of every part. -/
def partTable (parts : List (List Coordinate)) : List (List UInt8) :=
  count parts.length :: count parts.flatten.length :: (starts 0 parts).map count

/-! ### Reading -/

/-- A count, which is never negative. -/
def readCount (field : CountField) : Reading ShapeError Nat := do
  let n ← Reading.int32
  if n < 0 then
    .fail (.malformed (.negativeCount field n))
  return n.toInt.toNat

/-- Refuse items that would need more bytes than remain. -/
def ensureFits (item : RecordItem) (count size : Nat) : Reading ShapeError Unit := do
  let remaining ← Reading.remaining
  if remaining < count * size then
    .fail (.malformed (.itemsPastEnd item count (count * size) remaining))

/-- A position without elevation. -/
def readPosition : Reading ShapeError Coordinate := do
  let x ← Reading.float64
  let y ← Reading.float64
  return { x, y }

/-- The x and y of this many positions. -/
def readPositions (points : Nat) : Reading ShapeError (List Coordinate) := do
  ensureFits .points points 16
  Reading.replicate points readPosition

/-- The elevations of these positions, behind their range. -/
def readElevations (cs : List Coordinate) : Reading ShapeError (List Coordinate) := do
  Reading.skip 16
  cs.mapM fun c => do
    let z ← Reading.float64
    return { c with z }

/-- Positions with the elevations that the format has; measures are passed over. -/
def readCoordinates (format : RecordFormat) (points : Nat) :
    Reading ShapeError (List Coordinate) := do
  let plane ← readPositions points
  let cs ← if format.hasElevation then readElevations plane else pure plane
  if format.hasMeasure then
    Reading.skip (16 + 8 * points)
  return cs

/-- The range of each part, from its start to the start of the next one, or to the last point. -/
def partRanges (points : Nat) : List Nat → Except ShapeError (List (Nat × Nat))
  | [] => .ok []
  | start :: rest => do
    let stop := rest.head?.getD points
    if stop < start ∨ points < stop then
      .error (.malformed (.partOutOfRange start stop points))
    let ranges ← partRanges points rest
    return (start, stop) :: ranges

/-- The part table: the ranges of this many parts. -/
def readParts (parts points : Nat) : Reading ShapeError (List (Nat × Nat)) := do
  ensureFits .parts parts 4
  let starts ← Reading.replicate parts (readCount .partOffset)
  Reading.ofExcept (partRanges points starts)

/-- The elements of a list in a range. -/
def slice {α : Type} (items : List α) (range : Nat × Nat) : List α :=
  (items.drop range.1).take (range.2 - range.1)

/-- Size of a bounding box, which is passed over. -/
def boundsSize : Nat := 32

/-- Counts, part table and coordinates, cut into parts. -/
def readMultiPart (format : RecordFormat) (field : CountField) :
    Reading ShapeError (List (List Coordinate)) := do
  Reading.skip boundsSize
  let parts ← readCount field
  let points ← readCount .points
  let ranges ← readParts parts points
  let cs ← readCoordinates format points
  return ranges.map (slice cs)

end Shapefile.Block
