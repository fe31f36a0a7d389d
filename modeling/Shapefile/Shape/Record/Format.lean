import Shapefile.Shape.Record.Assembly
import Shapefile.Shape.Record.Block

/-!
The record formats: which geometries each one takes, the length and the bytes of a record, and the
geometry that a record reads back as. A payload starts behind the shape type of the record, and the
length counts that type.
-/

namespace Shapefile.RecordFormat

/-- Size of the shape type in front of a payload. -/
def typeSize : Nat := 4

/-- Least number of coordinates of a ring. -/
def leastRing : Nat := 4

/-- The refusal of a geometry that the format does not take. -/
def refuse {α : Type} (f : RecordFormat) (g : Geometry) : Except ShapeError α :=
  .error (.unsupported (.geometry g.typeName (.record f)))

/-! ### Points -/

def pointLength (f : RecordFormat) : Nat :=
  match f.dimensions with
  | .plane => 20
  | .measured => 28
  | .elevated => 36

def pointPuts (f : RecordFormat) (c : Coordinate) : List (List UInt8) :=
  [Block.float64 c.x, Block.float64 c.y] ++
    (if f.hasElevation then [Block.float64 (Block.storedElevation c.z)] else []) ++
    (if f.hasMeasure then [Block.float64 Block.noMeasure] else [])

def readPoint (f : RecordFormat) : Reading ShapeError Shape := do
  let x ← Reading.float64
  let y ← Reading.float64
  let z ← if f.hasElevation then Reading.float64 else pure absent
  if f.hasMeasure then
    Reading.skip 8
  return .point ⟨x, y, z⟩

/-! ### Point sets -/

def multiPointLength (f : RecordFormat) (cs : List Coordinate) : Nat :=
  40 + 16 * cs.length + Block.extrasSize f cs.length

def multiPointPuts (f : RecordFormat) (g : Geometry) (cs : List Coordinate) :
    List (List UInt8) :=
  Block.bounds g ++ Block.count cs.length :: Block.positions cs ++ Block.extras f cs

def readMultiPoint (f : RecordFormat) : Reading ShapeError Shape := do
  Reading.skip Block.boundsSize
  let points ← Block.readCount .points
  let cs ← Block.readCoordinates f points
  return .multiPoint cs

/-! ### Lines and polygons -/

def multiPartLength (f : RecordFormat) (parts : List (List Coordinate)) : Nat :=
  44 + 4 * parts.length + 16 * parts.flatten.length + Block.extrasSize f parts.flatten.length

def multiPartPuts (f : RecordFormat) (g : Geometry) (parts : List (List Coordinate)) :
    List (List UInt8) :=
  Block.bounds g ++ Block.partTable parts ++ Block.positions parts.flatten ++
    Block.extras f parts.flatten

/-- A part of one point is no line, so its point is repeated. -/
def line : List Coordinate → List Coordinate
  | [c] => [c, c]
  | cs => cs

def readPolyLine (f : RecordFormat) : Reading ShapeError Shape := do
  let parts ← Block.readMultiPart f .parts
  return .multiLineString (parts.map line)

/-- The rings that parts stand for: open ones closed, and those too short left out. -/
def usableRings (parts : List (List Coordinate)) : List Ring :=
  (parts.map Ring.closed).filter fun ring => leastRing ≤ ring.length

def readPolygon (f : RecordFormat) : Reading ShapeError Shape := do
  let parts ← Block.readMultiPart f .rings
  return .multiPolygon (Polygon.assemble (usableRings parts))

/-! ### Any record -/

/-- The coordinates of a geometry that a point set format takes. -/
def pointSet? : Shape → Option (List Coordinate)
  | .point c => some [c]
  | .multiPoint cs => some cs
  | _ => none

/-- The lines of a geometry that a line format takes. -/
def lines? : Shape → Option (List (List Coordinate))
  | .lineString cs => some [cs]
  | .multiLineString lines => some lines
  | _ => none

/-- The polygons of a geometry that a polygon format takes. -/
def polygons? : Shape → Option (List Polygon)
  | .polygon p => some [p]
  | .multiPolygon ps => some ps
  | _ => none

/-- The length of the record of a geometry in bytes, with its shape type. -/
def length (f : RecordFormat) (g : Geometry) : Except ShapeError Nat :=
  match f.family with
  | .point =>
    match g.shape with
    | .point _ => .ok f.pointLength
    | _ => f.refuse g
  | .multiPoint =>
    match pointSet? g.shape with
    | some cs => .ok (f.multiPointLength cs)
    | none => f.refuse g
  | .polyLine =>
    match lines? g.shape with
    | some lines => .ok (f.multiPartLength lines)
    | none => f.refuse g
  | .polygon =>
    match polygons? g.shape with
    | some polygons => .ok (f.multiPartLength (polygons.flatMap Polygon.rings))
    | none => f.refuse g

/-- The payload of the record of a geometry, one number after the other. -/
def puts (f : RecordFormat) (g : Geometry) : Except ShapeError (List (List UInt8)) :=
  match f.family with
  | .point =>
    match g.shape with
    | .point c => .ok (f.pointPuts c)
    | _ => f.refuse g
  | .multiPoint =>
    match pointSet? g.shape with
    | some cs => .ok (f.multiPointPuts g cs)
    | none => f.refuse g
  | .polyLine =>
    match lines? g.shape with
    | some lines => .ok (f.multiPartPuts g lines)
    | none => f.refuse g
  | .polygon =>
    match polygons? g.shape with
    | some polygons => .ok (f.multiPartPuts g (Polygon.orientedRings polygons))
    | none => f.refuse g

/-- The payload as bytes. -/
def payload (f : RecordFormat) (g : Geometry) : Except ShapeError (List UInt8) :=
  (f.puts g).map List.flatten

/-- The shape of a payload at the cursor. -/
def readShape (f : RecordFormat) : Reading ShapeError Shape :=
  match f.family with
  | .point => f.readPoint
  | .multiPoint => f.readMultiPoint
  | .polyLine => f.readPolyLine
  | .polygon => f.readPolygon

/-- The geometry of a record whose type has been read; a null record has none and no payload. -/
def read (f : RecordFormat) (recordType : ShapeType) : Reading ShapeError (Option Geometry) :=
  match recordType with
  | .null => pure none
  | _ => do
    let shape ← f.readShape
    return some { shape }

end Shapefile.RecordFormat
