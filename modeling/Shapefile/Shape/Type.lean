/-!
Shape types. A file holds records of one shape type; a record of any file may be null. All other
types but the multipatch combine a family of shapes with the numbers stored per position.
-/

namespace Shapefile

/-- What a record describes. -/
inductive Family where
  | point
  | polyLine
  | polygon
  | multiPoint
deriving DecidableEq, Repr

/-- The numbers stored per position: x and y, with a measure, or with an elevation and a measure. -/
inductive Dimensions where
  | plane
  | measured
  | elevated
deriving DecidableEq, Repr

/-- The layout of the records of one file. -/
structure RecordFormat where
  family : Family
  dimensions : Dimensions
deriving DecidableEq, Repr

inductive ShapeType where
  | null
  | record (format : RecordFormat)
  | multiPatch
deriving DecidableEq, Repr

namespace RecordFormat

def hasElevation (f : RecordFormat) : Bool := f.dimensions == .elevated

/-- Formats with an elevation have a measure too. -/
def hasMeasure (f : RecordFormat) : Bool := f.dimensions != .plane

def id (f : RecordFormat) : Nat :=
  let family := match f.family with
    | .point => 1
    | .polyLine => 3
    | .polygon => 5
    | .multiPoint => 8
  match f.dimensions with
  | .plane => family
  | .elevated => 10 + family
  | .measured => 20 + family

def name (f : RecordFormat) : String :=
  let family := match f.family with
    | .point => "Point"
    | .polyLine => "PolyLine"
    | .polygon => "Polygon"
    | .multiPoint => "MultiPoint"
  match f.dimensions with
  | .plane => family
  | .elevated => family ++ "Z"
  | .measured => family ++ "M"

/-- Every format, in the order of the identifiers. -/
def all : List RecordFormat :=
  [.plane, .elevated, .measured].flatMap fun dimensions =>
    [.point, .polyLine, .polygon, .multiPoint].map fun family => ⟨family, dimensions⟩

end RecordFormat

namespace ShapeType

/-- The number that stands for the type in files. -/
def id : ShapeType → Nat
  | null => 0
  | record f => f.id
  | multiPatch => 31

def name : ShapeType → String
  | null => "Null"
  | record f => f.name
  | multiPatch => "MultiPatch"

/-- Name and number. -/
def text (t : ShapeType) : String := t.name ++ " (" ++ toString t.id ++ ")"

/-- Every type, in the order of the identifiers. -/
def all : List ShapeType := null :: RecordFormat.all.map record ++ [multiPatch]

/-- The type with this number. -/
def ofId? (id : Int32) : Option ShapeType := all.find? fun t => t.id = id.toInt

def format? : ShapeType → Option RecordFormat
  | record f => some f
  | _ => none

def hasElevation (t : ShapeType) : Bool := t.format?.any (·.hasElevation)

def hasMeasure (t : ShapeType) : Bool := t.format?.any (·.hasMeasure)

end ShapeType

end Shapefile
