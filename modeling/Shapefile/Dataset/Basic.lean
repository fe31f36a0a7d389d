import Shapefile.Dataset.Companions
import Shapefile.Shape.File
import Shapefile.Shape.Index
import Shapefile.Shape.Reader
import Shapefile.Table.File

/-!
A dataset: a shape file, its index and an attribute table, seen as one table with a geometry column.
It is opened once, for reading or for writing, and closed once.
-/

namespace Shapefile

/-- How a dataset is read and written. -/
structure DatasetOptions where
  /-- Window on shape file and table. -/
  readCapacity : Nat := Window.defaultCapacity
  /-- Window on the index: 128 entries. -/
  indexCapacity : Nat := 8 * 128
  /-- Staging area of each file written. -/
  writeCapacity : Nat := Staging.defaultCapacity
  /-- The label of a code page that wins over what the files say. -/
  forcedCodePage : Option String := none
  /-- Refuse datasets whose index and table differ in their number of records. -/
  validateCounts : Bool := false
deriving DecidableEq, Repr

/-- The files of a dataset that is being read. -/
structure DatasetReader where
  shapesFile : FileId
  shapes : ShapeReader
  indexFile : FileId
  index : ShapeIndex
  table : ReadingTable

/-- The files of a dataset that is being written. -/
structure DatasetWriter where
  shapes : WritingShapes
  table : WritingTable
deriving DecidableEq

inductive DatasetState where
  | unopened
  | reading (r : DatasetReader)
  | writing (w : DatasetWriter)
  | closed

def DatasetState.stage : DatasetState → Stage
  | unopened => .unopened
  | reading _ => .reading
  | writing _ => .writing
  | closed => .closed

structure Dataset where
  options : DatasetOptions := {}
  state : DatasetState := .unopened
  files : Option Companions := none
  /-- The column of the geometry. -/
  geometryIndex : Nat := 0
  /-- The spatial reference of every geometry that is read. -/
  srid : Int32 := 0

namespace Dataset

/-- Operations that may change files; the changes made before an error stay. -/
abbrev OnDisk (α : Type) := ExceptT DatasetError (StateM Disk) α

/-- Operations on a dataset that read files; what they keep of the files survives an error. -/
abbrev Query (α : Type) := ExceptT DatasetError (StateM Dataset) α

def tableHeader? (d : Dataset) : Option TableHeader :=
  match d.state with
  | .reading r => some r.table.reader.header
  | .writing w => some w.table.writer.header
  | .unopened | .closed => none

/-- The header of the shape file that is being read. -/
def shapeHeader? (d : Dataset) : Option ShapeHeader :=
  match d.state with
  | .reading r => some r.shapes.header
  | _ => none

def shapeType? (d : Dataset) : Option ShapeType :=
  match d.state with
  | .reading r => some r.shapes.header.shapeType
  | .writing w => some w.shapes.writer.shapeType
  | .unopened | .closed => none

/-- Rows of the table when reading, rows inserted so far when writing. -/
def rowCount (d : Dataset) : Nat :=
  match d.state with
  | .reading r => r.table.reader.header.recordCount
  | .writing w => w.table.writer.written
  | .unopened | .closed => 0

/-- The attributes and the geometry. -/
def fieldCount (d : Dataset) : Nat :=
  match d.tableHeader? with
  | some header => header.fieldCount + 1
  | none => 0

def setGeometryIndex (d : Dataset) (index : Nat) : Dataset := { d with geometryIndex := index }

def setSrid (d : Dataset) (srid : Int32) : Dataset := { d with srid }

/-- Refuse to open a dataset twice. -/
def checkUnopened (d : Dataset) : Except DatasetError Unit :=
  match d.state with
  | .unopened => .ok ()
  | state => .error (.state (.cannotOpen state.stage))

end Dataset

end Shapefile
