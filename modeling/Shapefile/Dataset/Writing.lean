import Shapefile.Dataset.Basic
import Shapefile.Row

/-!
Creating a dataset and inserting rows. Everything about a row is checked before any of it is
written, so a refused row leaves no trace.
-/

namespace Shapefile

namespace DatasetWriter

/-- Finish all files. -/
def close (w : DatasetWriter) (disk : Disk) : Disk := w.table.close (w.shapes.close disk)

/-- Add a row of a geometry and attributes. Both halves are checked before either is written; what
was written before an error stays. -/
def insert [Host] (w : DatasetWriter) (disk : Disk) (geometry : Geometry)
    (attributes : List Value) :
    Except DatasetError Unit × DatasetWriter × Disk :=
  match w.shapes.writer.check geometry, w.table.writer.header.encodeRow attributes with
  | .error e, _ => (.error (.shape e), w, disk)
  | .ok (), .error e => (.error (.table e), w, disk)
  | .ok (), .ok record =>
    match w.shapes.write disk geometry with
    | (.error e, shapes, disk) => (.error (.shape e), { w with shapes }, disk)
    | (.ok (), shapes, disk) =>
      match w.table.writeRecord disk record with
      | .error e => (.error (.table e), { w with shapes }, disk)
      | .ok (table, disk) => (.ok (), { shapes, table }, disk)

end DatasetWriter

namespace Dataset

/-- A storage operation as part of a dataset operation. -/
def onStorage {α : Type} (result : Except StorageError α) : OnDisk α :=
  result.mapError DatasetError.storage

/-- Create the file at a path. -/
def createFile (path : Path) : OnDisk OpenFile := do
  let (id, disk) ← onStorage ((← get).create path)
  set disk
  return { id }

/-- Save the code page of a new dataset, unless it is the standard one. -/
def createCodePage (path : Path) (page : Text.CodePage) : OnDisk (Option Path) := do
  if page.isStandard then
    return none
  let target := path.withExtension "cpg"
  set (← onStorage (Companions.saveCodePage (← get) target page))
  return some target

/-- Create shape file and index, with the headers that they start with as far as these are sent. -/
def createShapes (files : Companions) (shapeType : ShapeType) (capacity : Nat) :
    OnDisk WritingShapes := do
  let shapesFile ← createFile files.shapes
  let indexFile ← createFile files.index
  let writer ← (ShapeWriter.create shapeType capacity).mapError DatasetError.shape
  modifyGet { shapesFile, indexFile, writer : WritingShapes }.settle

/-- Create the table, with the header that it starts with as far as it is sent. -/
def createTable [Host] (files : Companions) (header : TableHeader) (capacity : Nat) :
    OnDisk WritingTable := do
  let created := WritingTable.createAt (← get) files.table header capacity
  let (table, disk) ← created.mapError DatasetError.table
  set disk
  return table

/-- Create a dataset. Its header says how many rows there will be. Files are created one after the
other, and those created before an error stay. -/
def create [Host] (d : Dataset) (path : Path) (shapeType : ShapeType) (header : TableHeader) :
    OnDisk Dataset := do
  d.checkUnopened
  let files := Companions.forWriting path
  let codePage ← createCodePage path header.codePage
  let shapes ← createShapes files shapeType d.options.writeCapacity
  let table ← createTable files header d.options.writeCapacity
  return { d with
    state := .writing { shapes, table }
    files := some { files with codePage } }

/-- Insert a row with its geometry at the geometry's column. What was changed before an error
stays. -/
def insert [Host] (d : Dataset) (disk : Disk) (values : List Value) :
    Except DatasetError Unit × Dataset × Disk :=
  match d.state with
  | .writing w =>
    let expected := w.table.writer.header.fieldCount + 1
    if values.length ≠ expected then (.error (.fieldCount values.length expected), d, disk)
    else
      match Row.split? values d.geometryIndex with
      | none => (.error (.state (.geometryIndex d.geometryIndex expected)), d, disk)
      | some (.geometry geometry, attributes) =>
        let (result, w, disk) := w.insert disk geometry attributes
        (result, { d with state := .writing w }, disk)
      | some (.null, _) => (.error (.nullGeometry d.geometryIndex), d, disk)
      | some (value, _) => (.error (.notGeometry d.geometryIndex value.typeName), d, disk)
  | _ => (.error (.state .notWriting), d, disk)

/-- Close a dataset. Only a dataset that was written changes its files by this. -/
def close (d : Dataset) : OnDisk Dataset := do
  match d.state with
  | .closed => throw (.state .alreadyClosed)
  | .writing w => modify w.close
  | .unopened | .reading _ => pure ()
  return { d with state := .closed }

end Dataset

end Shapefile
