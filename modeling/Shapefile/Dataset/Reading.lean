import Shapefile.Dataset.Basic
import Shapefile.Row

/-!
Opening a dataset and reading rows and single columns. A geometry is found through the index; the
attributes are the row of the same number in the table.
-/

namespace Shapefile.Dataset

/-- The code page of this label. -/
def forced (label : String) : Except DatasetError Text.CodePage :=
  match Text.CodePage.ofLabel? label.toList with
  | some page => .ok page
  | none => .error (.table (.malformed (.unknownCodePage label)))

/-- The code page to read the table in: the one asked for, else the one that the code page file
names; none leaves it to the table. -/
def resolveCodePage (disk : Disk) (label : Option String) (file : Option Path) :
    Except DatasetError (Option Text.CodePage) :=
  match label, file with
  | some label, _ => (forced label).map some
  | none, some file => (Companions.readCodePage disk file).mapError .storage
  | none, none => .ok none

/-- Open the file at a path with a format's own opening function. -/
def openFile {ε α : Type} (disk : Disk) (path : Path) (wrap : ε → DatasetError)
    (onChannel : Bytes → Except ε α) : Except DatasetError (FileId × α) := do
  let file ← (disk.find path).mapError .storage
  let opened ← (onChannel (disk.content file)).mapError wrap
  return (file, opened)

/-- Open index, table and shape file, in this order. -/
def openFiles (disk : Disk) (options : DatasetOptions) (files : Companions)
    (codePage : Option Text.CodePage) : Except DatasetError DatasetReader := do
  let (indexFile, index) ←
    openFile disk files.index .shape (ShapeIndex.onChannel · options.indexCapacity)
  let table ← (ReadingTable.openAt disk files.table codePage options.readCapacity).mapError .table
  let rows := table.reader.header.recordCount
  if index.recordCount ≠ rows ∧ options.validateCounts then
    .error (.recordCounts index.recordCount rows)
  let (shapesFile, shapes) ←
    openFile disk files.shapes .shape (ShapeReader.onChannel · options.readCapacity)
  return { shapesFile, shapes, indexFile, index, table }

/-- The spatial reference that the projection file gives, else the one set before. -/
def resolveSrid (disk : Disk) (file : Option Path) (srid : Int32) : Except DatasetError Int32 :=
  match file with
  | some file => ((Companions.readSrid disk file).map (·.getD srid)).mapError .storage
  | none => .ok srid

/-- Open a dataset for reading. The dataset is as before if any step fails. -/
def openForReading (d : Dataset) (disk : Disk) (path : Path) (label : Option String) :
    Except DatasetError Dataset := do
  d.checkUnopened
  let files ← Companions.find disk path
  let codePage ← resolveCodePage disk (label.or d.options.forcedCodePage) files.codePage
  let r ← openFiles disk d.options files codePage
  let srid ← resolveSrid disk files.projection d.srid
  return { d with state := .reading r, files := some files, srid }

/-- A new dataset, opened for reading. -/
def openAt (disk : Disk) (path : Path) : Except DatasetError Dataset :=
  ({} : Dataset).openForReading disk path none

/-- The files being read. -/
def reader : Query DatasetReader := do
  match (← get).state with
  | .reading r => return r
  | _ => throw (.state .notReading)

/-- Keep what a read has changed in the windows on the files. -/
def keep (r : DatasetReader) : Query Unit := modify fun d => { d with state := .reading r }

/-- Refuse rows that are not there, and a column for the geometry that is not there; otherwise the
column of the geometry. -/
def checkRow (row : Nat) : Query Nat := do
  let _ ← reader
  let d ← get
  if d.rowCount ≤ row then
    throw (.rowOutOfRange row d.rowCount)
  if d.fieldCount ≤ d.geometryIndex then
    throw (.state (.geometryIndex d.geometryIndex d.fieldCount))
  return d.geometryIndex

/-- The geometry of a row, stamped with the spatial reference of the dataset. -/
def readGeometry (disk : Disk) (row : Nat) : Query Value := do
  let r ← reader
  let (offset, index) := r.index.byteOffset (disk.content r.indexFile) row
  let r := { r with index }
  keep r
  let offset ← offset.mapError DatasetError.shape
  let (geometry, shapes) := r.shapes.geometryAt (disk.content r.shapesFile) offset
  keep { r with shapes }
  match ← geometry.mapError DatasetError.shape with
  | some g => return .geometry { g with srid := (← get).srid }
  | none => return .null

/-- The attributes of a row. -/
def readAttributes [Host] (disk : Disk) (row : Nat) : Query (List Value) := do
  let r ← reader
  let (values, table) := r.table.row disk row
  keep { r with table }
  values.mapError DatasetError.table

/-- One attribute of a row. -/
def readAttribute [Host] (disk : Disk) (row column : Nat) : Query Value := do
  let r ← reader
  let (value, table) := r.table.cell disk row column
  keep { r with table }
  value.mapError DatasetError.table

/-- A row: its attributes with the geometry among them. -/
def row [Host] (disk : Disk) (row : Nat) : Query (List Value) := do
  let index ← checkRow row
  let geometry ← readGeometry disk row
  let attributes ← readAttributes disk row
  return Row.splice geometry attributes index

/-- One column of a row. -/
def field [Host] (disk : Disk) (row column : Nat) : Query Value := do
  let index ← checkRow row
  let columns := (← get).fieldCount
  if columns ≤ column then
    throw (.state (.columnOutOfRange column columns))
  match Row.attributeColumn? column index with
  | none => readGeometry disk row
  | some column => readAttribute disk row column

/-- The bytes that a row takes in the table and in the shape file. -/
def rowSize (disk : Disk) (row : Nat) : Query Nat := do
  let _ ← checkRow row
  let r ← reader
  let (length, index) := r.index.contentLength (disk.content r.indexFile) row
  keep { r with index }
  let words ← length.mapError DatasetError.shape
  let bytes := UInt64.ofNat r.table.reader.header.fieldBytes + ShapeHeader.bytesOf words
  return bytes.toNat

end Shapefile.Dataset
