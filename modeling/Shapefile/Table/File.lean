import Shapefile.Storage.Disk
import Shapefile.Table.Reader
import Shapefile.Table.Writer

/-!
Table files on a disk, open for reading or for writing. What a writer has staged is not in the file
yet, and is lost if the writer is dropped without being closed.
-/

namespace Shapefile

/-- A table file that is being read. -/
structure ReadingTable where
  path : Path
  file : FileId
  reader : TableReader

/-- A table file that is being written. -/
structure WritingTable where
  path : Path
  file : OpenFile
  writer : TableWriter
deriving DecidableEq

namespace ReadingTable

/-- Open the file at a path. -/
def openAt (disk : Disk) (path : Path) (forced : Option Text.CodePage) (capacity : Nat) :
    Except TableError ReadingTable := do
  let file ← (disk.find path).mapError .storage
  let reader ← TableReader.onChannel (disk.content file) capacity forced
  return { path, file, reader }

def row [Host] (t : ReadingTable) (disk : Disk) (row : Nat) :
    Except TableError (List Value) × ReadingTable :=
  let (result, reader) := t.reader.row (disk.content t.file) row
  (result, { t with reader })

def cell [Host] (t : ReadingTable) (disk : Disk) (row column : Nat) :
    Except TableError Value × ReadingTable :=
  let (result, reader) := t.reader.cell (disk.content t.file) row column
  (result, { t with reader })

end ReadingTable

namespace WritingTable

/-- Move what the writer has sent into the file. -/
def settle (t : WritingTable) (disk : Disk) : WritingTable × Disk :=
  let (chunks, staging) := t.writer.staging.collect
  let (file, disk) := t.file.append disk chunks
  ({ t with file, writer.staging := staging }, disk)

/-- Create a table at a path. The disk changes once the file could be created. -/
def createAt [Host] (disk : Disk) (path : Path) (header : TableHeader) (capacity : Nat) :
    Except TableError (WritingTable × Disk) := do
  let (id, disk) ← (disk.create path).mapError .storage
  let table : WritingTable := { path, file := { id }, writer := .create header capacity }
  return table.settle disk

def writeRecord (t : WritingTable) (disk : Disk) (record : List UInt8) :
    Except TableError (WritingTable × Disk) := do
  let writer ← t.writer.writeRecord record
  return { t with writer }.settle disk

def writeRow [Host] (t : WritingTable) (disk : Disk) (values : List Value) :
    Except TableError (WritingTable × Disk) := do
  let writer ← t.writer.writeRow values
  return { t with writer }.settle disk

/-- Finish the file. -/
def close (t : WritingTable) (disk : Disk) : Disk :=
  ({ t with writer := t.writer.close }.settle disk).2

end WritingTable

/-- A table file that is open either way. -/
inductive TableFile where
  | reading (table : ReadingTable)
  | writing (table : WritingTable)

namespace TableFile

def path : TableFile → Path
  | reading t => t.path
  | writing t => t.path

def header : TableFile → TableHeader
  | reading t => t.reader.header
  | writing t => t.writer.header

/-- Rows in the file when reading, rows written so far when writing. -/
def rowCount : TableFile → Nat
  | reading t => t.reader.header.recordCount
  | writing t => t.writer.written

def fieldCount (t : TableFile) : Nat := t.header.fieldCount

/-- Bytes of the fields of a row. -/
def rowSize (t : TableFile) : Nat := t.header.fieldBytes

def row [Host] (t : TableFile) (disk : Disk) (row : Nat) :
    Except TableError (List Value) × TableFile :=
  match t with
  | reading table =>
    let (result, table) := table.row disk row
    (result, reading table)
  | writing _ => (.error (.needs .reading), t)

def cell [Host] (t : TableFile) (disk : Disk) (row column : Nat) :
    Except TableError Value × TableFile :=
  match t with
  | reading table =>
    let (result, table) := table.cell disk row column
    (result, reading table)
  | writing _ => (.error (.needs .reading), t)

/-- The record of a row, which is not written. -/
def encodeRow [Host] (t : TableFile) (values : List Value) : Except TableError (List UInt8) :=
  match t with
  | reading _ => .error (.needs .writing)
  | writing table => table.writer.header.encodeRow values

def writeRecord (t : TableFile) (disk : Disk) (record : List UInt8) :
    Except TableError (TableFile × Disk) :=
  match t with
  | reading _ => .error (.needs .writing)
  | writing table => (table.writeRecord disk record).map fun (table, disk) => (writing table, disk)

def writeRow [Host] (t : TableFile) (disk : Disk) (values : List Value) :
    Except TableError (TableFile × Disk) :=
  match t with
  | reading _ => .error (.needs .writing)
  | writing table => (table.writeRow disk values).map fun (table, disk) => (writing table, disk)

/-- Finish the file if it is being written. -/
def close (t : TableFile) (disk : Disk) : Disk :=
  match t with
  | reading _ => disk
  | writing table => table.close disk

end TableFile

end Shapefile
