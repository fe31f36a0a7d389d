import Shapefile.Storage.Reading
import Shapefile.Table.Cell
import Shapefile.Table.Header

/-!
Records: a deletion flag followed by the fields. Rows are read from and written to whole records;
one field can also be read on its own.
-/

namespace Shapefile.TableHeader

/-- The deletion flag of a record in use. -/
def inUse : UInt8 := 0x20

/-- Where a record starts in the file. -/
def recordPosition (h : TableHeader) (row : Nat) : Nat := h.headerLength + row * h.recordLength

/-- Refuse a row behind the last one. -/
def checkRow (h : TableHeader) (row : Nat) : Except TableError Unit :=
  if h.recordCount ≤ row then .error (.row (.rowOutOfRange row h.recordCount)) else .ok ()

/-- The value of a field in the bytes of a record. -/
def cellOf [Host] (h : TableHeader) (record : Bytes) (field : Field) : Except TableError Value :=
  if record.size < field.stop then
    .error (.malformed (.fieldPastRecord field.name field.stop record.size))
  else
    field.parse h.codePage (record.extract field.offset field.stop).toList

/-- The values of a record. -/
def rowOf [Host] (h : TableHeader) (record : Bytes) : Except TableError (List Value) :=
  h.fields.mapM (h.cellOf record)

/-- Read a row. -/
def readRow [Host] (h : TableHeader) (row : Nat) : Reading TableError (List Value) := do
  Reading.ofExcept (h.checkRow row)
  let record ← Reading.bytesAt (h.recordPosition row) h.recordLength
  Reading.ofExcept (h.rowOf record)

/-- Read one field of a row. -/
def readCell [Host] (h : TableHeader) (row column : Nat) : Reading TableError Value := do
  Reading.ofExcept (h.checkRow row)
  match h.fields[column]? with
  | none => .fail (.row (.columnOutOfRange column h.fieldCount))
  | some field => do
    let bytes ← Reading.bytesAt (h.recordPosition row + field.offset) field.length
    Reading.ofExcept (field.parse h.codePage bytes.toList)

/-- Refuse a record that is not of the declared size. -/
def checkRecord (h : TableHeader) (record : List UInt8) : Except TableError Unit :=
  if record.length ≠ h.recordLength then
    .error (.row (.recordSize record.length h.recordLength))
  else .ok ()

/-- The record of a row. -/
def encodeRow [Host] (h : TableHeader) (values : List Value) : Except TableError (List UInt8) := do
  if values.length ≠ h.fieldCount then
    .error (.row (.fieldCount values.length h.fieldCount))
  let cells ← (h.fields.zip values).mapM fun (field, value) => field.encode h.codePage value
  let record := inUse :: cells.flatten
  h.checkRecord record
  return record

end Shapefile.TableHeader
