import Shapefile.Storage.Staging
import Shapefile.Table.HeaderFormat
import Shapefile.Table.Record

/-!
A table file while it is written: the header, then records, then a byte that marks the end.
-/

namespace Shapefile

/-- A table under construction. -/
structure TableWriter where
  header : TableHeader
  staging : Staging
  /-- Records so far. -/
  written : Nat := 0
deriving DecidableEq

namespace TableWriter

/-- Last byte of a table file. -/
def endOfFile : UInt8 := 0x1A

/-- A new file with this header. -/
def create [Host] (header : TableHeader) (capacity : Nat) : TableWriter :=
  let start : Staging := { capacity }
  { header, staging := start.putAll header.puts }

/-- Add a record. Nothing changes if it is not of the declared size. -/
def writeRecord (w : TableWriter) (record : List UInt8) : Except TableError TableWriter := do
  w.header.checkRecord record
  return { w with staging := w.staging.put record, written := w.written + 1 }

/-- Add a row. Nothing changes if it is refused. -/
def writeRow [Host] (w : TableWriter) (values : List Value) : Except TableError TableWriter := do
  let record ← w.header.encodeRow values
  w.writeRecord record

/-- Mark the end and flush. -/
def close (w : TableWriter) : TableWriter :=
  { w with staging := (w.staging.put [endOfFile]).flush }

end TableWriter

end Shapefile
