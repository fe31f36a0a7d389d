import Shapefile.Shape.Record.Format
import Shapefile.Storage.Window

/-!
Geometries at given offsets of an open shape file. Every call sets its own position and byte order,
so what it answers depends on the content of the file alone.
-/

namespace Shapefile

/-- An open shape file. -/
structure ShapeReader where
  header : ShapeHeader
  format : RecordFormat
  window : Window

namespace ShapeReader

/-- Size of the record number and the content length in front of a record. -/
def recordHeaderSize : Nat := 8

/-- Header and record format of a file. -/
def readHeader : Reading ShapeError (ShapeHeader × RecordFormat) := do
  let header ← ShapeHeader.read
  let format ← Reading.ofExcept header.shapeType.format
  return (header, format)

/-- The geometry of the record at an offset, none for a null record. A record has the type of its
file or is null. -/
def readRecord (fileType : ShapeType) (format : RecordFormat) (offset : Nat) :
    Reading ShapeError (Option Geometry) := do
  Reading.seek offset
  Reading.skip recordHeaderSize
  Reading.setOrder .little
  let id ← Reading.int32
  match ShapeType.ofId? id with
  | none => .fail (.malformed (.recordType offset id))
  | some recordType =>
    if recordType ≠ .null ∧ recordType ≠ fileType then
      .fail (.malformed (.typeChanged fileType recordType))
    else
      format.read recordType

/-- Open a shape file through a window of this capacity. -/
def onChannel (channel : Bytes) (capacity : Nat) : Except ShapeError ShapeReader :=
  let window := Window.onChannel channel capacity
  match window.run channel readHeader with
  | (.ok (header, format), window) => .ok { header, format, window }
  | (.error e, _) => .error e

def geometryAt (r : ShapeReader) (channel : Bytes) (offset : Nat) :
    Except ShapeError (Option Geometry) × ShapeReader :=
  let (result, window) := r.window.run channel (readRecord r.header.shapeType r.format offset)
  (result, { r with window })

end ShapeReader

end Shapefile
