import Shapefile.Shape.Record.Format
import Shapefile.Storage.Disk
import Shapefile.Storage.Staging

/-!
A shape file and its index while they are written. Both start with a provisional header; every
record adds to both; closing gives the final headers with the lengths of the files and the box
around everything written. Record numbers, offsets and lengths are kept as the signed words that the
files hold, and wrap around.
-/

namespace Shapefile

/-- Two files under construction. -/
structure ShapeWriter where
  format : RecordFormat
  shapes : Staging
  index : Staging
  recordCount : Int32 := 0
  /-- Where the next record starts, in words of 16 bits. -/
  offset : Int32 := Int32.ofNat (ShapeHeader.size / 2)
  /-- The box around all coordinates so far. -/
  bounds : Option Envelope := none
deriving DecidableEq

/-- What closing leaves to do: both headers are to be written again over the start of their file. -/
structure ClosedShapes where
  shapes : Staging
  index : Staging
  shapesHeader : ShapeHeader
  indexHeader : ShapeHeader
deriving DecidableEq

namespace ClosedShapes

/-- The shape file: all that was sent, with the final header over its start. -/
def shapesFile (c : ClosedShapes) : Bytes :=
  Bytes.overlay c.shapes.sent.flatten 0 c.shapesHeader.bytes.toArray

/-- The index: all that was sent, with the final header over its start. -/
def indexFile (c : ClosedShapes) : Bytes :=
  Bytes.overlay c.index.sent.flatten 0 c.indexHeader.bytes.toArray

end ClosedShapes

namespace ShapeWriter

/-- Size of the record number and the content length in front of a record, in words. -/
def recordHeaderWords : Nat := 4

/-- Size of an index entry in bytes. -/
def entrySize : Nat := 8

/-- Content length of a null record, in words: its shape type alone. -/
def nullWords : Nat := 2

/-- The content length that is stored for so many bytes, in words. The bytes are made a signed word
before they are halved. -/
def contentWords (bytes : Nat) : Int32 := Int32.ofNat bytes / 2

def shapeType (w : ShapeWriter) : ShapeType := .record w.format

/-- Two new files of this shape type. -/
def create (shapeType : ShapeType) (capacity : Nat) : Except ShapeError ShapeWriter := do
  let format ← shapeType.format
  let header := ShapeHeader.of shapeType (Int32.ofNat (ShapeHeader.size / 2)) .zero
  let start : Staging := { capacity }
  return { format, shapes := start.putAll header.puts, index := start.putAll header.puts }

/-- Whether the geometry can be written. -/
def check (w : ShapeWriter) (g : Geometry) : Except ShapeError Unit := do
  let _ ← w.format.length g

/-- Add the numbers that precede a payload, and the index entry. -/
def writeRecordHeader (w : ShapeWriter) (words : Int32) (recordType : ShapeType) : ShapeWriter :=
  { w with
    recordCount := w.recordCount + 1
    offset := w.offset + (words + Int32.ofNat recordHeaderWords)
    shapes := w.shapes.putAll
      [ByteOrder.big.int32 (w.recordCount + 1), ByteOrder.big.int32 words,
        ByteOrder.little.int32 (Int32.ofNat recordType.id)]
    index := w.index.putAll [ByteOrder.big.int32 w.offset, ByteOrder.big.int32 words] }

/-- A box widened by the box of a geometry, if it has one. -/
def widened (bounds : Option Envelope) (g : Geometry) : Option Envelope :=
  match bounds, g.envelope? with
  | some bounds, some box => some (bounds.union box)
  | none, box => box
  | bounds, none => bounds

/-- Add a record. What was added before an error stays. -/
def write (w : ShapeWriter) (g : Geometry) : Except ShapeError Unit × ShapeWriter :=
  match w.format.length g with
  | .error e => (.error e, w)
  | .ok length =>
    let bounds := widened w.bounds g
    let w := { w with bounds }.writeRecordHeader (contentWords length) w.shapeType
    match w.format.puts g with
    | .error e => (.error e, w)
    | .ok puts => (.ok (), { w with shapes := w.shapes.putAll puts })

/-- Add a record without a geometry. -/
def writeNull (w : ShapeWriter) : ShapeWriter :=
  w.writeRecordHeader (Int32.ofNat nullWords) .null

/-- Flush both files and make up their final headers. -/
def close (w : ShapeWriter) : ClosedShapes :=
  let header (words : Int32) : ShapeHeader :=
    ShapeHeader.of w.shapeType words (w.bounds.getD .zero)
  let indexBytes := Int32.ofNat ShapeHeader.size + w.recordCount * Int32.ofNat entrySize
  { shapes := w.shapes.flush
    index := w.index.flush
    shapesHeader := header (Int32.ofNat (w.shapes.written / 2))
    indexHeader := header (indexBytes / 2) }

end ShapeWriter

end Shapefile
