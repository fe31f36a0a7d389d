import Shapefile.Shape.Header
import Shapefile.Storage.Window

/-!
The index of a shape file: for each record its offset and its content length, both in words of 16
bits. The entry looked up last is kept. A lookup fills the kept entry word by word, and only a
complete one changes which index the entry answers for.
-/

namespace Shapefile

/-- The entry looked up last. -/
structure IndexEntry where
  /-- The record that the entry answers for. -/
  index : Option Nat := none
  offset : Int32 := 0
  contentLength : Int32 := 0
deriving DecidableEq, Repr, Inhabited

/-- An open index. -/
structure ShapeIndex where
  header : ShapeHeader
  window : Window
  entry : IndexEntry := {}

namespace ShapeIndex

/-- Size of an entry in bytes. -/
def entrySize : Nat := 8

/-- Header of an index, after which words are big-endian. -/
def readHeader : Reading ShapeError ShapeHeader := do
  let header ← ShapeHeader.read
  Reading.setOrder .big
  return header

/-- Number of entries by the length that the header declares. -/
def recordCount (index : ShapeIndex) : Nat :=
  (index.header.fileBytes - ShapeHeader.size) / entrySize

/-- Open an index through a window of this capacity. -/
def onChannel (channel : Bytes) (capacity : Nat) : Except ShapeError ShapeIndex :=
  let window := Window.onChannel channel capacity
  match window.run channel readHeader with
  | (.ok header, window) => .ok { header, window }
  | (.error e, _) => .error e

/-- Make the kept entry answer for a record. -/
def lookUp (index : ShapeIndex) (channel : Bytes) (record : Nat) :
    Except ShapeError Unit × ShapeIndex :=
  if index.entry.index = some record then (.ok (), index)
  else if index.recordCount ≤ record then
    (.error (.malformed (.indexOutOfRange record index.recordCount)), index)
  else
    let position := ShapeHeader.size + record * entrySize
    match index.window.run channel (Reading.int32At position : Reading ShapeError Int32) with
    | (.error e, window) => (.error e, { index with window })
    | (.ok offset, window) =>
      let index := { index with window, entry.offset := offset }
      match window.run channel (Reading.int32At (position + 4) : Reading ShapeError Int32) with
      | (.error e, window) => (.error e, { index with window })
      | (.ok contentLength, window) =>
        (.ok (), { index with window, entry := ⟨some record, offset, contentLength⟩ })

/-- Offset of a record in words. -/
def offset (index : ShapeIndex) (channel : Bytes) (record : Nat) :
    Except ShapeError Int32 × ShapeIndex :=
  let (result, index) := index.lookUp channel record
  (result.map fun _ => index.entry.offset, index)

/-- Content length of a record in words. -/
def contentLength (index : ShapeIndex) (channel : Bytes) (record : Nat) :
    Except ShapeError Int32 × ShapeIndex :=
  let (result, index) := index.lookUp channel record
  (result.map fun _ => index.entry.contentLength, index)

/-- Offset of a record in bytes. -/
def byteOffset (index : ShapeIndex) (channel : Bytes) (record : Nat) :
    Except ShapeError Nat × ShapeIndex :=
  let (result, index) := index.offset channel record
  let bytes := result.bind fun words =>
    if words < 0 then .error (.malformed (.negativeOffset record words))
    else .ok (words.toInt.toNat * 2)
  (bytes, index)

end ShapeIndex

end Shapefile
