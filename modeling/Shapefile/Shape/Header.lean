import Shapefile.Geometry.Envelope
import Shapefile.Shape.Error
import Shapefile.Storage.Reading

/-!
The header of 100 bytes that starts a shape file and its index. The magic number, five reserved
words and the file length are big-endian; version, shape type and bounding box are little-endian;
the rest is reserved.
-/

namespace Shapefile

structure ShapeHeader where
  /-- Length of the whole file in words of 16 bits. -/
  fileLength : Int32
  version : Int32
  shapeType : ShapeType
  bounds : Envelope
deriving BEq, DecidableEq

namespace ShapeHeader

/-- Size of a header in bytes. -/
def size : Nat := 100

def magicNumber : Int32 := 9994

def currentVersion : Int32 := 1000

/-- The header of a new file. -/
def of (shapeType : ShapeType) (fileLength : Int32) (bounds : Envelope) : ShapeHeader :=
  ⟨fileLength, currentVersion, shapeType, bounds⟩

/-- Words of 16 bits in bytes, as a number of 64 bits without a sign. -/
def bytesOf (words : Int32) : UInt64 := words.toInt64.toUInt64 * 2

/-- Length of the whole file in bytes. -/
def fileBytes (h : ShapeHeader) : Nat := (bytesOf h.fileLength).toNat

/-- Read the header at the cursor. The byte order stays as the last successful step left it. -/
def read : Reading ShapeError ShapeHeader := do
  Reading.setOrder .big
  let magic ← Reading.int32
  if magic ≠ magicNumber then
    .fail (.malformed (.magicNumber magic magicNumber))
  Reading.skip 20
  let fileLength ← Reading.int32
  Reading.setOrder .little
  let version ← Reading.int32
  if version ≠ currentVersion then
    .fail (.malformed (.version version currentVersion))
  let id ← Reading.int32
  match ShapeType.ofId? id with
  | none => .fail (.malformed (.fileType id))
  | some shapeType =>
    let minX ← Reading.float64
    let minY ← Reading.float64
    let maxX ← Reading.float64
    let maxY ← Reading.float64
    Reading.setOrder .big
    Reading.skip 32
    return ⟨fileLength, version, shapeType, ⟨minX, minY, maxX, maxY⟩⟩

/-- The numbers of a box as they are stored. -/
def boundsPuts (e : Envelope) : List (List UInt8) :=
  [e.minX, e.minY, e.maxX, e.maxY].map (ByteOrder.float64 .little)

/-- The words and doubles of a header, one by one. -/
def puts (h : ShapeHeader) : List (List UInt8) :=
  ByteOrder.big.int32 magicNumber :: List.replicate 5 (ByteOrder.big.int32 0) ++
    [ByteOrder.big.int32 h.fileLength, ByteOrder.little.int32 h.version,
      ByteOrder.little.int32 (Int32.ofNat h.shapeType.id)] ++
    boundsPuts h.bounds ++ List.replicate 8 (ByteOrder.big.int32 0)

def bytes (h : ShapeHeader) : List UInt8 := h.puts.flatten

def text (h : ShapeHeader) : String :=
  let number (x : Float) : String := String.ofList (Decimal.shortest x)
  "ShapefileHeader[ size " ++ toString h.fileLength ++ " version " ++ toString h.version ++
    " shapeType " ++ h.shapeType.text ++ " bounds " ++ number h.bounds.minX ++ "," ++
    number h.bounds.minY ++ "," ++ number h.bounds.maxX ++ "," ++ number h.bounds.maxY ++ " ]"

end ShapeHeader

end Shapefile
