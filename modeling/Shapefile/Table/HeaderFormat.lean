import Shapefile.Storage.Reading
import Shapefile.Table.Header

/-!
Table headers in files: 32 bytes of counts and lengths, a descriptor of 32 bytes for each field, and
a terminator. Numbers are little-endian. Reading computes the offsets of the fields from their
widths and passes over descriptors without a width.
-/

namespace Shapefile.TableHeader

/-- First byte of a table file. -/
def fileType : UInt8 := 0x03

/-- Last byte of a header. -/
def terminator : UInt8 := 0x0D

/-- Size of a name in a descriptor, with the zero that ends it. -/
def storedNameSize : Nat := 11

/-! ### Writing -/

/-- The last two digits of a year, as a byte. -/
def yearByte (year : Int) : UInt8 := UInt8.ofNat (Int.tmod year 100 % 256).toNat

/-- A number as a signed word; what does not fit is dropped. -/
def word (n : Nat) : List UInt8 := ByteOrder.little.int32 (Int32.ofNat n)

/-- A number as a short word; what does not fit is dropped. -/
def shortWord (n : Nat) : List UInt8 := ByteOrder.little.int16 (Int16.ofNat n)

/-- A name in the code page of the table, cut or filled with zeros, and ended by a zero. -/
def storedName [Host] (codePage : Text.CodePage) (name : String) : List UInt8 :=
  let bytes := (codePage.encode name.toList).take (storedNameSize - 1)
  bytes ++ List.replicate (storedNameSize - bytes.length) 0

/-- The parts of a descriptor, one by one. -/
def fieldPuts [Host] (codePage : Text.CodePage) (f : Field) : List (List UInt8) :=
  [storedName codePage f.name, [f.typeCode], word f.offset, [UInt8.ofNat f.length],
    [UInt8.ofNat f.decimals], List.replicate 14 0]

/-- The parts of a header, one by one. A header without a day is written with today's. -/
def puts [Host] (h : TableHeader) : List (List UInt8) :=
  let date := h.lastUpdate.getD Host.today
  [[fileType], [yearByte date.year], [UInt8.ofNat date.month], [UInt8.ofNat date.day],
    word h.recordCount, shortWord h.headerLength, shortWord h.recordLength,
    List.replicate 17 0, [h.codePage.languageDriver], List.replicate 2 0] ++
    h.fields.flatMap (fieldPuts h.codePage) ++ [[terminator]]

def bytes [Host] (h : TableHeader) : List UInt8 := h.puts.flatten

/-! ### Reading -/

/-- The year of two digits in a file. -/
def fullYear (b : UInt8) : Int := if 90 < b then 1900 + b.toNat else 2000 + b.toNat

/-- The name in a descriptor: what comes before the first zero, without blanks around it. -/
def readName (bytes : List UInt8) : String :=
  String.ofList (Text.trim (Text.Utf8.decode (bytes.takeWhile (· != 0))))

/-- A descriptor, none if it has no width; `offset` is where its field starts. -/
def readField (offset : Nat) : Reading TableError (Option Field) := do
  let name ← Reading.bytes storedNameSize
  let typeCode ← Reading.uint8
  Reading.skip 4
  let length ← Reading.uint8
  let decimals ← Reading.uint8
  Reading.skip 14
  if length = 0 then
    return none
  let length := length.toNat
  let decimals := decimals.toNat
  let fieldType ← Reading.ofExcept (FieldType.ofDescriptor typeCode length decimals)
  return some { name := readName name.toList, typeCode, length, decimals, offset, fieldType }

/-- The fields of `count` more descriptors behind these, the next field starting at `offset`. -/
def readFields (fields : List Field) (offset : Nat) : Nat → Reading TableError (List Field)
  | 0 => return fields
  | count + 1 => do
    match ← readField offset with
    | none => readFields fields offset count
    | some field => readFields (fields ++ [field]) field.stop count

/-- Read a header at the cursor, in little-endian order. -/
def readAtCursor (forced : Option Text.CodePage) : Reading TableError TableHeader := do
  let _ ← Reading.uint8
  let year ← Reading.uint8
  let month ← Reading.uint8
  let day ← Reading.uint8
  let recordCount ← Reading.int32
  if recordCount < 0 then
    .fail (.malformed (.negativeRecordCount recordCount))
  let headerLength ← Reading.int16
  let recordLength ← Reading.int16
  let headerLength := headerLength.toUInt16.toNat
  if headerLength < leastLength then
    .fail (.malformed (.headerLength headerLength leastLength))
  Reading.skip 17
  let languageDriver ← Reading.uint8
  Reading.skip 2
  let codePage := (forced.or (Text.CodePage.ofLanguageDriver? languageDriver)).getD .standard
  let fields ← readFields [] 1 ((headerLength - leastLength) / descriptorSize)
  return {
    lastUpdate := Date.of? (fullYear year) month.toNat day.toNat
    recordCount := recordCount.toInt.toNat
    headerLength
    recordLength := recordLength.toUInt16.toNat
    fields
    codePage }

/-- Read the header of a file. A code page given here wins over the one the header names. -/
def read (forced : Option Text.CodePage) : Reading TableError TableHeader := do
  Reading.setOrder .little
  Reading.seek 0
  readAtCursor forced

/-! ### Description -/

/-- A header in one line. -/
def text (h : TableHeader) : String :=
  let field (f : Field) : String :=
    " " ++ f.name ++ " " ++ byteText f.typeCode ++ "(" ++ toString f.length ++ "," ++
      toString f.decimals ++ ")"
  "DbfHeader[ records " ++ toString h.recordCount ++ " fields" ++
    String.join (h.fields.map field) ++ " encoding " ++ h.codePage.name ++ " ]"

end Shapefile.TableHeader
