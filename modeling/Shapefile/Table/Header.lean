import Shapefile.Table.Field
import Shapefile.Text.CodePage

/-!
Table headers and the columns in them. Fields lie one behind the other in a record, after a byte for
the deletion flag; adding and removing columns keeps the offsets and both lengths in step.
-/

namespace Shapefile

structure TableHeader where
  /-- The day of the last change; none if the file gave no day. -/
  lastUpdate : Option Date
  recordCount : Nat
  /-- Size of the header in bytes. -/
  headerLength : Nat
  /-- Size of a record in bytes. -/
  recordLength : Nat
  fields : List Field
  codePage : Text.CodePage
deriving DecidableEq

namespace TableHeader

/-- Size of a header without columns. -/
def leastLength : Nat := 33

/-- Size of a field descriptor. -/
def descriptorSize : Nat := 32

/-- Greatest size of a column name in bytes of UTF-8. -/
def nameSize : Nat := 10

/-- Greatest width of a column. -/
def greatestWidth : Nat := 255

/-- A header without columns. -/
def new (lastUpdate : Date) : TableHeader where
  lastUpdate := some lastUpdate
  recordCount := 0
  headerLength := leastLength
  recordLength := 1
  fields := []
  codePage := .standard

def fieldCount (h : TableHeader) : Nat := h.fields.length

/-- Bytes of the fields of a record. -/
def fieldBytes (h : TableHeader) : Nat := h.fields.foldr (fun f total => f.length + total) 0

/-- The characters at the start of a name that take at most `room` bytes of UTF-8. -/
def takeBytes (room : Nat) : List Char → List Char
  | [] => []
  | c :: cs => if c.utf8Size ≤ room then c :: takeBytes (room - c.utf8Size) cs else []

/-- The name that a column gets: as much of the wanted name as fits, and a stand-in for nothing. -/
def columnName (name : String) : String :=
  let kept := String.ofList (takeBytes nameSize name.toList)
  if kept.isEmpty then "NoName" else kept

/-- Type code, width and places that a column is stored with. Dates and logical values have a fixed
width, text has no places, and numeric places leave room for a digit. -/
def storedLayout? (typeCode : Char) (length decimals : Nat) : Option (Char × Nat × Nat) :=
  match typeCode with
  | 'C' | 'c' => some ('C', length, 0)
  | 'S' | 's' => some ('C', 8, 0)
  | 'D' | 'd' => some ('D', 8, 0)
  | 'F' | 'f' => some ('F', length, decimals)
  | 'N' | 'n' => some ('N', length, min decimals (length - 1))
  | 'L' | 'l' => some ('L', 1, 0)
  | _ => none

/-- The header with these fields laid out one behind the other. -/
def withFields (h : TableHeader) (fields : List Field) : TableHeader :=
  let placed := fields.foldl
    (fun (placed, offset) field => (placed ++ [{ field with offset }], offset + field.length))
    ([], 1)
  { h with
    fields := placed.1
    recordLength := placed.2
    headerLength := leastLength + descriptorSize * placed.1.length }

/-- Add a column behind the others. -/
def addColumn (h : TableHeader) (name : String) (typeCode : Char) (length decimals : Nat) :
    Except TableError TableHeader := do
  if length = 0 then
    .error (.field (.zeroLength name))
  match storedLayout? typeCode length decimals with
  | none => .error (.field (.undefinedType typeCode name))
  | some (code, length, decimals) =>
    if greatestWidth < length then
      .error (.field (.tooLong (columnName name) length))
    let typeCode := UInt8.ofNat code.toNat
    let fieldType ← FieldType.ofDescriptor typeCode length decimals
    let field : Field :=
      { name := columnName name, typeCode, length, decimals, offset := h.recordLength, fieldType }
    return { h with
      fields := h.fields ++ [field]
      recordLength := h.recordLength + length
      headerLength := leastLength + descriptorSize * (h.fields.length + 1) }

/-- Add a column for values of this type. -/
def addColumnOfType (h : TableHeader) (name : String) (type : FieldType)
    (precision : Option Nat) : Except TableError TableHeader :=
  let (code, length, decimals) := type.descriptor precision
  h.addColumn name code length decimals

/-- Names compare without blanks around them and without the case of ASCII letters. -/
def sameName (a b : String) : Bool :=
  let key (name : String) : List Char := (Text.trim name.toList).map Char.toLower
  key a == key b

/-- The first column of this name. -/
def fieldIndex? (h : TableHeader) (name : String) : Option Nat :=
  h.fields.findIdx? fun field => sameName field.name name

/-- Remove the first column of this name, and say which one it was. -/
def removeColumn (h : TableHeader) (name : String) : Except TableError (Nat × TableHeader) :=
  match h.fieldIndex? name with
  | none => .error (.field (.notFound name))
  | some index => .ok (index, h.withFields (h.fields.eraseIdx index))

end TableHeader

end Shapefile
