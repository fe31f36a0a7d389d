import Shapefile.Table.Error
import Shapefile.Value

/-!
The columns of a table. A descriptor gives the name, a type code, the width in bytes, the number of
decimal places and where the field starts in a record; code, width and places decide which values
the field holds.
-/

namespace Shapefile

/-- The values that a field holds. -/
inductive FieldType where
  | boolean
  | varchar
  | date
  | int
  | bigInt
  | double
deriving DecidableEq, Repr

namespace FieldType

def name : FieldType → String
  | boolean => "Boolean"
  | varchar => "Varchar"
  | date => "Date"
  | int => "Int"
  | bigInt => "BigInt"
  | double => "Double"

/-- Every field type. -/
def all : List FieldType := [boolean, varchar, date, int, bigInt, double]

/-- A type code as the character it stands for. -/
def code (b : UInt8) : Char := Char.ofNat b.toNat

/-- The values of a field with this type code, width and number of places. Numeric fields without
places hold integers, of 32 bits if they are narrower than ten digits. -/
def ofDescriptor (typeCode : UInt8) (length decimals : Nat) : Except TableError FieldType :=
  match code typeCode with
  | 'L' | 'l' => .ok boolean
  | 'C' | 'c' => .ok varchar
  | 'D' | 'd' => .ok date
  | 'N' | 'n' =>
    .ok (if decimals = 0 then if length < 10 then int else bigInt else double)
  | 'F' | 'f' | 'O' | 'o' => .ok double
  | _ => .error (.malformed (.unknownFieldType typeCode))

/-- The field type for columns of values like this one. -/
def ofValue? : Value → Option FieldType
  | .boolean _ => some boolean
  | .int _ => some int
  | .bigInt _ => some bigInt
  | .double _ => some double
  | .varchar _ => some varchar
  | .date _ => some date
  | .null | .geometry _ => none

/-- The width asked for, or the greatest one if none or a wider one is asked for. -/
def widthWithin (greatest : Nat) (precision : Option Nat) : Nat :=
  match precision with
  | some p => if 0 < p ∧ p < greatest then p else greatest
  | none => greatest

/-- Type code, width and places of a column for this type. -/
def descriptor (t : FieldType) (precision : Option Nat) : Char × Nat × Nat :=
  match t with
  | boolean => ('L', 1, 0)
  | date => ('D', 8, 0)
  | int => ('N', widthWithin 10 precision, 0)
  | bigInt => ('N', widthWithin 18 precision, 0)
  | double => ('F', 20, 10)
  | varchar => ('C', widthWithin 254 precision, 0)

end FieldType

/-- A column of a table. -/
structure Field where
  name : String
  typeCode : UInt8
  length : Nat
  decimals : Nat
  /-- Where the field starts in a record; byte 0 of a record is its deletion flag. -/
  offset : Nat
  fieldType : FieldType
deriving DecidableEq, Repr

/-- The first byte behind the field. -/
def Field.stop (f : Field) : Nat := f.offset + f.length

end Shapefile
