import Shapefile.Calendar.Date
import Shapefile.Storage.Error

/-!
What can be wrong with attribute tables, with the columns that are added to them and with the rows
that are read or written.
-/

namespace Shapefile

/-- The bytes of a table make no sense, or its text cannot be decoded as asked. -/
inductive TableFault where
  | unknownFieldType (code : UInt8)
  | negativeRecordCount (count : Int32)
  | headerLength (found least : Nat)
  | fieldPastRecord (name : String) (stop size : Nat)
  | unknownCodePage (label : String)
deriving DecidableEq, Repr

/-- A byte shown as the character with that code point. -/
def byteText (b : UInt8) : String := String.singleton (Char.ofNat b.toNat)

def TableFault.message : TableFault → String
  | unknownFieldType code => "unknown DBF field type '" ++ byteText code ++ "'"
  | negativeRecordCount count => "File declares " ++ toString count ++ " records"
  | headerLength found least =>
    "Header length is " ++ toString found ++ ", but it must be at least " ++ toString least
  | fieldPastRecord name stop size =>
    "Field " ++ name ++ " ends at byte " ++ toString stop ++ ", past the " ++ toString size ++
      "-byte record"
  | unknownCodePage label => "Unknown encoding '" ++ label ++ "'"

/-- A column that cannot be added, or that is not there to be removed. -/
inductive FieldFault where
  | zeroLength (name : String)
  | undefinedType (code : Char) (name : String)
  | tooLong (name : String) (length : Nat)
  | notFound (name : String)
deriving DecidableEq, Repr

def FieldFault.message : FieldFault → String
  | zeroLength name => "Field " ++ name ++ " has length 0"
  | undefinedType code name =>
    "Undefined field type " ++ String.singleton code ++ " for column " ++ name
  | tooLong name length =>
    "Field " ++ name ++ " has length " ++ toString length ++ "; the limit is 255"
  | notFound name => "Could not find a field named '" ++ name ++ "' for removal"

/-- A row or a cell that cannot be read or written. -/
inductive RowFault where
  | rowOutOfRange (row count : Nat)
  | columnOutOfRange (column count : Nat)
  | unknownLogical (byte : UInt8) (name : String)
  | fieldCount (found expected : Nat)
  | recordSize (found expected : Nat)
  | typeMismatch (name : String) (code : UInt8) (valueType : String)
  | dateOutOfRange (name : String) (date : Date)
deriving DecidableEq

def RowFault.message : RowFault → String
  | rowOutOfRange row count =>
    "Row " ++ toString row ++ " requested, but the file has " ++ toString count ++ " records"
  | columnOutOfRange column count =>
    "Column " ++ toString column ++ " requested, but the file has " ++ toString count ++ " fields"
  | unknownLogical byte name =>
    "Unknown logical value '" ++ byteText byte ++ "' in field " ++ name
  | fieldCount found expected =>
    "Wrong number of fields " ++ toString found ++ " expected " ++ toString expected
  | recordSize found expected =>
    "Record is " ++ toString found ++ " bytes, expected " ++ toString expected
  | typeMismatch name code valueType =>
    "Field " ++ name ++ " of type " ++ byteText code ++ " cannot hold a " ++ valueType ++ " value"
  | dateOutOfRange name date =>
    "Field " ++ name ++ " cannot hold date " ++ String.ofList date.text ++
      ": years run from 0 to 9999"

/-- A table that is open the other way. -/
inductive TableMode where
  | reading
  | writing
deriving DecidableEq, Repr

/-- Errors of attribute tables. -/
inductive TableError where
  | storage (e : StorageError)
  | malformed (fault : TableFault)
  | field (fault : FieldFault)
  | row (fault : RowFault)
  /-- The operation needs a table that is open in this mode. -/
  | needs (mode : TableMode)
deriving DecidableEq

namespace TableError

def message : TableError → String
  | storage e => e.message
  | malformed fault => "Parse error: " ++ fault.message
  | field fault => "Field error: " ++ fault.message
  | row fault => "Row error: " ++ fault.message
  | needs .reading => "Invalid state: The driver is not in read mode"
  | needs .writing => "Invalid state: The driver is not in write mode"

instance : OfStorage TableError where
  ofStorage := storage

end TableError

end Shapefile
