import Shapefile.Shape.Error
import Shapefile.Storage.Path
import Shapefile.Table.Error

/-!
Errors of datasets: those of the files that make one up, and operations that do not go with its
state or with its columns.
-/

namespace Shapefile

/-- The stages in the life of a dataset. -/
inductive Stage where
  | unopened
  | reading
  | writing
  | closed
deriving DecidableEq, Repr

def Stage.text : Stage → String
  | unopened => "unopened"
  | reading => "open for reading"
  | writing => "open for writing"
  | closed => "closed"

/-- Why an operation is not possible in the state of the dataset. -/
inductive StateFault where
  | cannotOpen (stage : Stage)
  | alreadyClosed
  | notWriting
  | notReading
  | geometryIndex (index fields : Nat)
  | columnOutOfRange (column columns : Nat)
  | offRow (row : Int)
deriving DecidableEq, Repr

def StateFault.message : StateFault → String
  | cannotOpen stage => "Cannot open a driver that is " ++ stage.text
  | alreadyClosed => "Driver is already closed"
  | notWriting => "Cannot insert a row unless the driver is open for writing"
  | notReading => "Cannot read a row unless the driver is open for reading"
  | geometryIndex index fields =>
    "Geometry field index " ++ toString index ++ " is past the last of " ++ toString fields ++
      " fields"
  | columnOutOfRange column columns =>
    "Column " ++ toString column ++ " requested, but the table has " ++ toString columns ++
      " columns"
  | offRow row => "Cursor is at row " ++ toString row ++ ", not on a row"

/-- Errors of datasets. -/
inductive DatasetError where
  | shape (e : ShapeError)
  | table (e : TableError)
  | storage (e : StorageError)
  /-- A file of the dataset does not exist. -/
  | notFound (path : Path)
  /-- The geometry of a row is missing. -/
  | nullGeometry (column : Nat)
  /-- The geometry of a row is something else. -/
  | notGeometry (column : Nat) (found : String)
  | state (fault : StateFault)
  | rowOutOfRange (row count : Nat)
  | fieldCount (found expected : Nat)
  /-- Index and table hold different numbers of records. -/
  | recordCounts (inIndex inTable : Nat)
deriving DecidableEq

def DatasetError.message : DatasetError → String
  | shape e => e.message
  | table e => e.message
  | storage e => e.message
  | notFound path => "File not found: " ++ path.text
  | nullGeometry column =>
    "Shapefiles cannot store a null geometry (column " ++ toString column ++ ")"
  | notGeometry column found =>
    "Column " ++ toString column ++ " must hold a geometry, found " ++ found
  | state fault => "Invalid state: " ++ fault.message
  | rowOutOfRange row count =>
    "Row " ++ toString row ++ " requested, but the table has " ++ toString count ++ " rows"
  | fieldCount found expected =>
    "Wrong number of fields " ++ toString found ++ " expected " ++ toString expected
  | recordCounts inIndex inTable =>
    "'.shx' file has " ++ toString inIndex ++ " records but '.dbf' file has " ++ toString inTable

end Shapefile
