import Shapefile.Calendar.Date
import Shapefile.Geometry.WellKnownText

/-!
The values in the cells of a row.
-/

namespace Shapefile

inductive Value where
  | null
  | boolean (b : Bool)
  | int (n : Int32)
  | bigInt (n : Int64)
  | double (x : Float)
  | varchar (text : String)
  | date (d : Date)
  | geometry (g : Geometry)
deriving BEq, DecidableEq, Inhabited

namespace Value

/-- The type as it is named in messages. -/
def typeName : Value → String
  | null => "NULL"
  | boolean _ => "BOOLEAN"
  | int _ => "INTEGER"
  | bigInt _ => "BIGINT"
  | double _ => "DOUBLE"
  | varchar _ => "VARCHAR"
  | date _ => "DATE"
  | geometry _ => "GEOMETRY"

def isNull : Value → Bool
  | null => true
  | _ => false

def asGeometry? : Value → Option Geometry
  | geometry g => some g
  | _ => none

/-- A number as a double, to the nearest one. -/
def asFloat? : Value → Option Float
  | int n => some (Float.ofInt n.toInt)
  | bigInt n => some (Float.ofInt n.toInt)
  | double x => some x
  | _ => none

/-- The value as text. -/
def text : Value → List Char
  | null => "NULL".toList
  | boolean b => if b then "true".toList else "false".toList
  | int n => Decimal.integer n.toInt
  | bigInt n => Decimal.integer n.toInt
  | double x => Decimal.shortest x
  | varchar s => s.toList
  | date d => d.text
  | geometry g => g.shape.wellKnownText.toList

end Value

end Shapefile
