import Shapefile.Value

/-!
Rows of a dataset: the attributes of a table with a geometry inserted at some index, from before the
first attribute to behind the last.
-/

namespace Shapefile.Row

/-- The value at an index and the other values in order. -/
def split? (row : List Value) (index : Nat) : Option (Value × List Value) :=
  row[index]?.map fun value => (value, row.eraseIdx index)

/-- The row with a geometry before the attribute at this index. -/
def splice (geometry : Value) (attributes : List Value) (index : Nat) : List Value :=
  attributes.insertIdx index geometry

/-- The attribute that a column of the row shows, and none for the geometry's column. -/
def attributeColumn? (column index : Nat) : Option Nat :=
  if column < index then some column
  else if column = index then none
  else some (column - 1)

end Shapefile.Row
