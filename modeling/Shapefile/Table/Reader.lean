import Shapefile.Storage.Window
import Shapefile.Table.HeaderFormat
import Shapefile.Table.Record

/-!
Rows and single fields of an open table file.
-/

namespace Shapefile

/-- An open table file. -/
structure TableReader where
  header : TableHeader
  window : Window

namespace TableReader

/-- Open a table through a window of this capacity. A code page given here wins over the one that
the file names. -/
def onChannel (channel : Bytes) (capacity : Nat) (forced : Option Text.CodePage) :
    Except TableError TableReader :=
  let window := Window.onChannel channel capacity
  match window.run channel (TableHeader.read forced) with
  | (.ok header, window) => .ok { header, window }
  | (.error e, _) => .error e

def row [Host] (r : TableReader) (channel : Bytes) (row : Nat) :
    Except TableError (List Value) × TableReader :=
  let (result, window) := r.window.run channel (r.header.readRow row)
  (result, { r with window })

def cell [Host] (r : TableReader) (channel : Bytes) (row column : Nat) :
    Except TableError Value × TableReader :=
  let (result, window) := r.window.run channel (r.header.readCell row column)
  (result, { r with window })

end TableReader

end Shapefile
