/-!
The sets of characters whose bytes are left to a library.
-/

namespace Shapefile.Text

/-- Code pages in which a character may take several bytes, Unicode's own ones apart. -/
inductive MultiByte where
  | gbk
  | gb18030
  | big5
  | eucJp
  | iso2022Jp
  | shiftJis
  | eucKr
deriving DecidableEq, Repr

end Shapefile.Text
