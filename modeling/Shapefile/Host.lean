import Shapefile.Calendar.Date
import Shapefile.Text.MultiByte

/-!
What comes from outside: the day of the clock, and the bytes of multi-byte characters. Nothing is
assumed of either here; what a result needs to know about a character set is named where it is used.
-/

namespace Shapefile

class Host where
  /-- The day of the clock. -/
  today : Date
  /-- The bytes of a text, with a question mark for a character that the set does not have. -/
  encode (set : Text.MultiByte) (text : List Char) : List UInt8
  /-- The text of these bytes, with a replacement character for what is no character of the set. -/
  decode (set : Text.MultiByte) (bytes : List UInt8) : List Char

end Shapefile
