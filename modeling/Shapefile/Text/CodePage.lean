import Shapefile.Binary.ByteOrder
import Shapefile.Host
import Shapefile.Text.SingleByte
import Shapefile.Text.Utf8

/-!
Code pages: what maps text to bytes and back. Encoding puts a question mark for a character without
a byte form, and decoding a replacement character for bytes without a character, so both accept
everything. Multi-byte code pages beyond Unicode's are those of the host.
-/

namespace Shapefile.Text

/-- A mapping between text and bytes. -/
inductive CodePage where
  | utf8
  | utf16 (order : ByteOrder)
  | single (page : SingleByte)
  | multi (set : MultiByte)
  /-- For labels of retired encodings: text is written as UTF-8 and no byte can be read. -/
  | replacement
deriving DecidableEq, Repr

namespace CodePage

/-- The one or two units of a character in UTF-16. -/
def encodeUtf16 (order : ByteOrder) (c : Char) : List UInt8 :=
  if c.toNat < 0x10000 then order.encode 2 c.toNat
  else
    let offset := c.toNat - 0x10000
    order.encode 2 (0xD800 + offset / 0x400) ++ order.encode 2 (0xDC00 + offset % 0x400)

/-- The bytes of a text. -/
def encode [Host] (page : CodePage) (text : List Char) : List UInt8 :=
  match page with
  | utf8 | replacement => Utf8.encode text
  | utf16 order => text.flatMap (encodeUtf16 order)
  | single page => text.map fun c => (page.encodeChar? c).getD 0x3F
  | multi set => Host.encode set text

/-- Units of two bytes; two halves of a pair make one character. A half without its partner and a
last odd byte have none. -/
def decodeUtf16 (order : ByteOrder) : List UInt8 → List Char
  | [] => []
  | [_] => [Utf8.replacement]
  | a :: b :: rest =>
    let unit := order.decode [a, b]
    if 0xD800 ≤ unit ∧ unit < 0xDC00 then
      match rest with
      | c :: d :: rest =>
        let low := order.decode [c, d]
        if 0xDC00 ≤ low ∧ low < 0xE000 then
          Char.ofNat (0x10000 + (unit - 0xD800) * 0x400 + (low - 0xDC00)) ::
            decodeUtf16 order rest
        else Utf8.replacement :: decodeUtf16 order (c :: d :: rest)
      | _ => [Utf8.replacement]
    else if 0xDC00 ≤ unit ∧ unit < 0xE000 then Utf8.replacement :: decodeUtf16 order rest
    else Char.ofNat unit :: decodeUtf16 order rest

/-- The text of these bytes. -/
def decode [Host] (page : CodePage) (bytes : List UInt8) : List Char :=
  match page with
  | utf8 => Utf8.decode bytes
  | utf16 order => decodeUtf16 order bytes
  | single page => bytes.map fun b => (page.decodeByte? b).getD Utf8.replacement
  | multi set => Host.decode set bytes
  | replacement => bytes.map fun _ => Utf8.replacement

/-- The name of a single-byte page, and its name in the registry of labels, if it has one. -/
def singleNames : SingleByte → String × Option String
  | .ibm866 => ("ibm866", some "ibm866")
  | .isoPart2 => ("iso-8859-2", some "iso-8859-2")
  | .isoPart3 => ("iso-8859-3", some "iso-8859-3")
  | .isoPart4 => ("iso-8859-4", some "iso-8859-4")
  | .isoPart5 => ("iso-8859-5", some "iso-8859-5")
  | .isoPart6 => ("iso-8859-6", some "iso-8859-6")
  | .isoPart7 => ("iso-8859-7", some "iso-8859-7")
  | .isoPart8 => ("iso-8859-8", some "iso-8859-8")
  | .isoPart8Logical => ("iso-8859-8-i", some "iso-8859-8-i")
  | .isoPart10 => ("iso-8859-10", some "iso-8859-10")
  | .isoPart13 => ("iso-8859-13", some "iso-8859-13")
  | .isoPart14 => ("iso-8859-14", some "iso-8859-14")
  | .isoPart15 => ("iso-8859-15", some "iso-8859-15")
  | .isoPart16 => ("iso-8859-16", some "iso-8859-16")
  | .koi8r => ("koi8-r", some "koi8-r")
  | .koi8u => ("koi8-u", some "koi8-u")
  | .macRoman => ("mac-roman", some "macintosh")
  | .windows874 => ("windows-874", some "windows-874")
  | .windows1250 => ("windows-1250", some "windows-1250")
  | .windows1251 => ("windows-1251", some "windows-1251")
  | .windows1252 => ("windows-1252", some "windows-1252")
  | .windows1253 => ("windows-1253", some "windows-1253")
  | .windows1254 => ("windows-1254", some "windows-1254")
  | .windows1255 => ("windows-1255", some "windows-1255")
  | .windows1256 => ("windows-1256", some "windows-1256")
  | .windows1257 => ("windows-1257", some "windows-1257")
  | .windows1258 => ("windows-1258", some "windows-1258")
  | .macCyrillic => ("mac-cyrillic", some "x-mac-cyrillic")
  | .userDefined => ("pua-mapped-binary", some "x-user-defined")
  | .latin1 => ("iso-8859-1", none)
  | .ascii => ("ascii", none)

/-- The name of a page and its name in the registry. -/
def names : CodePage → String × Option String
  | utf8 => ("utf-8", some "utf-8")
  | utf16 .big => ("utf-16be", some "utf-16be")
  | utf16 .little => ("utf-16le", some "utf-16le")
  | single page => singleNames page
  | multi .gbk => ("gbk", some "gbk")
  | multi .gb18030 => ("gb18030", some "gb18030")
  | multi .big5 => ("big5-2003", some "big5")
  | multi .eucJp => ("euc-jp", some "euc-jp")
  | multi .iso2022Jp => ("iso-2022-jp", some "iso-2022-jp")
  | multi .shiftJis => ("windows-31j", some "shift_jis")
  | multi .eucKr => ("windows-949", some "euc-kr")
  | replacement => ("encoder-only-utf-8", some "replacement")

def name (page : CodePage) : String := page.names.1

def registryName? (page : CodePage) : Option String := page.names.2

/-- What a file that names no code page is written in. -/
def standard : CodePage := single .windows1252

instance : Inhabited CodePage := ⟨standard⟩

def isStandard (page : CodePage) : Bool := page == standard

/-- The language driver bytes of table headers. -/
def languageDrivers : List (UInt8 × CodePage) := [
  (0x57, single .windows1252),
  (0x03, single .windows1252),
  (0x65, single .ibm866),
  (0x4D, multi .gbk),
  (0x7A, multi .gbk),
  (0x4F, multi .eucKr),
  (0x79, multi .eucKr),
  (0x78, multi .big5),
  (0x13, multi .shiftJis),
  (0x7B, multi .shiftJis),
  (0xC8, single .windows1250),
  (0xC9, single .windows1251),
  (0xCA, single .windows1254),
  (0xCB, single .windows1253),
  (0xCC, single .windows1257)]

def ofLanguageDriver? (id : UInt8) : Option CodePage :=
  (languageDrivers.find? fun entry => entry.1 = id).map Prod.snd

/-- The language driver byte of a page, 0 if it has none. -/
def languageDriver (page : CodePage) : UInt8 :=
  ((languageDrivers.find? fun entry => entry.2 = page).map Prod.fst).getD 0

end CodePage

end Shapefile.Text
