import Shapefile.Text.Blank
import Shapefile.Text.CodePage

/-!
The labels by which code pages are known: the registry of encoding labels, and the numbers and
vendor spellings found in code page files.
-/

namespace Shapefile.Text.CodePage

/-- The registry: every code page that a label can name, with its labels in lower case. -/
def registry : List (CodePage × List String) := [
  (.utf8, ["unicode-1-1-utf-8", "utf-8", "utf8"]),
  (.single .ibm866, ["866", "cp866", "csibm866", "ibm866"]),
  (.single .isoPart2, ["csisolatin2", "iso-8859-2", "iso-ir-101", "iso8859-2", "iso88592",
    "iso_8859-2", "iso_8859-2:1987", "l2", "latin2"]),
  (.single .isoPart3, ["csisolatin3", "iso-8859-3", "iso-ir-109", "iso8859-3", "iso88593",
    "iso_8859-3", "iso_8859-3:1988", "l3", "latin3"]),
  (.single .isoPart4, ["csisolatin4", "iso-8859-4", "iso-ir-110", "iso8859-4", "iso88594",
    "iso_8859-4", "iso_8859-4:1988", "l4", "latin4"]),
  (.single .isoPart5, ["csisolatincyrillic", "cyrillic", "iso-8859-5", "iso-ir-144", "iso8859-5",
    "iso88595", "iso_8859-5", "iso_8859-5:1988"]),
  (.single .isoPart6, ["arabic", "asmo-708", "csiso88596e", "csiso88596i", "csisolatinarabic",
    "ecma-114", "iso-8859-6", "iso-8859-6-e", "iso-8859-6-i", "iso-ir-127", "iso8859-6",
    "iso88596", "iso_8859-6", "iso_8859-6:1987"]),
  (.single .isoPart7, ["csisolatingreek", "ecma-118", "elot_928", "greek", "greek8", "iso-8859-7",
    "iso-ir-126", "iso8859-7", "iso88597", "iso_8859-7", "iso_8859-7:1987", "sun_eu_greek"]),
  (.single .isoPart8, ["csiso88598e", "csisolatinhebrew", "hebrew", "iso-8859-8", "iso-8859-8-e",
    "iso-ir-138", "iso8859-8", "iso88598", "iso_8859-8", "iso_8859-8:1988", "visual"]),
  (.single .isoPart8Logical, ["csiso88598i", "iso-8859-8-i", "logical"]),
  (.single .isoPart10, ["csisolatin6", "iso-8859-10", "iso-ir-157", "iso8859-10", "iso885910",
    "l6", "latin6"]),
  (.single .isoPart13, ["iso-8859-13", "iso8859-13", "iso885913"]),
  (.single .isoPart14, ["iso-8859-14", "iso8859-14", "iso885914"]),
  (.single .isoPart15, ["csisolatin9", "iso-8859-15", "iso8859-15", "iso885915", "iso_8859-15",
    "l9"]),
  (.single .isoPart16, ["iso-8859-16"]),
  (.single .koi8r, ["cskoi8r", "koi", "koi8", "koi8-r", "koi8_r"]),
  (.single .koi8u, ["koi8-u"]),
  (.single .macRoman, ["csmacintosh", "mac", "macintosh", "x-mac-roman"]),
  (.single .windows874, ["dos-874", "iso-8859-11", "iso8859-11", "iso885911", "tis-620",
    "windows-874"]),
  (.single .windows1250, ["cp1250", "windows-1250", "x-cp1250"]),
  (.single .windows1251, ["cp1251", "windows-1251", "x-cp1251"]),
  (.single .windows1252, ["ansi_x3.4-1968", "ascii", "cp1252", "cp819", "csisolatin1", "ibm819",
    "iso-8859-1", "iso-ir-100", "iso8859-1", "iso88591", "iso_8859-1", "iso_8859-1:1987", "l1",
    "latin1", "us-ascii", "windows-1252", "x-cp1252"]),
  (.single .windows1253, ["cp1253", "windows-1253", "x-cp1253"]),
  (.single .windows1254, ["cp1254", "csisolatin5", "iso-8859-9", "iso-ir-148", "iso8859-9",
    "iso88599", "iso_8859-9", "iso_8859-9:1989", "l5", "latin5", "windows-1254", "x-cp1254"]),
  (.single .windows1255, ["cp1255", "windows-1255", "x-cp1255"]),
  (.single .windows1256, ["cp1256", "windows-1256", "x-cp1256"]),
  (.single .windows1257, ["cp1257", "windows-1257", "x-cp1257"]),
  (.single .windows1258, ["cp1258", "windows-1258", "x-cp1258"]),
  (.single .macCyrillic, ["x-mac-cyrillic", "x-mac-ukrainian"]),
  (.multi .gbk, ["chinese", "csgb2312", "csiso58gb231280", "gb2312", "gb_2312", "gb_2312-80",
    "gbk", "iso-ir-58", "x-gbk"]),
  (.multi .gb18030, ["gb18030"]),
  (.multi .big5, ["big5", "big5-hkscs", "cn-big5", "csbig5", "x-x-big5"]),
  (.multi .eucJp, ["cseucpkdfmtjapanese", "euc-jp", "x-euc-jp"]),
  (.multi .iso2022Jp, ["csiso2022jp", "iso-2022-jp"]),
  (.multi .shiftJis, ["csshiftjis", "ms_kanji", "shift-jis", "shift_jis", "sjis", "windows-31j",
    "x-sjis"]),
  (.multi .eucKr, ["cseuckr", "csksc56011987", "euc-kr", "iso-ir-149", "korean", "ks_c_5601-1987",
    "ks_c_5601-1989", "ksc5601", "ksc_5601", "windows-949"]),
  (.replacement, ["csiso2022kr", "hz-gb-2312", "iso-2022-kr", "iso-2022-cn", "iso-2022-cn-ext"]),
  (.utf16 .big, ["utf-16be"]),
  (.utf16 .little, ["utf-16", "utf-16le"]),
  (.single .userDefined, ["x-user-defined"])]

/-- What surrounds a label in the registry's rules. -/
def isLabelSpace (c : Char) : Bool :=
  c == ' ' || c == '\n' || c == '\r' || c == '\t' || c == '\x0c'

/-- The page with this label in the registry; the case of ASCII letters does not matter. -/
def ofRegistryLabel? (label : List Char) : Option CodePage :=
  let label := String.ofList ((trimBy isLabelSpace label).map Char.toLower)
  (registry.find? fun entry => entry.2.contains label).map Prod.fst

/-- Page numbers that are not the number in a registry label of the windows family. -/
def numbered : List (String × CodePage) := [
  ("65001", .utf8),
  ("28591", .single .windows1252),
  ("936", .multi .gbk),
  ("949", .multi .eucKr),
  ("950", .multi .big5),
  ("932", .multi .shiftJis),
  ("866", .single .ibm866),
  ("874", .single .windows874)]

/-- Names that may stand before a page number. -/
def vendors : List (List Char) :=
  ["ansi".toList, "cp".toList, "windows".toList, "ms".toList]

/-- Lower case as far as vendor names need it; the long s is an s. -/
def foldCase (c : Char) : Char := if c = 'ſ' then 's' else c.toLower

/-- The page number in a label such as `1252`, `cp936` or `ANSI 1251`: a vendor name or none, one
separator or none, and three to five digits. -/
def pageNumber? (label : List Char) : Option (List Char) :=
  let folded := label.map foldCase
  let afterVendor := match vendors.find? fun vendor => vendor.isPrefixOf folded with
    | some vendor => label.drop vendor.length
    | none => label
  let number := match afterVendor with
    | c :: rest => if c = ' ' ∨ c = '_' ∨ c = '-' then rest else afterVendor
    | [] => []
  if 3 ≤ number.length ∧ number.length ≤ 5 ∧ number.all Char.isDigit then some number else none

/-- The page that a label names: a label of the registry, or a page number. -/
def ofLabel? (label : List Char) : Option CodePage :=
  let label := trim label
  (ofRegistryLabel? label).or <|
    (pageNumber? label).bind fun number =>
      match numbered.find? fun entry => entry.1.toList = number with
      | some (_, page) => some page
      | none => ofRegistryLabel? ("windows-".toList ++ number)

end Shapefile.Text.CodePage
