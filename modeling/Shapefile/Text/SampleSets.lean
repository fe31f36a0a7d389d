import Shapefile.Host
import Shapefile.Text.Utf8

/-!
A host to run on: a clock that stands still, and multi-byte sets of ASCII and a few characters each.
They stand for the sets of a library wherever something is run.
-/

namespace Shapefile.Text.MultiByte

/-- Characters outside ASCII, with their bytes. -/
def repertoire : MultiByte → List (Char × List UInt8)
  | .gbk | .gb18030 =>
    [('中', [0xD6, 0xD0]), ('文', [0xCE, 0xC4]), ('北', [0xB1, 0xB1]), ('京', [0xBE, 0xA9]),
      ('上', [0xC9, 0xCF]), ('海', [0xBA, 0xA3])]
  | .eucKr =>
    [('한', [0xC7, 0xD1]), ('국', [0xB1, 0xB9]), ('서', [0xBC, 0xAD]), ('울', [0xBF, 0xEF])]
  | .big5 =>
    [('中', [0xA4, 0xA4]), ('文', [0xA4, 0xE5]), ('台', [0xA5, 0x78]), ('北', [0xA5, 0x5F])]
  | .shiftJis =>
    [('日', [0x93, 0xFA]), ('本', [0x96, 0x7B]), ('東', [0x93, 0x8C]), ('京', [0x8B, 0x9E]),
      ('カ', [0x83, 0x4A]), ('ｱ', [0xB1])]
  | .eucJp | .iso2022Jp => []

/-- The character with these bytes. -/
def lookup? (set : MultiByte) (bytes : List UInt8) : Option Char :=
  (set.repertoire.find? fun entry => entry.2 = bytes).map Prod.fst

/-- The bytes of a text, character by character. -/
def encodeSample (set : MultiByte) (text : List Char) : List UInt8 :=
  text.flatMap fun c =>
    if c.toNat < 0x80 then [UInt8.ofNat c.toNat]
    else ((set.repertoire.find? fun entry => entry.1 = c).map Prod.snd).getD [0x3F]

/-- ASCII bytes and single-byte characters stand alone, any other byte leads a pair. A pair that is
no character still uses up its second byte, unless that one is ASCII. -/
def decodeSample (set : MultiByte) : List UInt8 → List Char
  | [] => []
  | b :: rest =>
    if b < 0x80 then Char.ofNat b.toNat :: decodeSample set rest
    else
      match set.lookup? [b] with
      | some c => c :: decodeSample set rest
      | none =>
        match rest with
        | [] => [Utf8.replacement]
        | second :: rest =>
          match set.lookup? [b, second] with
          | some c => c :: decodeSample set rest
          | none =>
            if second < 0x80 then Utf8.replacement :: decodeSample set (second :: rest)
            else Utf8.replacement :: decodeSample set rest

end Shapefile.Text.MultiByte

namespace Shapefile

instance Host.sample : Host where
  today := .epoch
  encode := Text.MultiByte.encodeSample
  decode := Text.MultiByte.decodeSample

end Shapefile
