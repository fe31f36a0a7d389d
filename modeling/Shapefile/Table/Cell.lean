import Shapefile.Decimal.Fixed
import Shapefile.Decimal.Reading
import Shapefile.Table.Field
import Shapefile.Text.CodePage

/-!
The bytes of one field and the value they stand for. Text is in the code page of the table; logical
values are a letter; dates and numbers are ASCII text. Each field type has a filler that stands for
no value. Numbers too wide for their field become the filler, and text is cut between characters.
-/

namespace Shapefile.Field

/-! ### Reading -/

/-- What may surround the text of a field. -/
def isPadding (c : Char) : Bool := c == '\x00' || Text.isBlank c

def trim (text : List Char) : List Char := Text.trimBy isPadding text

/-- A double, with a decimal comma read as a point if it cannot be read as it stands. -/
def readDouble? (text : List Char) : Option Float :=
  (Decimal.readFloat? text).or
    (Decimal.readFloat? (text.map fun c => if c = ',' then '.' else c))

/-- A number by the type of its field: the narrowest integer type allowed, else a double. -/
def readNumber (type : FieldType) (text : List Char) : Value :=
  let int32? := (Decimal.readInt32? text).map Value.int
  let int64? := (Decimal.readInt64? text).map Value.bigInt
  let double? := (readDouble? text).map Value.double
  let value? := match type with
    | .int => int32?.or (int64?.or double?)
    | .bigInt => int64?.or double?
    | _ => double?
  value?.getD .null

/-- A logical value: yes or no in either case, or one of the bytes for no value. -/
def readLogical (f : Field) (bytes : List UInt8) : Except TableError Value :=
  let byte := bytes.head?.getD 0x3F
  match FieldType.code byte with
  | 't' | 'T' | 'y' | 'Y' => .ok (.boolean true)
  | 'f' | 'F' | 'n' | 'N' => .ok (.boolean false)
  | '?' | ' ' | '\x00' => .ok .null
  | _ => .error (.row (.unknownLogical byte f.name))

/-- The value that the bytes of a field stand for. -/
def parse [Host] (f : Field) (codePage : Text.CodePage) (bytes : List UInt8) :
    Except TableError Value :=
  match f.fieldType with
  | .varchar =>
    if bytes.all (· == 0) then .ok .null
    else .ok (.varchar (String.ofList (trim (codePage.decode bytes))))
  | .boolean => f.readLogical bytes
  | .date =>
    let text := trim (Text.Utf8.decode bytes)
    if text.all (· == '0') then .ok .null
    else .ok (((Date.ofCompact? text).map Value.date).getD .null)
  | .int | .bigInt | .double =>
    let text := trim (Text.Utf8.decode bytes)
    match text with
    | [] | '*' :: _ => .ok .null
    | _ => .ok (readNumber f.fieldType text)

/-! ### Writing -/

/-- The byte of which the filler for this type code is made. -/
def nullByte (typeCode : UInt8) : UInt8 :=
  match FieldType.code typeCode with
  | 'C' | 'c' => 0
  | 'L' | 'l' => 0x3F
  | 'N' | 'n' | 'F' | 'f' | 'O' | 'o' => 0x2A
  | _ => 0x30

/-- The bytes that stand for no value. -/
def filler (f : Field) : List UInt8 := List.replicate f.length (nullByte f.typeCode)

/-- ASCII text as bytes. -/
def ascii (text : List Char) : List UInt8 := text.map fun c => UInt8.ofNat c.toNat

/-- The bytes of the longest of the first `count` beginnings of a text that is no longer than
`length`. -/
def longestFitting (encode : List Char → List UInt8) (length : Nat) (text : List Char) :
    Nat → List UInt8
  | 0 => encode []
  | count + 1 =>
    let bytes := encode (text.take (count + 1))
    if bytes.length ≤ length then bytes else longestFitting encode length text count

/-- Text cut between characters to fit a width, and filled with blanks to that width. -/
def fitText (encode : List Char → List UInt8) (length : Nat) (text : List Char) : List UInt8 :=
  let bytes := (longestFitting encode length text text.length).take length
  bytes ++ List.replicate (length - bytes.length) 0x20

/-- A number at the right end of its field, or the filler if it is too wide. -/
def fitNumber (f : Field) (text : List Char) : List UInt8 :=
  if text.length ≤ f.length then
    List.replicate (f.length - text.length) 0x20 ++ ascii text
  else f.filler

/-- The refusal of a value that the field cannot hold. -/
def mismatch {α : Type} (f : Field) (value : Value) : Except TableError α :=
  .error (.row (.typeMismatch f.name f.typeCode value.typeName))

/-- The bytes of a field that holds this value. -/
def encode [Host] (f : Field) (codePage : Text.CodePage) (value : Value) :
    Except TableError (List UInt8) :=
  if value.isNull then .ok f.filler
  else
    match f.fieldType with
    | .varchar =>
      match value with
      | .geometry _ => f.mismatch value
      | _ => .ok (fitText codePage.encode f.length value.text)
    | .boolean =>
      match value with
      | .boolean b => .ok [if b then 0x54 else 0x46]
      | _ => f.mismatch value
    | .date =>
      match value with
      | .date d =>
        if 0 ≤ d.year ∧ d.year ≤ 9999 then .ok (ascii d.compact)
        else .error (.row (.dateOutOfRange f.name d))
      | _ => f.mismatch value
    | .int | .bigInt =>
      match value with
      | .int n => .ok (f.fitNumber (Decimal.integer n.toInt))
      | .bigInt n => .ok (f.fitNumber (Decimal.integer n.toInt))
      | .double x => .ok (f.fitNumber (Decimal.fixed 0 x))
      | _ => f.mismatch value
    | .double =>
      match value.asFloat? with
      | some x => .ok (if x.isFinite then f.fitNumber (Decimal.fixed f.decimals x) else f.filler)
      | none => f.mismatch value

end Shapefile.Field
