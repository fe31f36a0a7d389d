import Shapefile.Shape.Type
import Shapefile.Storage.Error

/-!
What can be wrong with shape files and with geometries that are to be stored in them.
-/

namespace Shapefile

/-- The counts in a record. -/
inductive CountField where
  | points
  | parts
  | rings
  | partOffset
deriving DecidableEq, Repr

def CountField.text : CountField → String
  | points => "point count"
  | parts => "part count"
  | rings => "ring count"
  | partOffset => "part offset"

/-- The repeated items of a record. -/
inductive RecordItem where
  | points
  | parts
deriving DecidableEq, Repr

def RecordItem.text : RecordItem → String
  | points => "points"
  | parts => "parts"

/-- The bytes of a shape file or of its index make no sense. -/
inductive ShapeFault where
  | magicNumber (found expected : Int32)
  | version (found expected : Int32)
  | fileType (id : Int32)
  | recordType (offset : Nat) (id : Int32)
  | typeChanged (file record : ShapeType)
  | negativeCount (field : CountField) (count : Int32)
  | itemsPastEnd (item : RecordItem) (count needed remaining : Nat)
  | partOutOfRange (first last points : Nat)
  | indexOutOfRange (index count : Nat)
  | negativeOffset (index : Nat) (words : Int32)
deriving DecidableEq, Repr

namespace ShapeFault

def message : ShapeFault → String
  | magicNumber found expected =>
    "File has wrong magic number: found " ++ toString found ++ ", expected " ++ toString expected
  | version found expected =>
    "File has wrong version: found " ++ toString found ++ ", expected " ++ toString expected
  | fileType id => "File has nonexistent shape type " ++ toString id
  | recordType offset id =>
    "Record at offset " ++ toString offset ++ " has nonexistent shape type " ++ toString id
  | typeChanged file record =>
    "Shape type changed illegally from " ++ file.text ++ " to " ++ record.text
  | negativeCount field count =>
    "Record has a negative " ++ field.text ++ ": " ++ toString count
  | itemsPastEnd item count needed remaining =>
    "Record declares " ++ toString count ++ " " ++ item.text ++ ", which need " ++
      toString needed ++ " bytes, but only " ++ toString remaining ++ " remain in the file"
  | partOutOfRange first last points =>
    "Record has a part with points " ++ toString first ++ "-" ++ toString last ++
      ", but there are only " ++ toString points ++ " points in the record"
  | indexOutOfRange index count =>
    "Index record " ++ toString index ++ " requested, but the index holds " ++ toString count
  | negativeOffset index words =>
    "Index record " ++ toString index ++ " has negative offset " ++ toString words

end ShapeFault

/-- A shape type or a geometry that has no place in a file. -/
inductive UnsupportedShape where
  /-- Records of this type can be neither read nor written. -/
  | noFormat (t : ShapeType)
  /-- The type is not of the family asked for. -/
  | otherFamily (t : ShapeType) (family : Family)
  /-- The format does not take geometries of this type. -/
  | geometry (typeName : String) (t : ShapeType)
deriving DecidableEq, Repr

namespace UnsupportedShape

def message : UnsupportedShape → String
  | noFormat t => "No codec for shape type " ++ t.text
  | otherFamily t family =>
    let name (dimensions : Dimensions) : String := RecordFormat.name ⟨family, dimensions⟩
    "Codec constructed with shape type " ++ t.text ++ ", expected one of " ++
      name .plane ++ ", " ++ name .measured ++ ", " ++ name .elevated
  | geometry typeName t => "A " ++ typeName ++ " cannot be stored in a " ++ t.text ++ " file"

end UnsupportedShape

/-- Errors of shape files and their index. -/
inductive ShapeError where
  | storage (e : StorageError)
  | malformed (fault : ShapeFault)
  | unsupported (cause : UnsupportedShape)
deriving DecidableEq, Repr

namespace ShapeError

def message : ShapeError → String
  | storage e => e.message
  | malformed fault => "Parse error: " ++ fault.message
  | unsupported cause => "Unsupported shape: " ++ cause.message

instance : OfStorage ShapeError where
  ofStorage := storage

end ShapeError

/-- The format of the records in files of this type. -/
def ShapeType.format (t : ShapeType) : Except ShapeError RecordFormat :=
  match t with
  | .record f => .ok f
  | .null | .multiPatch => .error (.unsupported (.noFormat t))

/-- The format of this type, if it is of the given family. -/
def ShapeType.formatOfFamily (t : ShapeType) (family : Family) : Except ShapeError RecordFormat :=
  match t with
  | .record f =>
    if f.family = family then .ok f else .error (.unsupported (.otherFamily t family))
  | .null | .multiPatch => .error (.unsupported (.otherFamily t family))

end Shapefile
