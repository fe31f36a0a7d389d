import Shapefile.Dataset.Error
import Shapefile.Projection
import Shapefile.Storage.Disk
import Shapefile.Text.Label

/-!
The files of a dataset lie in one folder and share their stem; the extension says which is which, in
either case. Shapes, index and table must be there; projection and code page may be missing.
-/

namespace Shapefile

structure Companions where
  shapes : Path
  index : Path
  table : Path
  projection : Option Path := none
  codePage : Option Path := none
deriving DecidableEq, Repr

namespace Companions

/-- Equal up to the case of ASCII letters. -/
def sameLetters (a b : String) : Bool := a.toList.map Char.toLower == b.toList.map Char.toLower

/-- A file name with this stem and, in either case, this extension. -/
def isCompanionName (stem extension name : String) : Bool :=
  let (nameStem, nameExtension) := Path.splitName name
  nameStem == stem && nameExtension.any (sameLetters · extension)

/-- The file that goes with `shapes` under this extension: the one with the extension as it stands,
else one in the same folder whose extension differs in case only. -/
def companion? (disk : Disk) (shapes : Path) (extension : String) :
    Except StorageError (Option Path) :=
  let exact := shapes.withExtension extension
  if disk.isFile exact then .ok (some exact)
  else
    match shapes.stem? with
    | none => .ok none
    | some stem => do
      let folder := shapes.folder
      let names ← disk.namesIn folder
      let candidates := (names.filter (isCompanionName stem extension)).map folder.child
      return candidates.find? disk.isFile

/-- The files of the dataset to which a shape file belongs. -/
def find (disk : Disk) (shapes : Path) : Except DatasetError Companions := do
  if !disk.isFile shapes then
    .error (.notFound shapes)
  let companion (extension : String) : Except DatasetError (Option Path) :=
    (companion? disk shapes extension).mapError .storage
  let index? ← companion "shx"
  let table? ← companion "dbf"
  match index?, table? with
  | none, _ => .error (.notFound (shapes.withExtension "shx"))
  | _, none => .error (.notFound (shapes.withExtension "dbf"))
  | some index, some table =>
    let projection ← companion "prj"
    let codePage ← companion "cpg"
    return { shapes, index, table, projection, codePage }

/-- The files of a new dataset; the extension of the path is replaced. -/
def forWriting (path : Path) : Companions where
  shapes := path.withExtension "shp"
  index := path.withExtension "shx"
  table := path.withExtension "dbf"

/-- The code page that a code page file names, if it is known. -/
def readCodePage (disk : Disk) (p : Path) : Except StorageError (Option Text.CodePage) := do
  let bytes ← disk.read p
  return Text.CodePage.ofLabel? (Text.trim (Text.Utf8.decode bytes.toList))

/-- Save the name of a code page. -/
def saveCodePage (disk : Disk) (p : Path) (page : Text.CodePage) : Except StorageError Disk :=
  let label := page.registryName?.getD page.name
  disk.save p (Text.Utf8.encode label.toList).toArray

/-- The spatial reference that a projection file gives, if it gives one. -/
def readSrid (disk : Disk) (p : Path) : Except StorageError (Option Int32) := do
  let bytes ← disk.read p
  return Projection.srid? (Text.Utf8.decode bytes.toList)

end Companions

end Shapefile
