import Shapefile.Dataset.Writing
import Shapefile.Proofs.Dataset.Stage
import Shapefile.Proofs.Running
import Shapefile.Proofs.Shape.WriterRun
import Shapefile.Proofs.Storage.CompanionPaths
import Shapefile.Proofs.Storage.NamedFiles

/-! What the steps of creating a dataset do to the disk. A file that is created
is put there empty, the code page file is put there with the label of the page
unless the page is the standard one, and a step that fails changes nothing. -/
namespace Shapefile.Dataset

theorem runOn_createFile_eq (path : Path) (disk : Disk) :
    runOn (createFile path) disk =
      match disk.create path with
      | .ok (id, next) => (.ok { id }, next)
      | .error e => (.error (.storage e), disk) := by
  rw [createFile, runOn_bind, runOn_get]
  cases hCreate : disk.create path with
  | error e =>
      simp only [onStorage, hCreate, Except.mapError]
      rfl
  | ok created =>
      simp only [onStorage, hCreate, Except.mapError]
      rfl

theorem runOn_createFile_ok {path : Path} {disk next : Disk} {file : OpenFile}
    (hOk : runOn (createFile path) disk = (.ok file, next)) :
    file.position = 0 ∧ disk.create path = .ok (file.id, next) := by
  rw [runOn_createFile_eq] at hOk
  split at hOk
  next hCreate =>
    cases hOk
    exact ⟨rfl, hCreate⟩
  next => cases hOk

theorem runOn_createFile_error {path : Path} {disk next : Disk} {e : DatasetError}
    (hError : runOn (createFile path) disk = (.error e, next)) : ∃ cause, e = .storage cause := by
  rw [runOn_createFile_eq] at hError
  split at hError
  next => cases hError
  next cause _ =>
    cases hError
    exact ⟨cause, rfl⟩

/-- The bytes of the code page file of a page. -/
def labelBytes (page : Text.CodePage) : Bytes :=
  (Text.Utf8.encode (page.registryName?.getD page.name).toList).toArray

theorem runOn_createCodePage_eq {page : Text.CodePage} (hPage : page.isStandard = false)
    (path : Path) (disk : Disk) :
    runOn (createCodePage path page) disk =
      match disk.save (path.withExtension "cpg") (labelBytes page) with
      | .ok next => (.ok (some (path.withExtension "cpg")), next)
      | .error e => (.error (.storage e), disk) := by
  unfold createCodePage
  rw [hPage, if_neg (by decide), runOn_bind, runOn_get]
  have hSave : Companions.saveCodePage disk (path.withExtension "cpg") page =
      disk.save (path.withExtension "cpg") (labelBytes page) := rfl
  simp only [hSave]
  cases disk.save (path.withExtension "cpg") (labelBytes page) with
  | error e => rfl
  | ok next => rfl

/-- The code page file is put there, unless it would name the standard page. -/
theorem createCodePage_ok {path : Path} {page : Text.CodePage} {disk next : Disk}
    {file? : Option Path} (hOk : runOn (createCodePage path page) disk = (.ok file?, next)) :
    (page.isStandard = true ∧ next = disk) ∨
      (page.isStandard = false ∧
        disk.save (path.withExtension "cpg") (labelBytes page) = .ok next) := by
  cases hPage : page.isStandard with
  | true =>
      unfold createCodePage at hOk
      rw [hPage, if_pos rfl, runOn_pure] at hOk
      exact Or.inl ⟨rfl, (congrArg Prod.snd hOk).symm⟩
  | false =>
      rw [runOn_createCodePage_eq hPage] at hOk
      split at hOk
      next hSave =>
        cases hOk
        exact Or.inr ⟨rfl, hSave⟩
      next => cases hOk

theorem createCodePage_error {path : Path} {page : Text.CodePage} {disk next : Disk}
    {e : DatasetError} (hError : runOn (createCodePage path page) disk = (.error e, next)) :
    ∃ cause, e = .storage cause := by
  cases hPage : page.isStandard with
  | true =>
      unfold createCodePage at hError
      rw [hPage, if_pos rfl, runOn_pure] at hError
      exact absurd (congrArg Prod.fst hError) nofun
  | false =>
      rw [runOn_createCodePage_eq hPage] at hError
      split at hError
      next => cases hError
      next cause _ =>
        cases hError
        exact ⟨cause, rfl⟩

/-- Both files are there before the shape type is looked up. -/
theorem createShapes_unsupported {files : Companions} {t : ShapeType} {capacity : Nat}
    {disk last : Disk} {cause : ShapeError}
    (hError : runOn (createShapes files t capacity) disk = (.error (.shape cause), last)) :
    t.format? = none ∧ ∃ shapesFile second indexFile,
      runOn (createFile files.shapes) disk = (.ok shapesFile, second) ∧
        runOn (createFile files.index) second = (.ok indexFile, last) := by
  rcases runOn_bind_error hError with hShapes | ⟨shapesFile, second, hShapes, hRest⟩
  · obtain ⟨_, hCause⟩ := runOn_createFile_error hShapes
    cases hCause
  rcases runOn_bind_error hRest with hIndex | ⟨indexFile, third, hIndex, hRest⟩
  · obtain ⟨_, hCause⟩ := runOn_createFile_error hIndex
    cases hCause
  rcases runOn_bind_error hRest with hFormat | ⟨_, _, _, hSettle⟩
  · rw [runOn_lift] at hFormat
    obtain ⟨hCreate, rfl⟩ := Prod.mk.inj hFormat
    refine ⟨?_, shapesFile, second, indexFile, hShapes, hIndex⟩
    cases t with
    | record f =>
        obtain ⟨w, hOk, _⟩ := ShapeWriter.create_holds f capacity
        rw [hOk] at hCreate
        cases hCreate
    | null => rfl
    | multiPatch => rfl
  · rw [runOn_modifyGet] at hSettle
    exact absurd (congrArg Prod.fst hSettle) nofun

theorem createTable_error [Host] {files : Companions} {header : TableHeader} {capacity : Nat}
    {disk last : Disk} {e : DatasetError}
    (hError : runOn (createTable files header capacity) disk = (.error e, last)) :
    ∃ cause, e = .table cause := by
  rcases runOn_bind_error hError with hGet | ⟨_, _, _, hRest⟩
  · exact absurd (congrArg Prod.fst hGet) nofun
  rcases runOn_bind_error hRest with hTable | ⟨_, _, _, hSet⟩
  · rw [runOn_lift] at hTable
    obtain ⟨hCreate, _⟩ := Prod.mk.inj hTable
    exact mapError_error hCreate
  · exact absurd (congrArg Prod.fst hSet) nofun

/-- A creation that fails for its shape type has put the code page, the shape
file and the index there. -/
theorem create_unsupported [Host] {d : Dataset} {path : Path} {t : ShapeType} {h : TableHeader}
    {disk last : Disk} {cause : ShapeError}
    (hError : runOn (d.create path t h) disk = (.error (.shape cause), last)) :
    d.state = .unopened ∧ t.format? = none ∧ ∃ file? middle shapesFile second indexFile,
      runOn (createCodePage path h.codePage) disk = (.ok file?, middle) ∧
        runOn (createFile (path.withExtension "shp")) middle = (.ok shapesFile, second) ∧
        runOn (createFile (path.withExtension "shx")) second = (.ok indexFile, last) := by
  rcases runOn_bind_error hError with hChecked | ⟨_, _, hChecked, hRest⟩
  · rw [runOn_lift, checkUnopened] at hChecked
    split at hChecked <;> cases hChecked
  rw [runOn_lift] at hChecked
  obtain ⟨hUnopened, rfl⟩ := Prod.mk.inj hChecked
  rcases runOn_bind_error hRest with hPage | ⟨file?, middle, hPage, hRest⟩
  · obtain ⟨_, hCause⟩ := createCodePage_error hPage
    cases hCause
  rcases runOn_bind_error hRest with hShapes | ⟨_, _, _, hRest⟩
  · obtain ⟨hNone, shapesFile, second, indexFile, hFirst, hSecond⟩ :=
      createShapes_unsupported hShapes
    exact ⟨checkUnopened_ok hUnopened, hNone, file?, middle, shapesFile, second, indexFile, hPage,
      hFirst, hSecond⟩
  rcases runOn_bind_error hRest with hTable | ⟨_, _, _, hDone⟩
  · obtain ⟨_, hCause⟩ := createTable_error hTable
    cases hCause
  · exact absurd (congrArg Prod.fst hDone) nofun

end Shapefile.Dataset
