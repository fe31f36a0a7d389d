import Shapefile.Proofs.Dataset.Stage
import Shapefile.Proofs.Shape.IndexReading
import Shapefile.Proofs.Shape.RecordReading
import Shapefile.Proofs.Storage.FolderFiles
import Shapefile.Proofs.Table.TakenHeader

/-! What opening a dataset comes down to. The companions are looked for one by
one, the three files are opened one by one, and the only thing that is asked
of them together is whether index and table count as many records. -/
namespace Shapefile

namespace Companions

/-- The files of a dataset are found if the shape file is there, each of the
others can be looked for, and index and table are found. -/
theorem find_eq_ok_iff {disk : Disk} {p : Path} {files : Companions} :
    find disk p = .ok files ↔ disk.isFile p = true ∧ files.shapes = p ∧
      companion? disk p "shx" = .ok (some files.index) ∧
      companion? disk p "dbf" = .ok (some files.table) ∧
      companion? disk p "prj" = .ok files.projection ∧
      companion? disk p "cpg" = .ok files.codePage := by
  constructor
  · intro hFind
    rw [find] at hFind
    split at hFind
    next => cases hFind
    next hThere =>
      obtain ⟨index?, hIndex, hRest⟩ := bind_eq_ok hFind
      obtain ⟨table?, hTable, hRest⟩ := bind_eq_ok hRest
      split at hRest
      next => cases hRest
      next => cases hRest
      next =>
        obtain ⟨projection, hProjection, hRest⟩ := bind_eq_ok hRest
        obtain ⟨codePage, hCodePage, hRest⟩ := bind_eq_ok hRest
        cases hRest
        exact ⟨by simpa using hThere, rfl, mapError_ok hIndex, mapError_ok hTable,
          mapError_ok hProjection, mapError_ok hCodePage⟩
  · rintro ⟨hThere, hShapes, hIndex, hTable, hProjection, hCodePage⟩
    rw [find, hThere]
    simp only [hIndex, hTable, hProjection, hCodePage, Except.mapError, ok_bind]
    rw [← hShapes]
    rfl

/-- The companions of a dataset in a folder of its own. -/
theorem find_of_site {disk : Disk} {path : Path} {before folder : List String} {stem : String}
    {shapesId indexId tableId : FileId}
    (hSite : disk.Site path before folder stem
      [("shp", shapesId), ("shx", indexId), ("dbf", tableId)]) :
    find disk path = .ok
      { shapes := path
        index := Path.beside before stem "shx"
        table := Path.beside before stem "dbf" } := by
  obtain ⟨hShp, hShx, hDbf, hPrj, hCpg⟩ := Path.plain_companions
  have hNotProjection : ∀ other ∈ ["shp", "shx", "dbf"],
      Path.Plain other ∧ sameLetters other "prj" = false := by decide +kernel
  have hNotCodePage : ∀ other ∈ ["shp", "shx", "dbf"],
      Path.Plain other ∧ sameLetters other "cpg" = false := by decide +kernel
  have hThere : disk.isFile path = true := by
    rw [hSite.path.eq_beside, hSite.isFile_eq hShp]
    rfl
  have hIndex := hSite.companion?_eq_some hShx rfl
  have hTable := hSite.companion?_eq_some hDbf rfl
  have hProjection := hSite.companion?_eq_none hPrj hNotProjection
  have hCodePage := hSite.companion?_eq_none hCpg hNotCodePage
  exact find_eq_ok_iff.mpr ⟨hThere, rfl, hIndex, hTable, hProjection, hCodePage⟩

end Companions

theorem TableReader.codePage_of_onChannel {channel : Bytes} {capacity : Nat}
    {forced : Option Text.CodePage} {r : TableReader}
    (hOpen : onChannel channel capacity forced = .ok r) :
    r.header.codePage = (forced.or (Text.CodePage.ofLanguageDriver?
      (TableHeader.driverIn channel))).getD .standard := by
  obtain ⟨hResult, _, _⟩ := (Window.views_onChannel channel capacity).run_eq
    (TableHeader.read forced)
  simp only [onChannel] at hOpen
  split at hOpen
  next hRun =>
    cases hOpen
    rw [hRun] at hResult
    exact (TableHeader.read_ok (Prod.ext hResult.symm rfl)).2
  next => cases hOpen

namespace Dataset

variable {disk : Disk} {f : RecordFormat} {h : TableHeader} {files : Companions}
  {geometries : List (Option Geometry)} {records : List (List UInt8)}

theorem runOpenFile {ε α : Type} {path : Path} {id : FileId} {opened : α}
    {wrap : ε → DatasetError} {onChannel : Bytes → Except ε α}
    (hFind : disk.find path = .ok id) (hOpen : onChannel (disk.content id) = .ok opened) :
    openFile disk path wrap onChannel = .ok (id, opened) := by
  rw [openFile, hFind]
  simp only [Except.mapError, ok_bind, hOpen]
  rfl

/-- Three layouts can be opened with any windows and any code page. They are
refused only if their numbers of records differ and this is to be checked. -/
theorem openFiles_eq [Host] (files : Companions) {shapesId indexId tableId : FileId}
    (hFindShapes : disk.find files.shapes = .ok shapesId)
    (hFindIndex : disk.find files.index = .ok indexId)
    (hFindTable : disk.find files.table = .ok tableId)
    (hShapes : (disk.content shapesId).toList = f.shapesFile geometries)
    (hIndex : (disk.content indexId).toList = f.indexFile geometries)
    (hTable : (disk.content tableId).toList = h.fileOf records) (hTight : h.Tight)
    (hCount : h.recordCount < 2 ^ 31) (hHeader : h.headerLength < 2 ^ 16)
    (hRecord : h.recordLength < 2 ^ 16) (options : DatasetOptions)
    (codePage : Option Text.CodePage) :
    ∃ shapes index table, shapes.Shows (disk.content shapesId) f ∧
      index.Shows (disk.content indexId) f geometries ∧
      table.Shows (disk.content tableId) h codePage ∧
      openFiles disk options files codePage =
        if index.recordCount ≠ h.recordCount ∧ options.validateCounts = true then
          .error (.recordCounts index.recordCount h.recordCount)
        else .ok ⟨shapesId, shapes, indexId, index, ⟨files.table, tableId, table⟩⟩ := by
  obtain ⟨index, hOpenIndex, hIndexShows⟩ :=
    ShapeIndex.onChannel_shows hIndex options.indexCapacity
  obtain ⟨table, hOpenTable, hTableShows⟩ :=
    TableReader.onChannel_shows hTight hCount hHeader hRecord hTable options.readCapacity codePage
  obtain ⟨shapes, hOpenShapes, hShapesShow⟩ :=
    ShapeReader.onChannel_shows hShapes options.readCapacity
  refine ⟨shapes, index, table, hShapesShow, hIndexShows, hTableShows, ?_⟩
  have hInTable : table.header.recordCount = h.recordCount := by
    rw [hTableShows.header_eq]
    rfl
  have hOpened : ReadingTable.openAt disk files.table codePage options.readCapacity =
      .ok ⟨files.table, tableId, table⟩ := by
    rw [ReadingTable.openAt, hFindTable]
    simp only [Except.mapError, ok_bind, hOpenTable]
    rfl
  have hIndexFile : openFile disk files.index DatasetError.shape
      (ShapeIndex.onChannel · options.indexCapacity) = .ok (indexId, index) :=
    runOpenFile hFindIndex hOpenIndex
  have hShapesFile : openFile disk files.shapes DatasetError.shape
      (ShapeReader.onChannel · options.readCapacity) = .ok (shapesId, shapes) :=
    runOpenFile hFindShapes hOpenShapes
  rw [openFiles, hIndexFile, hOpened, hShapesFile]
  simp only [Except.mapError, ok_bind, hInTable]
  split <;> rfl

/-- The table of files that were opened is in the code page that was asked
for, else in the one of its language driver, else in the standard one. -/
theorem openFiles_codePage {options : DatasetOptions} {codePage : Option Text.CodePage}
    {r : DatasetReader} (hOpen : openFiles disk options files codePage = .ok r) {tableId : FileId}
    (hFindTable : disk.find files.table = .ok tableId) :
    r.table.reader.header.codePage = (codePage.or (Text.CodePage.ofLanguageDriver?
      (TableHeader.driverIn (disk.content tableId)))).getD .standard := by
  obtain ⟨_, _, hOpen⟩ := bind_eq_ok hOpen
  obtain ⟨table, hTable, hOpen⟩ := bind_eq_ok hOpen
  obtain ⟨id, hFind, hTable⟩ := bind_eq_ok (mapError_ok hTable)
  rw [hFindTable] at hFind
  cases hFind
  obtain ⟨reader, hReader, hTable⟩ := bind_eq_ok hTable
  cases hTable
  have hSame : r.table.reader = reader := by
    simp only at hOpen
    split at hOpen
    next => cases hOpen
    next =>
      obtain ⟨_, _, hOpen⟩ := bind_eq_ok hOpen
      cases hOpen
      rfl
  rw [hSame]
  exact TableReader.codePage_of_onChannel hReader

end Dataset

end Shapefile
