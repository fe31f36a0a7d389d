import Shapefile.Proofs.Dataset.CreatedFiles
import Shapefile.Proofs.Dataset.NamedPage
import Shapefile.Proofs.Dataset.OpenedDataset
import Shapefile.Proofs.Dataset.RoundTrip

/-! The code page in which a dataset is read that was created in some folder.
A page other than the standard one is named in a file of its own, which is put
over any earlier one. For the standard page there is no such file, and an
earlier one stays where it is and is believed. -/
namespace Shapefile

open Shapefile.Path Shapefile.Text

namespace DatasetWriter

variable {w : DatasetWriter} {disk : Disk} {p : Path} {before folder : List String} {stem : String}

theorem mem_files (w : DatasetWriter) :
    ("shp", w.shapes.shapesFile.id) ∈ w.files ∧ ("shx", w.shapes.indexFile.id) ∈ w.files ∧
      ("dbf", w.table.file.id) ∈ w.files := by
  simp [files]

theorem LiesAt.find_eq (hLies : w.LiesAt disk p before folder stem) {extension : String}
    (hPlain : Plain extension) {id : FileId} (hFile : (extension, id) ∈ w.files) :
    disk.find (beside before stem extension) = .ok id :=
  Disk.find_ok (hLies.place.locate_eq hPlain) (hLies.nodes _ hFile)

theorem LiesAt.companion?_eq (hLies : w.LiesAt disk p before folder stem) {extension : String}
    (hPlain : Plain extension) {id : FileId} (hFile : (extension, id) ∈ w.files) :
    Companions.companion? disk p extension = .ok (some (beside before stem extension)) := by
  have hThere : disk.isFile (beside before stem extension) = true :=
    Disk.isFile_iff.mpr ⟨disk.content id, Disk.read_ok_iff.mpr
      ⟨_, hLies.place.locate_eq hPlain, Disk.fileAt?_file (hLies.nodes _ hFile)⟩⟩
  rw [Disk.companion?_eq hLies.place, if_pos hThere]

/-- The files of a dataset are found under the names that they were given,
and beside them perhaps a projection and a code page. -/
theorem LiesAt.find_companions (hLies : w.LiesAt disk p before folder stem) :
    ∃ projection codePage, Companions.companion? disk p "prj" = .ok projection ∧
      Companions.companion? disk p "cpg" = .ok codePage ∧
      Companions.find disk p = .ok
        ⟨p, beside before stem "shx", beside before stem "dbf", projection, codePage⟩ := by
  obtain ⟨hShp, hShx, hDbf, _⟩ := plain_companions
  obtain ⟨hShapes, hIndex, hTable⟩ := w.mem_files
  have hThere : disk.isFile p = true := by
    rw [hLies.place.path.eq_beside]
    exact Disk.isFile_iff.mpr ⟨_, Disk.read_ok_iff.mpr
      ⟨_, hLies.place.locate_eq hShp, Disk.fileAt?_file (hLies.nodes _ hShapes)⟩⟩
  have hProjection := Disk.companion?_eq hLies.place "prj"
  have hCodePage := Disk.companion?_eq hLies.place "cpg"
  exact ⟨_, _, hProjection, hCodePage, Companions.find_eq_ok_iff.mpr ⟨hThere, rfl,
    hLies.companion?_eq hShx hIndex, hLies.companion?_eq hDbf hTable, hProjection, hCodePage⟩⟩

end DatasetWriter

namespace Dataset

variable {w : DatasetWriter} {disk last : Disk} {p : Path} {before folder : List String}
  {stem : String} {f : RecordFormat} {h : TableHeader} {d : Dataset}

/-- A projection that is found can be read. -/
theorem resolveSrid_ok (hPlace : disk.Place p before folder stem) {file? : Option Path}
    (hFound : Companions.companion? disk p "prj" = .ok file?) (srid : Int32) :
    ∃ resolved, resolveSrid disk file? srid = .ok resolved := by
  obtain ⟨_, _, _, hPrj, _⟩ := plain_companions
  cases file? with
  | none => exact ⟨srid, rfl⟩
  | some file =>
      obtain ⟨hFile, _⟩ := Disk.companion?_some hPlace hPrj (by decide) hFound
      obtain ⟨bytes, hRead⟩ := Disk.isFile_iff.mp hFile
      rw [resolveSrid, Companions.readSrid, hRead]
      exact ⟨_, rfl⟩

/-- A dataset that is opened without a label is read in the page that its code
page file names, else in the one of the language driver in its table. -/
theorem opened_codePage [Host] (hLies : w.LiesAt disk p before folder stem)
    {records : List (List UInt8)}
    (hTable : (disk.content w.table.file.id).toList = h.fileOf records) {opened : Dataset}
    (hForced : d.options.forcedCodePage = none)
    (hOpen : d.openForReading disk p none = .ok opened) :
    ∃ header, opened.tableHeader? = some header ∧
      header.codePage = ((Companions.namedPage? disk p).or
        (CodePage.ofLanguageDriver? h.codePage.languageDriver)).getD .standard := by
  obtain ⟨_, _, hDbf, _⟩ := plain_companions
  obtain ⟨_, codePage, _, hCodePage, hFind⟩ := hLies.find_companions
  obtain ⟨_, files, resolved, r, hFiles, hResolve, hReaders, hState⟩ := openForReading_ok hOpen
  rw [hFind] at hFiles
  cases hFiles
  rw [hForced, Option.none_or, Companions.resolveCodePage_eq hLies.place hCodePage] at hResolve
  cases hResolve
  refine ⟨r.table.reader.header, by rw [tableHeader?, hState], ?_⟩
  rw [openFiles_codePage hReaders (hLies.find_eq hDbf w.mem_files.2.2),
    TableHeader.driverIn_fileOf hTable]

/-- Opening on the three layouts succeeds whatever else is in the folder, if
the numbers of records are not compared. -/
theorem exists_opened [Host] (hLies : w.LiesAt disk p before folder stem)
    {geometries : List (Option Geometry)} {records : List (List UInt8)}
    (hShapes : (disk.content w.shapes.shapesFile.id).toList = f.shapesFile geometries)
    (hIndex : (disk.content w.shapes.indexFile.id).toList = f.indexFile geometries)
    (hTable : (disk.content w.table.file.id).toList = h.fileOf records) (hTight : h.Tight)
    (hCount : h.recordCount < 2 ^ 31) (hHeader : h.headerLength < 2 ^ 16)
    (hRecord : h.recordLength < 2 ^ 16) (hUnopened : d.state = .unopened)
    (hForced : d.options.forcedCodePage = none) (hTrusting : d.options.validateCounts = false) :
    ∃ opened, d.openForReading disk p none = .ok opened := by
  obtain ⟨hShp, hShx, hDbf, _⟩ := plain_companions
  obtain ⟨hShapesFile, hIndexFile, hTableFile⟩ := w.mem_files
  obtain ⟨projection, codePage, hProjection, hCodePage, hFind⟩ := hLies.find_companions
  obtain ⟨srid, hSrid⟩ := resolveSrid_ok hLies.place hProjection d.srid
  have hFindShapes := hLies.find_eq hShp hShapesFile
  rw [← hLies.place.path.eq_beside] at hFindShapes
  obtain ⟨_, _, _, _, _, _, hReaders⟩ := openFiles_eq
    ⟨p, beside before stem "shx", beside before stem "dbf", projection, codePage⟩ hFindShapes
    (hLies.find_eq hShx hIndexFile) (hLies.find_eq hDbf hTableFile) hShapes hIndex hTable hTight
    hCount hHeader hRecord d.options (Companions.namedPage? disk p)
  rw [if_neg (by simp [hTrusting])] at hReaders
  have hChecked : d.checkUnopened = .ok () := by
    rw [checkUnopened, hUnopened]
  rw [openForReading, hChecked, hFind]
  simp only [ok_bind, hForced, Option.none_or, Companions.resolveCodePage_eq hLies.place hCodePage,
    hReaders, hSrid]
  exact ⟨_, rfl⟩

/-- The code page in which a dataset of this page is read, where an earlier
code page file names that one. -/
def resolvedPage (page : CodePage) (earlier : Option CodePage) : CodePage :=
  if page = .replacement then .standard
  else if page = .standard then earlier.getD .standard
  else page

theorem resolvedPage_eq_iff {page : CodePage} {earlier : Option CodePage} :
    resolvedPage page earlier = page ↔ page ≠ .replacement ∧
      (page = .standard → ∀ other, earlier = some other → other = .standard) := by
  rw [resolvedPage]
  by_cases hReplacement : page = .replacement
  · rw [if_pos hReplacement, hReplacement]
    simp [CodePage.standard]
  · rw [if_neg hReplacement]
    by_cases hStandard : page = .standard
    · rw [if_pos hStandard, hStandard]
      cases earlier <;> simp [CodePage.standard]
    · simp [hStandard, hReplacement]

/-- What the code page file and the language driver of a page make of it. -/
theorem resolvedPage_of_label {label : List Char} {page : CodePage}
    (hLabel : CodePage.ofLabel? label = some page) (earlier : Option CodePage) :
    ((if page.isStandard then earlier else CodePage.ofFile? (labelBytes page)).or
      (CodePage.ofLanguageDriver? page.languageDriver)).getD .standard =
        resolvedPage page earlier := by
  have hDriver : CodePage.ofLanguageDriver? CodePage.standard.languageDriver =
      some CodePage.standard := by decide
  have hNone : CodePage.ofLanguageDriver? CodePage.replacement.languageDriver = none := by decide
  rw [CodePage.ofFile?_labelBytes page (CodePage.mem_registry_of_label hLabel), resolvedPage,
    CodePage.isStandard]
  by_cases hReplacement : page = .replacement
  · rw [hReplacement, hNone]
    rfl
  · by_cases hStandard : page = .standard
    · rw [hStandard, hDriver]
      cases earlier <;> rfl
    · simp [hReplacement, hStandard]

/-- A dataset is read in the code page it was created with, unless no code page
file says so. Whatever was in the folder, once a dataset has been created
there, given any rows and closed, opening it without a label answers with its
own page if that is neither the standard one nor the replacement. The standard
page is not written down, so a code page file of an earlier dataset that names
another page is believed in its stead; and the replacement is written down
under a name that is no label, and is read as the standard page. Opening does
succeed if the header was built column by column, its lengths and its count fit
their words, and the numbers of records are not compared. Left out are paths
like `..x/` with a lone point for a stem, for which reading takes any index and
table in other letters that the folder lists first. -/
theorem resolved_page_iff [Host] {disk : Disk} (hSound : disk.Sound) {path : Path}
    (hStem : path.stem? ≠ some ".") {label : List Char} {h : TableHeader}
    (hLabel : CodePage.ofLabel? label = some h.codePage) {created : Dataset} {first : Disk}
    (hCreate : runOn (d.create path (.record f) h) disk = (.ok created, first))
    (inputs : List (List Value)) :
    ∃ closed last,
      runOn (created.insertAll first inputs).2.1.close (created.insertAll first inputs).2.2 =
        (.ok closed, last) ∧
      ∀ reading : Dataset, reading.state = .unopened → reading.options.forcedCodePage = none →
        let shapes := path.withExtension "shp"
        let earlier := Companions.namedPage? disk shapes
        (∀ opened, reading.openForReading last shapes none = .ok opened →
          ∃ header, opened.tableHeader? = some header ∧
            header.codePage = resolvedPage h.codePage earlier ∧
            (header.codePage = h.codePage ↔ h.codePage ≠ .replacement ∧
              (h.codePage = .standard → ∀ page, earlier = some page → page = .standard))) ∧
        (h.Edited → h.headerLength ≤ 65535 → h.recordLength ≤ 65535 →
          h.recordCount < 2 ^ 31 → reading.options.validateCounts = false →
            ∃ opened, reading.openForReading last shapes none = .ok opened) := by
  obtain ⟨before, folder, stem, middle, w, hPage, hKept, hLies, hWrites, hHolds⟩ :=
    created_files hSound hStem hCreate
  obtain ⟨rows, next, _, hLastWrites, hLast, hFiles, hChanged⟩ := hWrites.insertAll hHolds inputs
  have hFilled := hLies.of_changedIn hChanged hFiles
  obtain ⟨hShapes, hIndex, hTable, hClosing⟩ := hLast.close
  have hClosed := hFilled.of_changedIn hClosing rfl
  have hAll := (hKept.trans (hLies.kept hChanged)).trans (hFilled.kept hClosing)
  have hNamed : Companions.namedPage? (next.close (created.insertAll first inputs).2.2)
      (path.withExtension "shp") =
        if h.codePage.isStandard then Companions.namedPage? disk (path.withExtension "shp")
        else CodePage.ofFile? (labelBytes h.codePage) := by
    rw [Companions.namedPage?_kept (hAll.place_iff.mp hClosed.place) hAll
      (foreign_datasetNames folder stem)]
    rcases hPage with ⟨hStandard, rfl⟩ | ⟨hOther, hFile⟩
    · rw [hStandard, if_pos rfl]
    · rw [hOther, if_neg (by decide),
        Companions.namedPage?_of_file (hAll.place_iff.mp hClosed.place) hFile]
  refine ⟨_, _, hLastWrites.close _, fun reading hUnopened hForced => ⟨fun opened hOpen => ?_, ?_⟩⟩
  · obtain ⟨header, hHeader, hCodePage⟩ := opened_codePage hClosed hTable hForced hOpen
    rw [hNamed, resolvedPage_of_label hLabel] at hCodePage
    refine ⟨header, hHeader, hCodePage, ?_⟩
    rw [hCodePage]
    exact resolvedPage_eq_iff
  · intro hEdited hHeader hRecord hCount hTrusting
    exact exists_opened hClosed hShapes hIndex hTable hEdited.laid.tight hCount
      (Nat.lt_succ_of_le hHeader) (Nat.lt_succ_of_le hRecord) hUnopened hForced hTrusting

/-- What an earlier dataset has in its code page file. -/
def townsLabel : Bytes := (Utf8.encode "utf-8".toList).toArray

/-- A folder in which only this file is left of the earlier dataset. -/
def labelledFolder : Disk := ⟨[(["towns.cpg"], .file 0)], #[townsLabel]⟩

theorem labelledFolder_sound : labelledFolder.Sound := by
  have hSaved : ({} : Disk).save ⟨"towns.cpg"⟩ townsLabel = .ok labelledFolder := by
    decide +kernel
  obtain ⟨_, _, _, hPut⟩ := Disk.save_ok Disk.sound_empty hSaved
  exact hPut.sound

/-- The page of a dataset replaces the one that the earlier dataset named. -/
theorem resolved_page_replaces_earlier : ∃ created first closed last opened header,
    runOn (({} : Dataset).create townsPath (.record ⟨.point, .plane⟩)
      { townsHeader with codePage := .single .windows1251 }) labelledFolder = (.ok created, first) ∧
    runOn (created.insertAll first townRows).2.1.close (created.insertAll first townRows).2.2 =
      (.ok closed, last) ∧
    ({} : Dataset).openForReading last (townsPath.withExtension "shp") none = .ok opened ∧
    opened.tableHeader? = some header ∧ header.codePage = .single .windows1251 := by
  rcases hCreate : runOn (({} : Dataset).create townsPath (.record ⟨.point, .plane⟩)
    { townsHeader with codePage := .single .windows1251 }) labelledFolder with ⟨result, first⟩
  have hOk : (runOn (({} : Dataset).create townsPath (.record ⟨.point, .plane⟩)
      { townsHeader with codePage := .single .windows1251 }) labelledFolder).1.isOk = true := by
    decide +kernel
  rw [hCreate] at hOk
  cases result with
  | error e => cases hOk
  | ok created =>
      have hLabel : CodePage.ofLabel? "ANSI 1251".toList = some (.single .windows1251) := by
        decide +kernel
      obtain ⟨closed, last, hClose, hReading⟩ :=
        resolved_page_iff labelledFolder_sound (by decide +kernel) hLabel hCreate townRows
      obtain ⟨hPage, hOpens⟩ := hReading {} rfl rfl
      obtain ⟨opened, hOpen⟩ := hOpens (townsHeader_built.edited.page _) (by decide) (by decide)
        (by decide) rfl
      obtain ⟨header, hHeader, hCodePage, _⟩ := hPage opened hOpen
      exact ⟨created, first, closed, last, opened, header, rfl, hClose, hOpen, hHeader, hCodePage⟩

/-- What a dataset of one row is read back as, by its code page and its row. -/
def readBack [Host] (disk : Disk) (path : Path) (h : TableHeader) (values : List Value) :
    Option (CodePage × Except DatasetError (List Value)) :=
  match runOn (({} : Dataset).create path (.record ⟨.point, .plane⟩) h) disk with
  | (.error _, _) => none
  | (.ok created, first) =>
    let inserted := created.insertAll first [values]
    match runOn inserted.2.1.close inserted.2.2 with
    | (.error _, _) => none
    | (.ok _, last) =>
      match ({} : Dataset).openForReading last (path.withExtension "shp") none with
      | .error _ => none
      | .ok opened =>
        opened.tableHeader?.map fun header => (header.codePage, (runOn (row last 0) opened).1)

/-- A town of this name at some point. -/
def townOf (name : String) : List Value :=
  [.geometry { shape := .point ⟨absent, absent, absent⟩ }, .varchar name]

/-- A dataset of the standard page is read in the page of the earlier one, and
its text is not what was inserted. In an empty folder it is. -/
theorem earlier_page_believed :
    labelledFolder.Sound ∧ CodePage.ofLabel? "windows-1252".toList = some townsHeader.codePage ∧
      readBack labelledFolder townsPath { townsHeader with recordCount := 1 } (townOf "Orlé") =
        some (.utf8, .ok (townOf "Orl\uFFFD")) ∧
      readBack {} townsPath { townsHeader with recordCount := 1 } (townOf "Orlé") =
        some (.standard, .ok (townOf "Orlé")) :=
  ⟨labelledFolder_sound, by decide +kernel, by decide +kernel, by decide +kernel⟩

end Dataset

end Shapefile
