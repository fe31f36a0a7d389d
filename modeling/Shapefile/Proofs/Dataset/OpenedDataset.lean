import Shapefile.Proofs.Dataset.Opening
import Shapefile.Proofs.Dataset.WrittenDataset
import Shapefile.Proofs.Shape.WrittenFiles

/-! A dataset that is opened on the three layouts of its rows. Whatever has
been read before, a row is answered with its geometry and its attributes as
their formats give them back, unless a row before it has a geometry that is so
long that the index has no place for what is behind it. -/
namespace Shapefile

namespace StoredRow

variable {f : RecordFormat} {h : TableHeader} {index : Nat}

/-- Rows whose header counts them, and whose files are not too large to say
how large they are. -/
structure Readable [Host] (rows : List (StoredRow f h index)) : Prop where
  laid : h.Laid
  page_eq : h.codePage = .standard
  count_eq : h.recordCount = rows.length
  count_lt : rows.length < 2 ^ 31
  header_lt : h.headerLength < 2 ^ 16
  record_lt : h.recordLength < 2 ^ 16
  index_le : index ≤ h.fieldCount
  offset_lt : f.wordOffset (geometries rows) < 2 ^ 31

theorem takes_of_mem [Host] {rows : List (StoredRow f h index)} {record : Option Geometry}
    (hRecord : record ∈ geometries rows) : f.Takes record := by
  obtain ⟨row, _, rfl⟩ := List.mem_map.mp hRecord
  exact row.takes

/-- The index of rows says how long it is. -/
theorem Readable.entries_lt [Host] {rows : List (StoredRow f h index)} (hRows : Readable rows) :
    RecordFormat.indexBytes (geometries rows) < 2 ^ 31 :=
  RecordFormat.indexBytes_lt_of_geometries (fun _ => takes_of_mem) (by simp [geometries])
    hRows.offset_lt

/-- All geometries before a row are shorter than 2 ^ 31 bytes. -/
def NarrowBefore [Host] (rows : List (StoredRow f h index)) (i : Nat) : Prop :=
  ∀ record ∈ (geometries rows).take i, f.Narrow record

/-- The index has a negative offset behind a geometry that is too long. -/
theorem Readable.storedOffset_neg [Host] {rows : List (StoredRow f h index)} (hRows : Readable rows)
    {i : Nat} (hWide : ¬NarrowBefore rows i) :
    f.storedOffset ((geometries rows).take i) < 0 := by
  have hLess := f.wordOffset_take_le (geometries rows) i
  have hSmall := hRows.offset_lt
  have hTakes : ∀ record ∈ (geometries rows).take i, f.Takes record :=
    fun _ hMember => takes_of_mem (List.mem_of_mem_take hMember)
  have hValue := RecordFormat.toInt_storedOffset hTakes (by omega)
  rw [if_neg (by exact hWide)] at hValue
  rw [Int32.lt_iff_toInt_lt, hValue]
  change _ < (0 : Int)
  omega

end StoredRow

namespace DatasetReader

/-- The three readers are open on the layouts of these rows. -/
structure Shows [Host] (r : DatasetReader) (disk : Disk) {f : RecordFormat} {h : TableHeader}
    {index : Nat} (rows : List (StoredRow f h index)) : Prop where
  shapes_content : (disk.content r.shapesFile).toList = f.shapesFile (StoredRow.geometries rows)
  index_content : (disk.content r.indexFile).toList = f.indexFile (StoredRow.geometries rows)
  table_content : (disk.content r.table.file).toList = h.fileOf (StoredRow.records rows)
  shapes : r.shapes.Shows (disk.content r.shapesFile) f
  index : r.index.Shows (disk.content r.indexFile) f (StoredRow.geometries rows)
  table : r.table.reader.Shows (disk.content r.table.file) h none

end DatasetReader

namespace Dataset

/-- A dataset that is being read, with its geometry in this column and no
spatial reference. -/
structure Reads [Host] (d : Dataset) (disk : Disk) {f : RecordFormat} {h : TableHeader}
    {index : Nat} (rows : List (StoredRow f h index)) : Prop where
  state : ∃ r, d.state = .reading r ∧ r.Shows disk rows
  index_eq : d.geometryIndex = index
  srid_eq : d.srid = 0

variable [Host] {d : Dataset} {disk : Disk} {f : RecordFormat} {h : TableHeader} {index : Nat}
  {rows : List (StoredRow f h index)}

/-- Rows that are counted pass the check, others do not. -/
theorem Reads.checkRow_eq (hReads : d.Reads disk rows) (hRows : StoredRow.Readable rows)
    (i : Nat) :
    runOn (checkRow i) d =
      (if rows.length ≤ i then .error (.rowOutOfRange i rows.length) else .ok index, d) := by
  obtain ⟨r, hState, hShows⟩ := hReads.state
  have hCount : d.rowCount = rows.length := by
    rw [rowCount, hState]
    exact (congrArg TableHeader.recordCount hShows.table.header_eq).trans hRows.count_eq
  have hFields : d.fieldCount = h.fieldCount + 1 := by
    rw [fieldCount, tableHeader?, hState]
    simp only [hShows.table.header_eq, TableHeader.fieldCount, TableHeader.reread, List.length_map]
  have hColumn : ¬d.fieldCount ≤ d.geometryIndex := by
    rw [hFields, hReads.index_eq]
    exact Nat.not_le_of_lt (Nat.lt_succ_of_le hRows.index_le)
  rw [checkRow, runOn_bind, runOn_reader hState]
  simp only
  rw [runOn_bind, runOn_get]
  simp only [hCount, if_neg hColumn]
  split
  · rfl
  · rw [hReads.index_eq]
    rfl

/-- Other windows on the same files show the same rows. -/
theorem Reads.of_shows (hReads : d.Reads disk rows) {r : DatasetReader}
    (hShows : r.Shows disk rows) : ({ d with state := .reading r } : Dataset).Reads disk rows :=
  ⟨⟨r, rfl, hShows⟩, hReads.index_eq, hReads.srid_eq⟩

/-- A geometry is read as its format gives it back. -/
theorem Reads.readGeometry (hReads : d.Reads disk rows) (hRows : StoredRow.Readable rows)
    {i : Nat} {row : StoredRow f h index} (hRow : rows[i]? = some row)
    (hNarrow : StoredRow.NarrowBefore rows i) :
    ∃ back next, f.readPayload row.geometry = .ok (some back) ∧
      runOn (Dataset.readGeometry disk i) d = (.ok (.geometry { back with srid := 0 }), next) ∧
      next.Reads disk rows := by
  obtain ⟨r, hState, hShows⟩ := hReads.state
  have hRecord : (StoredRow.geometries rows)[i]? = some (some row.geometry) := by
    rw [StoredRow.geometries, List.getElem?_map, hRow]
    rfl
  have hTakes : ∀ record ∈ StoredRow.geometries rows, f.Takes record :=
    fun _ => StoredRow.takes_of_mem
  obtain ⟨hFound, _, hWritten⟩ := RecordFormat.record_found hShows.index hShows.shapes
    hShows.index_content hShows.shapes_content hTakes hRows.offset_lt hRows.entries_lt hRecord
  rw [if_pos (by exact hNarrow)] at hFound
  obtain ⟨back, hBack, hGeometry⟩ := hWritten row.geometry rfl
  generalize 2 * f.wordOffset ((StoredRow.geometries rows).take i) = offset at hFound hGeometry
  have hIndexNext := hShows.index.byteOffset_shows hShows.index_content hRows.entries_lt i
  have hShapesNext := hShows.shapes.geometryAt_shows offset
  let looked : DatasetReader :=
    { r with index := (r.index.byteOffset (disk.content r.indexFile) i).2 }
  let read : DatasetReader :=
    { looked with shapes := (r.shapes.geometryAt (disk.content r.shapesFile) offset).2 }
  have hRead : read.Shows disk rows :=
    ⟨hShows.shapes_content, hShows.index_content, hShows.table_content, hShapesNext, hIndexNext,
      hShows.table⟩
  refine ⟨back, { d with state := .reading read }, hBack, ?_, hReads.of_shows hRead⟩
  rw [Dataset.readGeometry, runOn_bind, runOn_reader hState]
  simp only
  rw [runOn_bind, runOn_keep]
  simp only [hFound, Except.mapError]
  rw [runOn_bind, runOn_lift]
  simp only
  rw [runOn_bind, runOn_keep]
  simp only [hGeometry]
  rw [runOn_bind, runOn_lift]
  simp only
  rw [runOn_bind, runOn_get]
  simp only [runOn_pure, hReads.srid_eq]
  rfl

/-- Behind a geometry that is too long no geometry is found. -/
theorem Reads.readGeometry_hidden (hReads : d.Reads disk rows) (hRows : StoredRow.Readable rows)
    {i : Nat} {row : StoredRow f h index} (hRow : rows[i]? = some row)
    (hWide : ¬StoredRow.NarrowBefore rows i) :
    ∃ next, runOn (Dataset.readGeometry disk i) d =
        (.error (.shape (.malformed (.negativeOffset i
          (f.storedOffset ((StoredRow.geometries rows).take i))))), next) ∧
      next.Reads disk rows := by
  obtain ⟨r, hState, hShows⟩ := hReads.state
  have hRecord : (StoredRow.geometries rows)[i]? = some (some row.geometry) := by
    rw [StoredRow.geometries, List.getElem?_map, hRow]
    rfl
  obtain ⟨hFound, _⟩ := RecordFormat.record_found hShows.index hShows.shapes
    hShows.index_content hShows.shapes_content (fun _ => StoredRow.takes_of_mem)
    hRows.offset_lt hRows.entries_lt hRecord
  rw [if_neg (by exact hWide)] at hFound
  have hIndexNext := hShows.index.byteOffset_shows hShows.index_content hRows.entries_lt i
  let looked : DatasetReader :=
    { r with index := (r.index.byteOffset (disk.content r.indexFile) i).2 }
  have hLooked : looked.Shows disk rows :=
    ⟨hShows.shapes_content, hShows.index_content, hShows.table_content, hShows.shapes, hIndexNext,
      hShows.table⟩
  refine ⟨{ d with state := .reading looked }, ?_, hReads.of_shows hLooked⟩
  rw [Dataset.readGeometry, runOn_bind, runOn_reader hState]
  simp only
  rw [runOn_bind, runOn_keep]
  simp only [hFound, Except.mapError]
  rw [runOn_bind, runOn_lift]

/-- Attributes are read as their fields give them back. -/
theorem Reads.readAttributes (hReads : d.Reads disk rows) (hRows : StoredRow.Readable rows)
    {i : Nat} {row : StoredRow f h index} (hRow : rows[i]? = some row) :
    ∃ backs next, h.readBackRow row.attributes = .ok backs ∧
      runOn (Dataset.readAttributes disk i) d = (.ok backs, next) ∧ next.Reads disk rows := by
  obtain ⟨r, hState, hShows⟩ := hReads.state
  obtain ⟨_, backs, hBacks, _⟩ := TableHeader.encodeRow_readBack hRows.laid row.encode_eq
  have hRecord : (StoredRow.records rows)[i]? = some row.record := by
    rw [StoredRow.records, List.getElem?_map, hRow]
    rfl
  have hRecords : ∀ record ∈ StoredRow.records rows, record.length = h.recordLength := by
    intro record hMember
    obtain ⟨other, _, rfl⟩ := List.mem_map.mp hMember
    exact (TableHeader.encodeRow_readBack hRows.laid other.encode_eq).1
  have hPage : h.codePage = (h.reread none).codePage := by
    rw [TableHeader.reread_codePage hRows.page_eq, hRows.page_eq]
  have hInside : i < h.recordCount := by
    rw [hRows.count_eq]
    exact (List.getElem?_eq_some_iff.mp hRow).1
  have hValues := hShows.table.row_eq hRows.laid hPage hRecords hShows.table_content hRecord
    hInside row.encode_eq
  have hTable := hShows.table.row_shows i
  let read : DatasetReader := { r with table := (r.table.row disk i).2 }
  have hRead : read.Shows disk rows :=
    ⟨hShows.shapes_content, hShows.index_content, hShows.table_content, hShows.shapes,
      hShows.index, hTable⟩
  refine ⟨backs, { d with state := .reading read }, hBacks, ?_, hReads.of_shows hRead⟩
  have hRow : (r.table.row disk i).1 = .ok backs := hValues.trans hBacks
  rw [Dataset.readAttributes, runOn_bind, runOn_reader hState]
  simp only
  rw [runOn_bind, runOn_keep]
  simp only [hRow, Except.mapError]
  rw [runOn_lift]

/-- A row is its attributes with its geometry among them, both read back. -/
theorem Reads.row_eq (hReads : d.Reads disk rows) (hRows : StoredRow.Readable rows)
    {i : Nat} {stored : StoredRow f h index} (hRow : rows[i]? = some stored)
    (hNarrow : StoredRow.NarrowBefore rows i) :
    ∃ back backs next, f.readPayload stored.geometry = .ok (some back) ∧
      h.readBackRow stored.attributes = .ok backs ∧
      runOn (row disk i) d =
        (.ok (Row.splice (.geometry { back with srid := 0 }) backs index), next) ∧
      next.Reads disk rows := by
  have hInside : ¬rows.length ≤ i := Nat.not_le_of_lt (List.getElem?_eq_some_iff.mp hRow).1
  have hChecked := hReads.checkRow_eq hRows i
  rw [if_neg hInside] at hChecked
  obtain ⟨back, middle, hBack, hGeometry, hMiddle⟩ :=
    hReads.readGeometry hRows hRow hNarrow
  obtain ⟨backs, next, hBacks, hAttributes, hNext⟩ := hMiddle.readAttributes hRows hRow
  refine ⟨back, backs, next, hBack, hBacks, ?_, hNext⟩
  rw [row, runOn_bind, hChecked]
  simp only
  rw [runOn_bind, hGeometry]
  simp only
  rw [runOn_bind, hAttributes]
  rfl

/-- A row behind a geometry that is too long is refused. -/
theorem Reads.row_hidden (hReads : d.Reads disk rows) (hRows : StoredRow.Readable rows)
    {i : Nat} {stored : StoredRow f h index} (hRow : rows[i]? = some stored)
    (hWide : ¬StoredRow.NarrowBefore rows i) :
    ∃ next, runOn (row disk i) d =
        (.error (.shape (.malformed (.negativeOffset i
          (f.storedOffset ((StoredRow.geometries rows).take i))))), next) ∧
      next.Reads disk rows := by
  have hInside : ¬rows.length ≤ i := Nat.not_le_of_lt (List.getElem?_eq_some_iff.mp hRow).1
  have hChecked := hReads.checkRow_eq hRows i
  rw [if_neg hInside] at hChecked
  obtain ⟨next, hGeometry, hNext⟩ := hReads.readGeometry_hidden hRows hRow hWide
  refine ⟨next, ?_, hNext⟩
  rw [row, runOn_bind, hChecked]
  simp only
  rw [runOn_bind, hGeometry]

/-- A row that is not there is refused. -/
theorem Reads.row_outside (hReads : d.Reads disk rows) (hRows : StoredRow.Readable rows)
    {i : Nat} (hOutside : rows.length ≤ i) :
    runOn (row disk i) d = (.error (.rowOutOfRange i rows.length), d) := by
  have hChecked := hReads.checkRow_eq hRows i
  rw [if_pos hOutside] at hChecked
  rw [row, runOn_bind, hChecked]

/-- A dataset after some rows were asked for, there or not. -/
def afterRows (d : Dataset) (disk : Disk) (requests : List Nat) : Dataset :=
  requests.foldl (fun d i => (runOn (row disk i) d).2) d

theorem Reads.row (hReads : d.Reads disk rows) (hRows : StoredRow.Readable rows) (i : Nat) :
    (runOn (Dataset.row disk i) d).2.Reads disk rows := by
  cases hRow : rows[i]? with
  | none =>
      rw [hReads.row_outside hRows (List.getElem?_eq_none_iff.mp hRow)]
      exact hReads
  | some stored =>
      by_cases hNarrow : StoredRow.NarrowBefore rows i
      · obtain ⟨_, _, next, _, _, hAnswer, hNext⟩ := hReads.row_eq hRows hRow hNarrow
        rw [hAnswer]
        exact hNext
      · obtain ⟨next, hAnswer, hNext⟩ := hReads.row_hidden hRows hRow hNarrow
        rw [hAnswer]
        exact hNext

/-- Asking for rows keeps a dataset that is being read on its rows. -/
theorem Reads.afterRows (hReads : d.Reads disk rows) (hRows : StoredRow.Readable rows)
    (requests : List Nat) : (d.afterRows disk requests).Reads disk rows := by
  induction requests generalizing d with
  | nil => exact hReads
  | cons i requests ih => exact ih (hReads.row hRows i)

/-! ### Opening -/

/-- Readers of any window sizes can be opened on the layouts of the rows. -/
theorem openFiles_shows {path : Path} {before folder : List String} {stem : String}
    {shapesId indexId tableId : FileId}
    (hSite : disk.Site path before folder stem
      [("shp", shapesId), ("shx", indexId), ("dbf", tableId)])
    (hShapes : (disk.content shapesId).toList = f.shapesFile (StoredRow.geometries rows))
    (hIndex : (disk.content indexId).toList = f.indexFile (StoredRow.geometries rows))
    (hTable : (disk.content tableId).toList = h.fileOf (StoredRow.records rows))
    (hRows : StoredRow.Readable rows) (options : DatasetOptions) :
    ∃ r, openFiles disk options
      { shapes := path
        index := Path.beside before stem "shx"
        table := Path.beside before stem "dbf" } none = .ok r ∧ r.Shows disk rows := by
  obtain ⟨hShp, hShx, hDbf, _⟩ := Path.plain_companions
  have hFindShapes : disk.find path = .ok shapesId := by
    rw [hSite.path.eq_beside]
    exact hSite.find_eq hShp rfl
  have hFindIndex : disk.find (Path.beside before stem "shx") = .ok indexId :=
    hSite.find_eq hShx rfl
  have hFindTable : disk.find (Path.beside before stem "dbf") = .ok tableId :=
    hSite.find_eq hDbf rfl
  let files : Companions :=
    { shapes := path
      index := Path.beside before stem "shx"
      table := Path.beside before stem "dbf" }
  obtain ⟨shapes, index, table, hShapesShow, hIndexShows, hTableShows, hOpen⟩ :=
    openFiles_eq files hFindShapes hFindIndex hFindTable hShapes hIndex hTable
      hRows.laid.tight (hRows.count_eq ▸ hRows.count_lt) hRows.header_lt hRows.record_lt options
      none
  have hInIndex : index.recordCount = h.recordCount := by
    rw [hIndexShows.recordCount_eq hRows.entries_lt, StoredRow.geometries, List.length_map,
      hRows.count_eq]
  rw [if_neg fun hOther => hOther.1 hInIndex] at hOpen
  exact ⟨_, hOpen, ⟨hShapes, hIndex, hTable, hShapesShow, hIndexShows, hTableShows⟩⟩

/-- Opening succeeds on the three layouts, without a label. -/
theorem openForReading_reads {path : Path} {before folder : List String} {stem : String}
    {shapesId indexId tableId : FileId}
    (hSite : disk.Site path before folder stem
      [("shp", shapesId), ("shx", indexId), ("dbf", tableId)])
    (hShapes : (disk.content shapesId).toList = f.shapesFile (StoredRow.geometries rows))
    (hIndex : (disk.content indexId).toList = f.indexFile (StoredRow.geometries rows))
    (hTable : (disk.content tableId).toList = h.fileOf (StoredRow.records rows))
    (hRows : StoredRow.Readable rows) (hState : d.state = .unopened)
    (hForced : d.options.forcedCodePage = none) (hColumn : d.geometryIndex = index)
    (hSrid : d.srid = 0) :
    ∃ opened, d.openForReading disk path none = .ok opened ∧ opened.Reads disk rows ∧
      opened.rowCount = rows.length := by
  obtain ⟨r, hOpened, hShows⟩ :=
    openFiles_shows hSite hShapes hIndex hTable hRows d.options
  have hUnopened : d.checkUnopened = .ok () := by
    rw [checkUnopened, hState]
  let files : Companions := ⟨path, Path.beside before stem "shx", Path.beside before stem "dbf",
    none, none⟩
  refine ⟨{ d with state := .reading r, files := some files }, ?_,
    ⟨⟨r, rfl, hShows⟩, hColumn, hSrid⟩, ?_⟩
  · rw [openForReading, hUnopened, Companions.find_of_site hSite, hForced]
    simp only [ok_bind, Option.none_or, resolveCodePage, hOpened, resolveSrid]
    rfl
  · exact (congrArg TableHeader.recordCount hShows.table.header_eq).trans hRows.count_eq

end Dataset

end Shapefile
