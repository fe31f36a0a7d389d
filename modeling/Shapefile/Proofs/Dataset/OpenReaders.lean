import Shapefile.Proofs.Dataset.LifeCycle
import Shapefile.Proofs.Dataset.RandomAccess

/-! Datasets on any files that can be opened. Whatever is called on one, its
readers of shape file and table stand for the files until it is closed, and no
file is changed. -/
namespace Shapefile

theorem ShapeReader.openOn_of_onChannel {channel : Bytes} {capacity : Nat} {r : ShapeReader}
    (hOpened : onChannel channel capacity = .ok r) : r.OpenOn channel := by
  rcases onChannel_cases channel capacity with ⟨other, hOther, hOpen⟩ | ⟨e, hFailed, _⟩
  · rw [hOpened] at hOther
    cases hOther
    exact hOpen
  · rw [hOpened] at hFailed
    cases hFailed

theorem TableReader.openOn_of_onChannel {channel : Bytes} {capacity : Nat}
    {forced : Option Text.CodePage} {r : TableReader}
    (hOpened : onChannel channel capacity forced = .ok r) : r.OpenOn channel forced := by
  rcases onChannel_cases channel capacity forced with ⟨other, hOther, hOpen⟩ | ⟨e, hFailed, _⟩
  · rw [hOpened] at hOther
    cases hOther
    exact hOpen
  · rw [hOpened] at hFailed
    cases hFailed

namespace DatasetReader

/-- The readers of shape file and table stand for the files. -/
structure OpenOn (r : DatasetReader) (disk : Disk) : Prop where
  shapes : r.shapes.OpenOn (disk.content r.shapesFile)
  table : ∃ forced, r.table.reader.OpenOn (disk.content r.table.file) forced

/-- The geometry of a row, and the reader with what was looked up and read. -/
def geometry (r : DatasetReader) (disk : Disk) (row : Nat) :
    Except DatasetError (Option Geometry) × DatasetReader :=
  match r.index.byteOffset (disk.content r.indexFile) row with
  | (.error e, index) => (.error (.shape e), { r with index })
  | (.ok offset, index) =>
    let (geometry, shapes) := r.shapes.geometryAt (disk.content r.shapesFile) offset
    (geometry.mapError .shape, { r with index, shapes })

variable {r : DatasetReader} {disk : Disk}

theorem table_geometry (r : DatasetReader) (disk : Disk) (row : Nat) :
    (r.geometry disk row).2.table = r.table := by
  rw [geometry]
  split
  · rfl
  · rfl

theorem OpenOn.geometry (hOpen : r.OpenOn disk) (row : Nat) :
    (r.geometry disk row).2.OpenOn disk := by
  rw [DatasetReader.geometry]
  split
  next => exact ⟨hOpen.shapes, hOpen.table⟩
  next => exact ⟨(hOpen.shapes.geometryAt _).2, hOpen.table⟩

theorem OpenOn.row [Host] (hOpen : r.OpenOn disk) (row : Nat) :
    ({ r with table := (r.table.row disk row).2 } : DatasetReader).OpenOn disk := by
  obtain ⟨forced, hTable⟩ := hOpen.table
  exact ⟨hOpen.shapes, forced, (hTable.row row).2⟩

theorem OpenOn.cell [Host] (hOpen : r.OpenOn disk) (row column : Nat) :
    ({ r with table := (r.table.cell disk row column).2 } : DatasetReader).OpenOn disk := by
  obtain ⟨forced, hTable⟩ := hOpen.table
  exact ⟨hOpen.shapes, forced, (hTable.cell row column).2⟩

end DatasetReader

namespace Dataset

/-! ### What a query does to the reader -/

/-- The value of a geometry column. -/
def stamped (srid : Int32) : Option Geometry → Value
  | some g => .geometry { g with srid }
  | none => .null

variable {d : Dataset} {r : DatasetReader} {disk : Disk}

theorem runOn_readGeometry (hState : d.state = .reading r) (row : Nat) :
    runOn (readGeometry disk row) d =
      ((r.geometry disk row).1.map (stamped d.srid),
        { d with state := .reading (r.geometry disk row).2 }) := by
  rw [readGeometry, runOn_bind, runOn_reader hState, DatasetReader.geometry]
  simp only [runOn_bind, runOn_keep, runOn_lift]
  rcases r.index.byteOffset (disk.content r.indexFile) row with ⟨e | offset, index⟩
  · rfl
  · simp only [Except.mapError]
    rcases r.shapes.geometryAt (disk.content r.shapesFile) offset with ⟨e | found, shapes⟩
    · rfl
    · cases found with
      | none => rfl
      | some g => rfl

theorem runOn_readAttributes [Host] (hState : d.state = .reading r) (row : Nat) :
    runOn (readAttributes disk row) d =
      ((r.table.row disk row).1.mapError .table,
        { d with state := .reading { r with table := (r.table.row disk row).2 } }) := by
  rw [readAttributes, runOn_bind, runOn_reader hState]
  simp only [runOn_bind, runOn_keep, runOn_lift]

theorem runOn_readAttribute [Host] (hState : d.state = .reading r) (row column : Nat) :
    runOn (readAttribute disk row column) d =
      ((r.table.cell disk row column).1.mapError .table,
        { d with state := .reading { r with table := (r.table.cell disk row column).2 } }) := by
  rw [readAttribute, runOn_bind, runOn_reader hState]
  simp only [runOn_bind, runOn_keep, runOn_lift]

theorem runOn_checkRow (hState : d.state = .reading r) (row : Nat) :
    runOn (checkRow row) d =
      (if d.rowCount ≤ row then .error (.rowOutOfRange row d.rowCount)
        else if d.fieldCount ≤ d.geometryIndex then
          .error (.state (.geometryIndex d.geometryIndex d.fieldCount))
        else .ok d.geometryIndex, d) := by
  rw [checkRow, runOn_bind, runOn_reader hState]
  simp only [runOn_bind, runOn_get]
  split
  · rfl
  · split
    · rfl
    · rfl

theorem checkRow_ok (hState : d.state = .reading r) {row index : Nat} {next : Dataset}
    (hOk : runOn (checkRow row) d = (.ok index, next)) :
    next = d ∧ index = d.geometryIndex ∧ d.geometryIndex < d.fieldCount := by
  rw [runOn_checkRow hState] at hOk
  obtain ⟨hChecked, rfl⟩ := Prod.mk.inj hOk
  split_ifs at hChecked with hRow hColumn
  exact ⟨rfl, (Except.ok.inj hChecked).symm, Nat.lt_of_not_le hColumn⟩

/-! ### Any calls before -/

/-- The dataset is being read, and shape file and table stand for the files. -/
def StandsFor (d : Dataset) (disk : Disk) : Prop := ∃ r, d.state = .reading r ∧ r.OpenOn disk

/-- A query leaves the dataset standing for the files. -/
def KeepsOpen {α : Type} (disk : Disk) (query : Query α) : Prop :=
  ∀ d, d.StandsFor disk → (runOn query d).2.StandsFor disk

section KeepsOpen

variable {α β : Type}

/-- What does not change the dataset keeps it. -/
theorem KeepsOpen.of_same {query : Query α} (hSame : ∀ d, (runOn query d).2 = d) :
    KeepsOpen disk query := by
  intro d hStands
  rw [hSame]
  exact hStands

theorem KeepsOpen.bind {first : Query α} {next : α → Query β} (hFirst : KeepsOpen disk first)
    (hNext : ∀ value, KeepsOpen disk (next value)) : KeepsOpen disk (first >>= next) := by
  intro d hStands
  have hMiddle := hFirst d hStands
  rw [runOn_bind]
  rcases hRun : runOn first d with ⟨e | value, middle⟩
  · rw [hRun] at hMiddle
    exact hMiddle
  · rw [hRun] at hMiddle
    exact hNext value middle hMiddle

theorem KeepsOpen.checkRow (row : Nat) : KeepsOpen disk (checkRow row) := by
  rintro d ⟨r, hState, hOpen⟩
  rw [runOn_checkRow hState]
  exact ⟨r, hState, hOpen⟩

theorem KeepsOpen.readGeometry (row : Nat) : KeepsOpen disk (readGeometry disk row) := by
  rintro d ⟨r, hState, hOpen⟩
  rw [runOn_readGeometry hState]
  exact ⟨_, rfl, hOpen.geometry row⟩

theorem KeepsOpen.readAttributes [Host] (row : Nat) : KeepsOpen disk (readAttributes disk row) := by
  rintro d ⟨r, hState, hOpen⟩
  rw [runOn_readAttributes hState]
  exact ⟨_, rfl, hOpen.row row⟩

theorem KeepsOpen.readAttribute [Host] (row column : Nat) :
    KeepsOpen disk (readAttribute disk row column) := by
  rintro d ⟨r, hState, hOpen⟩
  rw [runOn_readAttribute hState]
  exact ⟨_, rfl, hOpen.cell row column⟩

theorem KeepsOpen.row [Host] (row : Nat) : KeepsOpen disk (Dataset.row disk row) :=
  (KeepsOpen.checkRow row).bind fun _ => (KeepsOpen.readGeometry row).bind fun _ =>
    (KeepsOpen.readAttributes row).bind fun _ => .of_same fun _ => rfl

theorem KeepsOpen.field [Host] (row column : Nat) :
    KeepsOpen disk (Dataset.field disk row column) := by
  refine (KeepsOpen.checkRow row).bind fun index => ?_
  rintro d hStands
  rw [runOn_bind, runOn_get]
  simp only
  split
  · exact hStands
  · cases Row.attributeColumn? column index with
    | none => exact KeepsOpen.readGeometry row d hStands
    | some other => exact KeepsOpen.readAttribute row other d hStands

theorem KeepsOpen.rowSize (row : Nat) : KeepsOpen disk (Dataset.rowSize disk row) := by
  refine (KeepsOpen.checkRow row).bind fun _ => ?_
  rintro d ⟨r, hState, hOpen⟩
  rw [runOn_bind, runOn_reader hState]
  simp only [runOn_bind, runOn_keep, runOn_lift]
  rcases r.index.contentLength (disk.content r.indexFile) row with ⟨e | length, index⟩
  · exact ⟨_, rfl, hOpen.shapes, hOpen.table⟩
  · exact ⟨_, rfl, hOpen.shapes, hOpen.table⟩

end KeepsOpen

/-- A call on a dataset that is being read changes no file, and leaves it
standing for the files unless it closes it. -/
theorem StandsFor.perform [Host] (hStands : d.StandsFor disk) (call : Call) :
    (d.perform disk call).2.2 = disk ∧
      ((d.perform disk call).2.1.StandsFor disk ∨
        (d.perform disk call).2.1.state.stage = .closed) := by
  obtain ⟨r, hState, hOpen⟩ := hStands
  have hStage : d.state.stage = .reading := by rw [hState]; rfl
  have hRefused : ∀ fault, call.outcome .reading = .error fault →
      (d.perform disk call).2.2 = disk ∧ ((d.perform disk call).2.1.StandsFor disk ∨
        (d.perform disk call).2.1.state.stage = .closed) := by
    intro fault hFault
    rw [(d.follows disk call).refused fault (hStage ▸ hFault)]
    exact ⟨rfl, .inl ⟨r, hState, hOpen⟩⟩
  cases call with
  | create | openForReading | insert => exact hRefused _ rfl
  | row row => exact ⟨rfl, .inl (KeepsOpen.row row d ⟨r, hState, hOpen⟩)⟩
  | field row column => exact ⟨rfl, .inl (KeepsOpen.field row column d ⟨r, hState, hOpen⟩)⟩
  | rowSize row => exact ⟨rfl, .inl (KeepsOpen.rowSize row d ⟨r, hState, hOpen⟩)⟩
  | setGeometryIndex | setSrid => exact ⟨rfl, .inl ⟨r, hState, hOpen⟩⟩
  | close =>
      rw [Dataset.perform, close, hState]
      exact ⟨rfl, .inr rfl⟩

/-- Whatever is called on it, a dataset that is being read changes no file and
stands for the files until it is closed. -/
theorem run_of_standsFor [Host] (hEither : d.StandsFor disk ∨ d.state.stage = .closed)
    (calls : List Call) :
    (d.run disk calls).2.2 = disk ∧ ((d.run disk calls).2.1.StandsFor disk ∨
      (d.run disk calls).2.1.state.stage = .closed) := by
  induction calls generalizing d with
  | nil => exact ⟨rfl, hEither⟩
  | cons call calls ih =>
      obtain ⟨hDisk, hNext⟩ : (d.perform disk call).2.2 = disk ∧
          ((d.perform disk call).2.1.StandsFor disk ∨
            (d.perform disk call).2.1.state.stage = .closed) := by
        rcases hEither with hStands | hClosed
        · exact hStands.perform call
        · obtain ⟨hStill, hKept⟩ := perform_of_closed hClosed disk call
          exact ⟨hKept, .inr hStill⟩
      have hRun : (d.run disk (call :: calls)).2 =
          ((d.perform disk call).2.1.run (d.perform disk call).2.2 calls).2 := rfl
      rw [hRun, hDisk]
      exact ih hNext

/-! ### Opening -/

theorem openFile_ok {ε α : Type} {path : Path} {wrap : ε → DatasetError}
    {onChannel : Bytes → Except ε α} {file : FileId} {opened : α}
    (hOpen : openFile disk path wrap onChannel = .ok (file, opened)) :
    onChannel (disk.content file) = .ok opened := by
  obtain ⟨found, _, hOpen⟩ := bind_eq_ok hOpen
  obtain ⟨result, hResult, hOpen⟩ := bind_eq_ok hOpen
  cases hOpen
  exact mapError_ok hResult

/-- A dataset that was opened stands for the files that were there. -/
theorem standsFor_of_openForReading {opened : Dataset} {path : Path} {label : Option String}
    (hOpen : d.openForReading disk path label = .ok opened) : opened.StandsFor disk := by
  obtain ⟨_, files, codePage, r, _, _, hFiles, hState⟩ := openForReading_ok hOpen
  refine ⟨r, hState, ?_⟩
  obtain ⟨⟨indexFile, index⟩, _, hFiles⟩ := bind_eq_ok hFiles
  obtain ⟨table, hTable, hFiles⟩ := bind_eq_ok hFiles
  obtain ⟨_, hTable⟩ : ∃ forced, table.reader.OpenOn (disk.content table.file) forced := by
    obtain ⟨file, _, hTable⟩ := bind_eq_ok (mapError_ok hTable)
    obtain ⟨reader, hReader, hTable⟩ := bind_eq_ok hTable
    cases hTable
    exact ⟨codePage, TableReader.openOn_of_onChannel hReader⟩
  simp only at hFiles
  split at hFiles
  next => cases hFiles
  next =>
    obtain ⟨⟨shapesFile, shapes⟩, hShapes, hFiles⟩ := bind_eq_ok hFiles
    cases hFiles
    exact ⟨ShapeReader.openOn_of_onChannel (openFile_ok hShapes), _, hTable⟩

end Dataset

end Shapefile
