import Shapefile.Dataset.Reading
import Shapefile.Dataset.Writing
import Shapefile.Proofs.Running
import Shapefile.Proofs.Shape.WriterRun

/-! What the operations of a dataset do to its stage. Opening and creating
succeed on an unopened dataset only, closing ends in a closed one, and a query
neither leaves the stage of reading nor changes a dataset in another stage. -/
namespace Shapefile.Dataset

theorem checkUnopened_ok {d : Dataset} (hOk : d.checkUnopened = .ok ()) : d.state = .unopened := by
  unfold checkUnopened at hOk
  cases hState : d.state with
  | unopened => rfl
  | _ =>
      rw [hState] at hOk
      cases hOk

theorem createAt_written [Host] {disk last : Disk} {path : Path} {header : TableHeader}
    {capacity : Nat} {table : WritingTable}
    (hCreate : WritingTable.createAt disk path header capacity = .ok (table, last)) :
    table.writer.written = 0 := by
  obtain ⟨_, _, hSame⟩ := bind_eq_ok hCreate
  cases hSame
  rfl

theorem createShapes_tallies {files : Companions} {shapeType : ShapeType} {capacity : Nat}
    {disk last : Disk} {shapes : WritingShapes}
    (hCreate : runOn (createShapes files shapeType capacity) disk = (.ok shapes, last)) :
    ∃ f, shapes.writer.Tallies f [] := by
  obtain ⟨_, _, _, hCreate⟩ := runOn_bind_ok hCreate
  obtain ⟨_, _, _, hCreate⟩ := runOn_bind_ok hCreate
  obtain ⟨writer, _, hWriter, hCreate⟩ := runOn_bind_ok hCreate
  rw [runOn_lift] at hWriter
  rw [runOn_modifyGet] at hCreate
  obtain ⟨f, hNone⟩ := ShapeWriter.create_tallies (mapError_ok (congrArg Prod.fst hWriter))
  rw [← Except.ok.inj (congrArg Prod.fst hCreate)]
  exact ⟨f, hNone.collect⟩

theorem createTable_written [Host] {files : Companions} {header : TableHeader} {capacity : Nat}
    {disk last : Disk} {table : WritingTable}
    (hCreate : runOn (createTable files header capacity) disk = (.ok table, last)) :
    table.writer.written = 0 := by
  obtain ⟨_, _, _, hCreate⟩ := runOn_bind_ok hCreate
  obtain ⟨⟨created, _⟩, _, hTable, hCreate⟩ := runOn_bind_ok hCreate
  obtain ⟨_, _, _, hCreate⟩ := runOn_bind_ok hCreate
  rw [runOn_lift] at hTable
  rw [runOn_pure] at hCreate
  have hNone : created.writer.written = 0 :=
    createAt_written (mapError_ok (congrArg Prod.fst hTable))
  rw [← Except.ok.inj (congrArg Prod.fst hCreate)]
  exact hNone

/-- A dataset that was created was unopened, and is being written without a
row. -/
theorem create_ok [Host] {d next : Dataset} {disk last : Disk} {path : Path} {shapeType : ShapeType}
    {header : TableHeader}
    (hCreate : runOn (d.create path shapeType header) disk = (.ok next, last)) :
    d.state = .unopened ∧ ∃ w, next.state = .writing w ∧
      (∃ f, w.shapes.writer.Tallies f []) ∧ w.table.writer.written = 0 := by
  obtain ⟨_, _, hUnopened, hCreate⟩ := runOn_bind_ok hCreate
  obtain ⟨_, _, _, hCreate⟩ := runOn_bind_ok hCreate
  obtain ⟨shapes, _, hShapes, hCreate⟩ := runOn_bind_ok hCreate
  obtain ⟨table, _, hTable, hCreate⟩ := runOn_bind_ok hCreate
  rw [runOn_lift] at hUnopened
  rw [runOn_pure] at hCreate
  rw [← Except.ok.inj (congrArg Prod.fst hCreate)]
  exact ⟨checkUnopened_ok (congrArg Prod.fst hUnopened), _, rfl,
    createShapes_tallies hShapes, createTable_written hTable⟩

/-- A dataset that was opened was unopened, and is being read from the files
that were found, in the code page that was resolved. -/
theorem openForReading_ok {d next : Dataset} {disk : Disk} {path : Path} {label : Option String}
    (hOpen : d.openForReading disk path label = .ok next) :
    d.state = .unopened ∧ ∃ files codePage r, Companions.find disk path = .ok files ∧
      resolveCodePage disk (label.or d.options.forcedCodePage) files.codePage = .ok codePage ∧
      openFiles disk d.options files codePage = .ok r ∧ next.state = .reading r := by
  obtain ⟨_, hUnopened, hOpen⟩ := bind_eq_ok hOpen
  obtain ⟨files, hFind, hOpen⟩ := bind_eq_ok hOpen
  obtain ⟨codePage, hResolve, hOpen⟩ := bind_eq_ok hOpen
  obtain ⟨r, hFiles, hOpen⟩ := bind_eq_ok hOpen
  obtain ⟨_, _, hOpen⟩ := bind_eq_ok hOpen
  rw [← Except.ok.inj hOpen]
  exact ⟨checkUnopened_ok hUnopened, files, codePage, r, hFind, hResolve, hFiles, rfl⟩

theorem close_ok {d next : Dataset} {disk last : Disk}
    (hClose : runOn d.close disk = (.ok next, last)) : next.state = .closed := by
  unfold close at hClose
  cases hState : d.state with
  | closed =>
      rw [hState] at hClose
      cases hClose
  | _ =>
      rw [hState] at hClose
      cases hClose
      rfl

/-! ### Queries -/

theorem runOn_reader {d : Dataset} {r : DatasetReader} (hState : d.state = .reading r) :
    runOn reader d = (.ok r, d) := by
  rw [reader, runOn_bind, runOn_get]
  simp only [hState]
  rfl

theorem runOn_keep (d : Dataset) (r : DatasetReader) :
    runOn (keep r) d = (.ok ⟨⟩, { d with state := .reading r }) := rfl

/-- A query on a dataset that is being read leaves it so. -/
def Confined {α : Type} (query : Query α) : Prop :=
  ∀ d r, d.state = .reading r → ∃ later, (runOn query d).2.state = .reading later

section Confined

variable {α β : Type}

theorem Confined.pure (value : α) : Confined (pure value) := fun _ r hState => ⟨r, hState⟩

theorem Confined.throw (e : DatasetError) : Confined (throw e : Query α) :=
  fun _ r hState => ⟨r, hState⟩

theorem Confined.get : Confined get := fun _ r hState => ⟨r, hState⟩

theorem Confined.lift (result : Except DatasetError α) : Confined (liftM result) := by
  intro d r hState
  rw [runOn_lift]
  exact ⟨r, hState⟩

theorem Confined.keep (r : DatasetReader) : Confined (keep r) := fun _ _ _ => ⟨r, rfl⟩

theorem Confined.bind {first : Query α} {next : α → Query β} (hFirst : Confined first)
    (hNext : ∀ value, Confined (next value)) : Confined (first >>= next) := by
  intro d r hState
  obtain ⟨later, hLater⟩ := hFirst d r hState
  rw [runOn_bind]
  rcases hRun : runOn first d with ⟨e | value, middle⟩
  · rw [hRun] at hLater
    exact ⟨later, hLater⟩
  · rw [hRun] at hLater
    exact hNext value middle later hLater

theorem Confined.unless {condition : Prop} [Decidable condition] {e : DatasetError}
    {next : PUnit → Query α} (hNext : Confined (next ⟨⟩)) :
    Confined (if condition then MonadExcept.throw e >>= next else next ⟨⟩) := by
  by_cases hCondition : condition
  · rw [if_pos hCondition]
    exact fun _ r hState => ⟨r, hState⟩
  · rw [if_neg hCondition]
    exact hNext

theorem Confined.reader : Confined reader := by
  refine Confined.get.bind fun d => ?_
  cases d.state with
  | reading r => exact Confined.pure r
  | _ => exact Confined.throw _

theorem Confined.checkRow (row : Nat) : Confined (checkRow row) :=
  Confined.reader.bind fun _ => Confined.get.bind fun _ =>
    Confined.unless (Confined.unless (Confined.pure _))

theorem Confined.readGeometry (disk : Disk) (row : Nat) : Confined (readGeometry disk row) := by
  refine Confined.reader.bind fun r => (Confined.keep _).bind fun _ =>
    (Confined.lift _).bind fun offset => (Confined.keep _).bind fun _ =>
    (Confined.lift _).bind fun geometry => ?_
  cases geometry with
  | none => exact Confined.pure _
  | some g => exact Confined.get.bind fun d => Confined.pure _

theorem Confined.readAttributes [Host] (disk : Disk) (row : Nat) :
    Confined (readAttributes disk row) :=
  Confined.reader.bind fun _ => (Confined.keep _).bind fun _ => Confined.lift _

theorem Confined.readAttribute [Host] (disk : Disk) (row column : Nat) :
    Confined (readAttribute disk row column) :=
  Confined.reader.bind fun _ => (Confined.keep _).bind fun _ => Confined.lift _

theorem Confined.row [Host] (disk : Disk) (row : Nat) : Confined (Dataset.row disk row) :=
  (Confined.checkRow row).bind fun _ => (Confined.readGeometry disk row).bind fun _ =>
    (Confined.readAttributes disk row).bind fun _ => Confined.pure _

theorem Confined.field [Host] (disk : Disk) (row column : Nat) :
    Confined (Dataset.field disk row column) := by
  refine (Confined.checkRow row).bind fun index => Confined.get.bind fun _ =>
    Confined.unless ?_
  cases Row.attributeColumn? column index with
  | none => exact Confined.readGeometry disk row
  | some column => exact Confined.readAttribute disk row column

theorem Confined.rowSize (disk : Disk) (row : Nat) : Confined (Dataset.rowSize disk row) :=
  (Confined.checkRow row).bind fun _ => Confined.reader.bind fun _ =>
    (Confined.keep _).bind fun _ => (Confined.lift _).bind fun _ => Confined.pure _

end Confined

/-- A query of a row is refused in every other stage, and changes nothing
there. -/
theorem checkRow_refused {d : Dataset} (hState : ∀ r, d.state ≠ .reading r) (row : Nat) :
    runOn (checkRow row) d = (.error (.state .notReading), d) := by
  have hReader : runOn reader d = (.error (.state .notReading), d) := by
    rw [reader, runOn_bind, runOn_get]
    dsimp only
    split
    · next r hReading => exact absurd hReading (hState r)
    · rfl
  rw [checkRow, runOn_bind, hReader]

theorem runOn_of_checkRow {α : Type} {d : Dataset} (hState : ∀ r, d.state ≠ .reading r) (row : Nat)
    (rest : Nat → Query α) :
    runOn (checkRow row >>= rest) d = (.error (.state .notReading), d) := by
  rw [runOn_bind, checkRow_refused hState]

end Shapefile.Dataset
