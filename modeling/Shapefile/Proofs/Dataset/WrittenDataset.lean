import Shapefile.Proofs.Dataset.Insert
import Shapefile.Proofs.Dataset.WritersOnDisk
import Shapefile.Proofs.Storage.FolderFiles

/-! A dataset from its creation to its end. Its three files hold the rows that
were accepted, each row with its geometry in one store and its record in the
other, and refused rows leave nothing; closing completes all three layouts. -/
namespace Shapefile

/-- A row that a dataset takes, with its two halves as the stores take them. -/
structure StoredRow [Host] (f : RecordFormat) (h : TableHeader) (index : Nat) where
  values : List Value
  geometry : Geometry
  attributes : List Value
  record : List UInt8
  length_eq : values.length = h.fieldCount + 1
  split_eq : Row.split? values index = some (.geometry geometry, attributes)
  takes : f.Takes (some geometry)
  encode_eq : h.encodeRow attributes = .ok record

namespace StoredRow

variable {f : RecordFormat} {h : TableHeader} {index : Nat}

def records [Host] (rows : List (StoredRow f h index)) : List (List UInt8) := rows.map record

def geometries [Host] (rows : List (StoredRow f h index)) : List (Option Geometry) :=
  rows.map fun row => some row.geometry

end StoredRow

namespace DatasetWriter

/-- The files of a writer by their extensions. -/
def files (w : DatasetWriter) : List (String × FileId) :=
  [("shp", w.shapes.shapesFile.id), ("shx", w.shapes.indexFile.id), ("dbf", w.table.file.id)]

def ids (w : DatasetWriter) : List FileId := w.files.map Prod.snd

/-- Both stores hold exactly these rows, in files of their own. -/
structure HoldsOn [Host] (w : DatasetWriter) (disk : Disk) {f : RecordFormat} {h : TableHeader}
    {index : Nat} (rows : List (StoredRow f h index)) : Prop where
  shapes : w.shapes.HoldsOn disk f (StoredRow.geometries rows)
  table : w.table.HoldsOn disk h (StoredRow.records rows)
  apart : w.table.file.id ∉ w.shapes.ids

variable [Host] {w : DatasetWriter} {disk : Disk} {f : RecordFormat} {h : TableHeader} {index : Nat}
  {rows : List (StoredRow f h index)}

/-- A table whose file is another one than those of the shapes leaves these
as they are. -/
theorem holdsOn_beside {shapes : WritingShapes} {table : WritingTable} {last : Disk}
    (hShapes : shapes.HoldsOn disk f (StoredRow.geometries rows))
    (hTable : table.HoldsOn last h (StoredRow.records rows))
    (hApart : ∀ id ∈ shapes.ids, id ≠ table.file.id)
    (hSize : disk.contents.size ≤ last.contents.size)
    (hOthers : ∀ id, id ≠ table.file.id → last.content id = disk.content id) :
    (⟨shapes, table⟩ : DatasetWriter).HoldsOn last rows :=
  ⟨hShapes.of_content hSize fun id hId => hOthers id (hApart id hId), hTable,
    fun hMember => hApart _ hMember rfl⟩

/-- Shapes changed first and the table after them, in the files they had. -/
theorem HoldsOn.of_stores (hWriter : w.HoldsOn disk rows) {next : DatasetWriter}
    {middle last : Disk} {nextRows : List (StoredRow f h index)}
    (hShapes : next.shapes.HoldsOn middle f (StoredRow.geometries nextRows))
    (hShapesIds : next.shapes.ids = w.shapes.ids)
    (hFirst : disk.ChangedIn middle w.shapes.ids)
    (hTable : next.table.HoldsOn last h (StoredRow.records nextRows))
    (hTableId : next.table.file.id = w.table.file.id)
    (hSecond : middle.ChangedIn last [w.table.file.id]) :
    next.HoldsOn last nextRows ∧ next.files = w.files ∧ disk.ChangedIn last w.ids := by
  have hOther : ∀ id ∈ next.shapes.ids, id ∉ [w.table.file.id] := by
    intro id hMember hSame
    rw [hShapesIds, List.mem_singleton.mp hSame] at hMember
    exact hWriter.apart hMember
  refine ⟨⟨hShapes.of_changedIn hSecond hOther, hTable, ?_⟩, ?_, ?_⟩
  · rw [hTableId, hShapesIds]
    exact hWriter.apart
  · obtain ⟨hShapesId, hRest⟩ := List.cons.inj hShapesIds
    obtain ⟨hIndexId, _⟩ := List.cons.inj hRest
    rw [files, files, hShapesId, hIndexId, hTableId]
  · refine (hFirst.mono ?_).trans (hSecond.mono ?_)
    · intro id hMember
      exact List.mem_append_left [w.table.file.id] hMember
    · intro id hMember
      exact List.mem_append_right w.shapes.ids hMember

/-- An accepted row is added to both stores. -/
theorem HoldsOn.added (hWriter : w.HoldsOn disk rows) (row : StoredRow f h index)
    {payload : List (List UInt8)}
    (hPayload : payload.flatten = f.recordPayload (some row.geometry)) :
    (w.added disk row.geometry payload row.record).1.HoldsOn
        (w.added disk row.geometry payload row.record).2 (rows ++ [row]) ∧
      (w.added disk row.geometry payload row.record).1.files = w.files ∧
      disk.ChangedIn (w.added disk row.geometry payload row.record).2 w.ids := by
  obtain ⟨hShapes, hShapesIds, hFirst⟩ := (hWriter.shapes.add row.takes hPayload).settle
  have hTable := (hWriter.table.of_changedIn hFirst hWriter.apart).add row.record
  obtain ⟨hSettled, hTableId, hSecond⟩ := hTable.settle
  have hGeometries : StoredRow.geometries (rows ++ [row]) =
      StoredRow.geometries rows ++ [some row.geometry] := List.map_append
  have hRecords : StoredRow.records (rows ++ [row]) = StoredRow.records rows ++ [row.record] :=
    List.map_append
  rw [← hGeometries] at hShapes
  rw [← hRecords] at hSettled
  exact hWriter.of_stores hShapes hShapesIds hFirst hSettled hTableId hSecond

/-- Closing leaves the layouts of the rows in all three files, and no other
file is touched. -/
theorem HoldsOn.close (hWriter : w.HoldsOn disk rows) :
    ((w.close disk).content w.shapes.shapesFile.id).toList =
        f.shapesFile (StoredRow.geometries rows) ∧
      ((w.close disk).content w.shapes.indexFile.id).toList =
        f.indexFile (StoredRow.geometries rows) ∧
      ((w.close disk).content w.table.file.id).toList = h.fileOf (StoredRow.records rows) ∧
      disk.ChangedIn (w.close disk) w.ids := by
  obtain ⟨hShapes, hIndex, hFirst⟩ := hWriter.shapes.close
  obtain ⟨hTable, hSecond⟩ := (hWriter.table.of_changedIn hFirst hWriter.apart).close
  have hOther : ∀ id ∈ w.shapes.ids, id ∉ [w.table.file.id] := by
    intro id hMember hSame
    rw [List.mem_singleton.mp hSame] at hMember
    exact hWriter.apart hMember
  refine ⟨?_, ?_, hTable, ?_⟩
  · rw [DatasetWriter.close, hSecond.content_eq _ (hOther _ (by simp [WritingShapes.ids]))]
    exact hShapes
  · rw [DatasetWriter.close, hSecond.content_eq _ (hOther _ (by simp [WritingShapes.ids]))]
    exact hIndex
  · exact (hFirst.mono fun _ hMember => List.mem_append_left [w.table.file.id] hMember).trans
      (hSecond.mono fun _ hMember => List.mem_append_right w.shapes.ids hMember)

end DatasetWriter

namespace Dataset

variable [Host]

/-- Insert rows one after the other: those that were accepted, and what is
left behind. -/
def insertAll (d : Dataset) (disk : Disk) :
    List (List Value) → List (List Value) × Dataset × Disk
  | [] => ([], d, disk)
  | values :: rows =>
    let first := d.insert disk values
    let rest := first.2.1.insertAll first.2.2 rows
    ((if first.1.isOk then [values] else []) ++ rest.1, rest.2)

/-- A dataset that is being written, with its geometry in this column. -/
structure Writes (d : Dataset) (w : DatasetWriter) (index : Nat) : Prop where
  state_eq : d.state = .writing w
  index_eq : d.geometryIndex = index

variable {d : Dataset} {w : DatasetWriter} {disk : Disk} {f : RecordFormat} {h : TableHeader}
  {index : Nat} {rows : List (StoredRow f h index)}

/-- A row that is stored by its writer is one that can be stored. -/
theorem Writes.added (hWrites : d.Writes w index) (hWriter : w.HoldsOn disk rows)
    (row : StoredRow f h index) {payload : List (List UInt8)}
    (hPayload : payload.flatten = f.recordPayload (some row.geometry))
    (hAdded : d.insert disk row.values =
      (.ok (), { d with state := .writing (w.added disk row.geometry payload row.record).1 },
        (w.added disk row.geometry payload row.record).2)) :
    ∃ (nextDataset : Dataset) (next : DatasetWriter) (last : Disk),
      d.insert disk row.values = (.ok (), nextDataset, last) ∧
      nextDataset.Writes next index ∧ next.HoldsOn last (rows ++ [row]) ∧
      next.files = w.files ∧ disk.ChangedIn last w.ids := by
  obtain ⟨hHolds, hFiles, hChanged⟩ := hWriter.added row hPayload
  exact ⟨_, _, _, hAdded, ⟨rfl, hWrites.index_eq⟩, hHolds, hFiles, hChanged⟩

/-- Inserting stores the row, or is refused and changes nothing. -/
theorem Writes.insert (hWrites : d.Writes w index) (hWriter : w.HoldsOn disk rows)
    (values : List Value) :
    (∃ e, d.insert disk values = (.error e, d, disk)) ∨
    ∃ (row : StoredRow f h index) (nextDataset : Dataset) (next : DatasetWriter) (last : Disk),
      row.values = values ∧ d.insert disk values = (.ok (), nextDataset, last) ∧
      nextDataset.Writes next index ∧ next.HoldsOn last (rows ++ [row]) ∧
      next.files = w.files ∧ disk.ChangedIn last w.ids := by
  rcases d.insert_cases disk values with
    hRefused | ⟨other, g, attributes, record, payload, hState, hLength, hSplit, hCheck, hEncode,
      hPayload, hAdded⟩
  · exact Or.inl hRefused
  · have hSame : other = w := by
      rw [hWrites.state_eq] at hState
      exact (DatasetState.writing.inj hState).symm
    subst hSame
    have hFormat := hWriter.shapes.holds.format_eq
    have hHeader := hWriter.table.holds.header_eq
    have hTakes := ShapeWriter.takes_of_check hCheck
    rw [hFormat] at hTakes hPayload
    rw [hHeader] at hLength hEncode
    rw [hWrites.index_eq] at hSplit
    let row : StoredRow f h index :=
      ⟨values, g, attributes, record, hLength, hSplit, hTakes, hEncode⟩
    obtain ⟨nextDataset, next, last, hInsert⟩ := hWrites.added hWriter row hPayload hAdded
    exact Or.inr ⟨row, nextDataset, next, last, rfl, hInsert⟩

/-- A row that can be stored is not refused. -/
theorem Writes.insert_stored (hWrites : d.Writes w index) (hWriter : w.HoldsOn disk rows)
    (row : StoredRow f h index) :
    ∃ (nextDataset : Dataset) (next : DatasetWriter) (last : Disk),
      d.insert disk row.values = (.ok (), nextDataset, last) ∧
      nextDataset.Writes next index ∧ next.HoldsOn last (rows ++ [row]) ∧
      next.files = w.files ∧ disk.ChangedIn last w.ids := by
  have hFormat := hWriter.shapes.holds.format_eq
  have hHeader := hWriter.table.holds.header_eq
  obtain ⟨length, hTaken⟩ := row.takes
  have hCheck : w.shapes.writer.check row.geometry = .ok () := by
    rw [ShapeWriter.check, hFormat, hTaken]
    rfl
  obtain ⟨payload, hPayload, hAdded⟩ := insert_taken hWrites.state_eq
    (by rw [hHeader, row.length_eq]) (by rw [hWrites.index_eq, row.split_eq]) hCheck
    (by rw [hHeader, row.encode_eq]) disk
  rw [hFormat] at hPayload
  exact hWrites.added hWriter row hPayload hAdded

/-- After any insertions the dataset has stored the accepted rows behind those
that it had. -/
theorem Writes.insertAll (hWrites : d.Writes w index) (hWriter : w.HoldsOn disk rows)
    (inputs : List (List Value)) :
    ∃ (added : List (StoredRow f h index)) (next : DatasetWriter),
      (d.insertAll disk inputs).1 = added.map StoredRow.values ∧
      (d.insertAll disk inputs).2.1.Writes next index ∧
      next.HoldsOn (d.insertAll disk inputs).2.2 (rows ++ added) ∧
      next.files = w.files ∧ disk.ChangedIn (d.insertAll disk inputs).2.2 w.ids := by
  induction inputs generalizing d w disk rows with
  | nil =>
      refine ⟨[], w, rfl, hWrites, ?_, rfl, Disk.ChangedIn.refl disk w.ids⟩
      rw [List.append_nil]
      exact hWriter
  | cons values inputs ih =>
      rcases hWrites.insert hWriter values with
        ⟨e, hRefused⟩ | ⟨row, nextDataset, next, last, hValues, hAdded, hNext, hHolds, hFiles,
          hChanged⟩
      · have hRun : d.insertAll disk (values :: inputs) = d.insertAll disk inputs := by
          rw [Dataset.insertAll, hRefused]
          rfl
        rw [hRun]
        exact ih hWrites hWriter
      · obtain ⟨added, lastWriter, hAccepted, hLast, hLastHolds, hLastFiles, hLastChanged⟩ :=
          ih hNext hHolds
        have hRun : d.insertAll disk (values :: inputs) =
            (values :: (nextDataset.insertAll last inputs).1,
              (nextDataset.insertAll last inputs).2) := by
          rw [Dataset.insertAll, hAdded]
          rfl
        rw [hRun]
        have hIds : next.ids = w.ids := congrArg (List.map Prod.snd) hFiles
        refine ⟨row :: added, lastWriter, ?_, hLast, ?_, hLastFiles.trans hFiles,
          hChanged.trans (hIds ▸ hLastChanged)⟩
        · rw [List.map_cons, hValues, hAccepted]
        · rw [List.append_assoc] at hLastHolds
          exact hLastHolds

/-- Rows that can be stored are all accepted. -/
theorem Writes.insertAll_stored (hWrites : d.Writes w index) (hWriter : w.HoldsOn disk rows)
    (added : List (StoredRow f h index)) :
    (d.insertAll disk (added.map StoredRow.values)).1 = added.map StoredRow.values ∧
      ∃ next : DatasetWriter,
        (d.insertAll disk (added.map StoredRow.values)).2.1.Writes next index ∧
        next.HoldsOn (d.insertAll disk (added.map StoredRow.values)).2.2 (rows ++ added) := by
  induction added generalizing d w disk rows with
  | nil =>
      refine ⟨rfl, w, hWrites, ?_⟩
      rw [List.append_nil]
      exact hWriter
  | cons row added ih =>
      obtain ⟨nextDataset, next, last, hInsert, hNext, hHolds, _, _⟩ :=
        hWrites.insert_stored hWriter row
      have hRun : d.insertAll disk ((row :: added).map StoredRow.values) =
          (row.values :: (nextDataset.insertAll last (added.map StoredRow.values)).1,
            (nextDataset.insertAll last (added.map StoredRow.values)).2) := by
        rw [List.map_cons, Dataset.insertAll, hInsert]
        rfl
      obtain ⟨hAccepted, lastWriter, hLast, hLastHolds⟩ := ih hNext hHolds
      rw [hRun]
      refine ⟨?_, lastWriter, hLast, ?_⟩
      · rw [hAccepted, List.map_cons]
      · rw [List.append_assoc] at hLastHolds
        exact hLastHolds

end Dataset

end Shapefile
