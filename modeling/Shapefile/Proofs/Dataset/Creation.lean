import Shapefile.Proofs.Dataset.WrittenDataset

/-! Creating a dataset in an empty folder. All three files are created, and
both stores hold the layout of no rows. -/
namespace Shapefile.Dataset

open Shapefile.Path

theorem runOn_createFile {disk next : Disk} {path : Path} {id : FileId}
    (hCreate : disk.create path = .ok (id, next)) :
    runOn (createFile path) disk = (.ok { id }, next) := by
  rw [createFile, runOn_bind, runOn_get]
  simp only [onStorage, hCreate, Except.mapError]
  rfl

section Creation

variable {disk : Disk} {path : Path} {before folder : List String} {stem : String}
  {files : List (String × FileId)}

/-- Creating shape file and index in an empty folder. -/
theorem createShapes_holds (hSite : disk.Site path before folder stem []) (f : RecordFormat)
    (capacity : Nat) :
    ∃ shapes last,
      runOn (createShapes (.forWriting path) (.record f) capacity) disk = (.ok shapes, last) ∧
      shapes.HoldsOn last f [] ∧
      last.Site path before folder stem
        [("shp", shapes.shapesFile.id), ("shx", shapes.indexFile.id)] := by
  obtain ⟨hShp, hShx, _⟩ := plain_companions
  obtain ⟨second, hShapes, hShapesSite, hSecondSize, hSecond⟩ :=
    hSite.create_eq hShp (by simp)
  obtain ⟨third, hIndex, hBothSite, hThirdSize, hThird⟩ :=
    hShapesSite.create_eq hShx (by simp)
  have hShapesEmpty : third.content disk.contents.size = #[] := by
    rw [hThird, hSecond, Disk.content_of_size_le (Nat.le_refl _)]
  have hIndexEmpty : third.content second.contents.size = #[] := by
    rw [hThird, Disk.content_of_size_le (Nat.le_refl _)]
  obtain ⟨writer, hCreate, _⟩ := ShapeWriter.create_holds f capacity
  let new : WritingShapes :=
    ⟨{ id := disk.contents.size }, { id := second.contents.size }, writer⟩
  have hOlder : disk.contents.size < second.contents.size := by omega
  have hLater : second.contents.size < third.contents.size := by omega
  have hNew : new.HoldsOn third f [] :=
    WritingShapes.holdsOn_new (Nat.lt_trans hOlder hLater) hShapesEmpty hLater hIndexEmpty
      (Nat.ne_of_lt hOlder) hCreate
  obtain ⟨hHolds, hIds, hChanged⟩ := hNew.settle
  refine ⟨(new.settle third).1, (new.settle third).2, ?_, hHolds, ?_⟩
  · have hShapesPath : (Companions.forWriting path).shapes = beside before stem "shp" :=
      hSite.path.withExtension_eq "shp"
    have hIndexPath : (Companions.forWriting path).index = beside before stem "shx" :=
      hSite.path.withExtension_eq "shx"
    rw [createShapes, hShapesPath, hIndexPath, runOn_bind, runOn_createFile hShapes]
    simp only
    rw [runOn_bind, runOn_createFile hIndex]
    simp only
    rw [runOn_bind, hCreate, Except.mapError, runOn_lift]
    rfl
  · obtain ⟨hShapesId, hRest⟩ := List.cons.inj hIds
    obtain ⟨hIndexId, _⟩ := List.cons.inj hRest
    rw [hShapesId, hIndexId]
    exact hBothSite.of_entries hChanged.entries_eq

/-- Creating the table beside other files leaves these alone. -/
theorem createTable_holds [Host] (hSite : disk.Site path before folder stem files)
    (hNew : ∀ file ∈ files, file.1 ≠ "dbf") (h : TableHeader) (capacity : Nat) :
    ∃ table last,
      runOn (createTable (.forWriting path) h capacity) disk = (.ok table, last) ∧
      table.HoldsOn last h [] ∧ table.file.id = disk.contents.size ∧
      last.Site path before folder stem (files ++ [("dbf", table.file.id)]) ∧
      disk.contents.size ≤ last.contents.size ∧
      ∀ id, id ≠ disk.contents.size → last.content id = disk.content id := by
  obtain ⟨_, _, hDbf, _⟩ := plain_companions
  obtain ⟨second, hCreate, hNextSite, hSize, hSecond⟩ := hSite.create_eq hDbf hNew
  have hEmpty : second.content disk.contents.size = #[] := by
    rw [hSecond, Disk.content_of_size_le (Nat.le_refl _)]
  have hPath : (Companions.forWriting path).table = beside before stem "dbf" :=
    hSite.path.withExtension_eq "dbf"
  rw [← hPath] at hCreate
  let new : WritingTable :=
    ⟨(Companions.forWriting path).table, { id := disk.contents.size }, .create h capacity⟩
  have hThere : disk.contents.size < second.contents.size := by omega
  have hHeld : new.HoldsOn second h [] :=
    WritingTable.holdsOn_new hThere hEmpty _ h capacity
  obtain ⟨hHolds, hId, hChanged⟩ := hHeld.settle
  refine ⟨(new.settle second).1, (new.settle second).2, ?_, hHolds, hId, ?_, ?_, ?_⟩
  · have hTable : WritingTable.createAt disk (Companions.forWriting path).table h capacity =
        .ok (new.settle second) := by
      rw [WritingTable.createAt, hCreate]
      rfl
    rw [createTable, runOn_bind, runOn_get]
    simp only
    rw [runOn_bind, hTable, Except.mapError, runOn_lift]
    rfl
  · rw [hId]
    exact hNextSite.of_entries hChanged.entries_eq
  · rw [hChanged.size_eq]
    omega
  · intro id hOther
    have hKept : id ∉ [new.file.id] := by
      intro hSame
      exact hOther (List.mem_singleton.mp hSame)
    rw [hChanged.content_eq id hKept, hSecond]

/-- A new dataset of the standard code page in an empty folder. -/
theorem create_holds [Host] (hSite : disk.Site path before folder stem []) {d : Dataset}
    (hState : d.state = .unopened) (f : RecordFormat) {h : TableHeader}
    (hPage : h.codePage = .standard) :
    ∃ created w last, runOn (d.create path (.record f) h) disk = (.ok created, last) ∧
      created.Writes w d.geometryIndex ∧
      w.HoldsOn last ([] : List (StoredRow f h d.geometryIndex)) ∧
      last.Site path before folder stem w.files := by
  obtain ⟨shapes, middle, hCreateShapes, hShapes, hShapesSite⟩ :=
    createShapes_holds hSite f d.options.writeCapacity
  obtain ⟨table, last, hCreateTable, hTable, hTableId, hLastSite, hSize, hKept⟩ :=
    createTable_holds hShapesSite (by simp) h d.options.writeCapacity
  -- the table is the newest file, so it is neither of the two before it
  have hApart : ∀ id ∈ shapes.ids, id ≠ table.file.id := by
    intro id hMember
    rw [hTableId]
    rcases List.mem_cons.mp hMember with rfl | hMember
    · exact Nat.ne_of_lt hShapes.shapes_atEnd.exists_file
    · rw [List.mem_singleton.mp hMember]
      exact Nat.ne_of_lt hShapes.index_atEnd.exists_file
  rw [← hTableId] at hKept
  have hHolds : (⟨shapes, table⟩ : DatasetWriter).HoldsOn last
      ([] : List (StoredRow f h d.geometryIndex)) :=
    DatasetWriter.holdsOn_beside hShapes hTable hApart hSize hKept
  let created : Dataset :=
    { d with
      state := .writing ⟨shapes, table⟩
      files := some { Companions.forWriting path with codePage := none } }
  refine ⟨created, ⟨shapes, table⟩, last, ?_, ⟨rfl, rfl⟩, hHolds, hLastSite⟩
  have hUnopened : d.checkUnopened = .ok () := by
    rw [checkUnopened, hState]
  have hCodePage : runOn (createCodePage path h.codePage) disk = (.ok none, disk) := by
    rw [createCodePage, hPage]
    rfl
  rw [create, runOn_bind, hUnopened, runOn_lift]
  simp only
  rw [runOn_bind, hCodePage]
  simp only
  rw [runOn_bind, hCreateShapes]
  simp only
  rw [runOn_bind, hCreateTable]
  rfl

end Creation

end Shapefile.Dataset
