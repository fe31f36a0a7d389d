import Shapefile.Proofs.Dataset.CreationSteps
import Shapefile.Proofs.Dataset.WrittenDataset
import Shapefile.Proofs.Storage.KeptCompanions

/-! What a creation that succeeded has left, whatever was there before. The
three files are at their names in the folder of the path, each a file of its
own that holds the layout of no rows, and everything else but the code page
file is as it was. -/
namespace Shapefile

open Shapefile.Path

namespace Disk

variable {d last : Disk} {p : Path} {before folder : List String} {stem : String}

/-- Creating a companion puts it at its name in the folder. -/
theorem Place.create_ok (hPlace : d.Place p before folder stem) (hSound : d.Sound)
    {extension : String} (hPlain : Plain extension) {id : FileId}
    (hCreate : d.create (beside before stem extension) = .ok (id, last)) :
    d.Put last (folder ++ [fileName stem extension]) id #[] := by
  obtain ⟨names, hLocate, hPut⟩ := Disk.create_ok hSound hCreate
  rw [hPlace.locate_eq hPlain] at hLocate
  cases hLocate
  exact hPut

end Disk

/-- The names of the files that every dataset has. -/
def datasetNames (folder : List String) (stem : String) : List (List String) :=
  ["shp", "shx", "dbf"].map fun extension => folder ++ [fileName stem extension]

/-- None of them is a code page file. -/
theorem foreign_datasetNames (folder : List String) (stem : String) :
    ∀ names ∈ datasetNames folder stem, Disk.Foreign folder stem "cpg" names := by
  have hOthers : ∀ other ∈ ["shp", "shx", "dbf"],
      Plain other ∧ Companions.sameLetters other "cpg" = false := by decide +kernel
  intro names hNames
  obtain ⟨other, hOther, rfl⟩ := List.mem_map.mp hNames
  exact ⟨other, (hOthers other hOther).1, (hOthers other hOther).2, rfl⟩

namespace DatasetWriter

/-- The files of a writer have the names of a stem, in the folder of a path. -/
structure LiesAt (w : DatasetWriter) (disk : Disk) (p : Path) (before folder : List String)
    (stem : String) : Prop where
  place : disk.Place p before folder stem
  sound : disk.Sound
  nodes : ∀ file ∈ w.files, disk.node? (folder ++ [fileName stem file.1]) = some (.file file.2)

variable {w next : DatasetWriter} {disk last : Disk} {p : Path} {before folder : List String}
  {stem : String}

/-- Writing changes the files of its names and no others. -/
theorem LiesAt.kept (hLies : w.LiesAt disk p before folder stem)
    (hChanged : disk.ChangedIn last w.ids) : disk.Kept last (datasetNames folder stem) := by
  refine hLies.sound.kept hChanged fun id hId => ?_
  obtain ⟨file, hFile, rfl⟩ := List.mem_map.mp hId
  refine ⟨folder ++ [fileName stem file.1], List.mem_map_of_mem ?_, hLies.nodes file hFile⟩
  exact List.mem_map_of_mem (f := Prod.fst) hFile

theorem LiesAt.of_changedIn (hLies : w.LiesAt disk p before folder stem)
    (hChanged : disk.ChangedIn last w.ids) (hFiles : next.files = w.files) :
    next.LiesAt last p before folder stem := by
  refine ⟨(hLies.kept hChanged).place_iff.mpr hLies.place, hLies.sound.of_changedIn hChanged,
    fun file hFile => ?_⟩
  rw [hFiles] at hFile
  rw [Disk.node?_congr hChanged.entries_eq]
  exact hLies.nodes file hFile

end DatasetWriter

namespace Dataset

variable {disk last : Disk} {p : Path} {before folder : List String} {stem : String}
  {files : Companions} {f : RecordFormat} {h : TableHeader} {capacity : Nat}

/-- Shape file and index are put at their names, empty. -/
theorem pair_created (hSound : disk.Sound) (hPlace : disk.Place p before folder stem)
    {second : Disk} {shapesId indexId : FileId}
    (hShapes : disk.create (beside before stem "shp") = .ok (shapesId, second))
    (hIndex : second.create (beside before stem "shx") = .ok (indexId, last)) :
    last.Sound ∧
      last.node? (folder ++ [fileName stem "shp"]) = some (.file shapesId) ∧
      last.node? (folder ++ [fileName stem "shx"]) = some (.file indexId) ∧
      shapesId ≠ indexId ∧ last.content shapesId = #[] ∧ last.content indexId = #[] ∧
      disk.Kept last (datasetNames folder stem) := by
  obtain ⟨hShp, hShx, _⟩ := plain_companions
  have hPutShapes := hPlace.create_ok hSound hShp hShapes
  have hPutIndex := (hPutShapes.kept.place_iff.mpr hPlace).create_ok hPutShapes.sound hShx hIndex
  have hNames : folder ++ [fileName stem "shp"] ≠ folder ++ [fileName stem "shx"] := by simp
  have hShapesNode := (hPutIndex.node?_other hNames).trans hPutShapes.node?_eq
  have hApart := hPutIndex.sound.id_ne hShapesNode hPutIndex.node?_eq hNames
  have hFirst : disk.Kept second (datasetNames folder stem) :=
    hPutShapes.kept.mono (by simp [datasetNames])
  have hSecond : second.Kept last (datasetNames folder stem) :=
    hPutIndex.kept.mono (by simp [datasetNames])
  exact ⟨hPutIndex.sound, hShapesNode, hPutIndex.node?_eq, hApart,
    (hPutIndex.content_other hApart).trans hPutShapes.content_eq, hPutIndex.content_eq,
    hFirst.trans hSecond⟩

/-- Shape file and index are files of their own that hold no records. -/
theorem createShapes_ok {path : Path} (hSound : disk.Sound) (hStem : path.stem? ≠ some ".")
    {shapes : WritingShapes}
    (hOk : runOn (createShapes (.forWriting path) (.record f) capacity) disk = (.ok shapes, last)) :
    ∃ before folder stem, disk.Place (path.withExtension "shp") before folder stem ∧
      (∀ extension, path.withExtension extension = beside before stem extension) ∧
      shapes.HoldsOn last f [] ∧ last.Sound ∧
      last.node? (folder ++ [fileName stem "shp"]) = some (.file shapes.shapesFile.id) ∧
      last.node? (folder ++ [fileName stem "shx"]) = some (.file shapes.indexFile.id) ∧
      disk.Kept last (datasetNames folder stem) := by
  obtain ⟨⟨shapesId, _⟩, second, hShapes, hRest⟩ := runOn_bind_ok hOk
  obtain ⟨⟨indexId, _⟩, third, hIndex, hRest⟩ := runOn_bind_ok hRest
  obtain ⟨rfl, hShapesCreated⟩ := runOn_createFile_ok hShapes
  obtain ⟨rfl, hIndexCreated⟩ := runOn_createFile_ok hIndex
  obtain ⟨_, hLocate, hFirst⟩ := Disk.create_ok hSound hShapesCreated
  obtain ⟨before, folder, stem, hPlace, hPaths⟩ := Disk.exists_place hStem hLocate hFirst.free
  refine ⟨before, folder, stem, hPlace, hPaths, ?_⟩
  have hShapesPath : (Companions.forWriting path).shapes = beside before stem "shp" := hPaths "shp"
  have hIndexPath : (Companions.forWriting path).index = beside before stem "shx" := hPaths "shx"
  rw [hShapesPath] at hShapesCreated
  rw [hIndexPath] at hIndexCreated
  obtain ⟨hThird, hShapesNode, hIndexNode, hApart, hShapesEmpty, hIndexEmpty, hKept⟩ :=
    pair_created hSound hPlace hShapesCreated hIndexCreated
  obtain ⟨writer, _, hWriter, hSettle⟩ := runOn_bind_ok hRest
  rw [runOn_lift] at hWriter
  obtain ⟨hCreate, rfl⟩ := Prod.mk.inj hWriter
  rw [runOn_modifyGet] at hSettle
  obtain ⟨hSettled, hLast⟩ := Prod.mk.inj hSettle
  have hNew := WritingShapes.holdsOn_new (hThird.id_lt hShapesNode) hShapesEmpty
    (hThird.id_lt hIndexNode) hIndexEmpty hApart (mapError_ok hCreate)
  obtain ⟨hHolds, hIds, hChanged⟩ := hNew.settle
  cases hSettled
  cases hLast
  obtain ⟨hShapesId, hRestIds⟩ := List.cons.inj hIds
  obtain ⟨hIndexId, _⟩ := List.cons.inj hRestIds
  have hNodes := Disk.node?_congr hChanged.entries_eq
  refine ⟨hHolds, hThird.of_changedIn hChanged, ?_, ?_, ?_⟩
  · rw [hNodes, hShapesId]
    exact hShapesNode
  · rw [hNodes, hIndexId]
    exact hIndexNode
  · refine hKept.trans (hThird.kept hChanged fun id hId => ?_)
    rcases List.mem_cons.mp hId with rfl | hId
    · exact ⟨_, by simp [datasetNames], hShapesNode⟩
    · rw [List.mem_singleton.mp hId]
      exact ⟨_, by simp [datasetNames], hIndexNode⟩

/-- The table is put at its name, and holds no records. -/
theorem createTable_ok [Host] (hSound : disk.Sound) (hPlace : disk.Place p before folder stem)
    (hPath : files.table = beside before stem "dbf") {table : WritingTable}
    (hOk : runOn (createTable files h capacity) disk = (.ok table, last)) :
    table.HoldsOn last h [] ∧
      ∃ bytes, disk.Put last (folder ++ [fileName stem "dbf"]) table.file.id bytes := by
  obtain ⟨_, _, hDbf, _⟩ := plain_companions
  obtain ⟨_, _, hGet, hRest⟩ := runOn_bind_ok hOk
  cases hGet
  obtain ⟨⟨_, _⟩, _, hCreated, hRest⟩ := runOn_bind_ok hRest
  rw [runOn_lift] at hCreated
  obtain ⟨hTable, rfl⟩ := Prod.mk.inj hCreated
  cases hRest
  obtain ⟨⟨id, second⟩, hCreate, hSettle⟩ := bind_eq_ok (mapError_ok hTable)
  have hCreate := mapError_ok hCreate
  rw [hPath] at hCreate
  have hPut := hPlace.create_ok hSound hDbf hCreate
  have hNew := WritingTable.holdsOn_new (hPut.sound.id_lt hPut.node?_eq) hPut.content_eq files.table
    h capacity
  obtain ⟨hHolds, hId, hChanged⟩ := hNew.settle
  have hSettled := Except.ok.inj hSettle
  rw [hSettled] at hHolds hId hChanged
  refine ⟨hHolds, last.content id, ?_⟩
  rw [hId]
  exact hPut.of_changedIn hChanged

theorem createCodePage_sound {path : Path} {page : Text.CodePage} {file? : Option Path}
    (hSound : disk.Sound) (hOk : runOn (createCodePage path page) disk = (.ok file?, last)) :
    last.Sound := by
  rcases createCodePage_ok hOk with ⟨_, rfl⟩ | ⟨_, hSave⟩
  · exact hSound
  · obtain ⟨_, _, _, hPut⟩ := Disk.save_ok hSound hSave
    exact hPut.sound

/-- The code page file of a page other than the standard one is at its name. -/
theorem createCodePage_file {path : Path} {page : Text.CodePage} {file? : Option Path}
    (hSound : disk.Sound) (hOk : runOn (createCodePage path page) disk = (.ok file?, last))
    (hPlace : last.Place p before folder stem)
    (hPath : path.withExtension "cpg" = beside before stem "cpg") :
    (page.isStandard = true ∧ last = disk) ∨
      (page.isStandard = false ∧
        last.fileAt? (folder ++ [fileName stem "cpg"]) = some (labelBytes page)) := by
  obtain ⟨_, _, _, _, hCpg⟩ := plain_companions
  rcases createCodePage_ok hOk with hStandard | ⟨hOther, hSave⟩
  · exact Or.inl hStandard
  · obtain ⟨names, _, hLocate, hPut⟩ := Disk.save_ok hSound hSave
    rw [hPath, (hPut.kept.place_iff.mp hPlace).locate_eq hCpg] at hLocate
    cases hLocate
    exact Or.inr ⟨hOther, hPut.fileAt?_eq⟩

/-- A creation that succeeded has put its three files at their names, and
both stores hold no rows. What it has done before is to create the code page
file, unless the page is the standard one. -/
theorem created_files [Host] {d created : Dataset} {path : Path} (hSound : disk.Sound)
    (hStem : path.stem? ≠ some ".")
    (hOk : runOn (d.create path (.record f) h) disk = (.ok created, last)) :
    ∃ before folder stem middle w,
      ((h.codePage.isStandard = true ∧ middle = disk) ∨
        (h.codePage.isStandard = false ∧
          middle.fileAt? (folder ++ [fileName stem "cpg"]) = some (labelBytes h.codePage))) ∧
      middle.Kept last (datasetNames folder stem) ∧
      w.LiesAt last (path.withExtension "shp") before folder stem ∧
      created.Writes w d.geometryIndex ∧
      w.HoldsOn last ([] : List (StoredRow f h d.geometryIndex)) := by
  obtain ⟨_, _, hUnopened, hRest⟩ := runOn_bind_ok hOk
  rw [runOn_lift] at hUnopened
  obtain ⟨_, rfl⟩ := Prod.mk.inj hUnopened
  obtain ⟨_, middle, hPage, hRest⟩ := runOn_bind_ok hRest
  obtain ⟨shapes, third, hShapes, hRest⟩ := runOn_bind_ok hRest
  obtain ⟨table, fourth, hTable, hRest⟩ := runOn_bind_ok hRest
  rw [runOn_pure] at hRest
  obtain ⟨hCreated, rfl⟩ := Prod.mk.inj hRest
  obtain ⟨before, folder, stem, hPlace, hPaths, hShapesHold, hThird, hShapesNode, hIndexNode,
    hKept⟩ := createShapes_ok (createCodePage_sound hSound hPage) hStem hShapes
  obtain ⟨hTableHolds, _, hPut⟩ :=
    createTable_ok hThird (hKept.place_iff.mpr hPlace) (hPaths "dbf") hTable
  have hNamed := createCodePage_file hSound hPage hPlace (hPaths "cpg")
  have hAll := hKept.trans (hPut.kept.mono (by simp [datasetNames]))
  have hShapesNode := (hPut.node?_other (by simp)).trans hShapesNode
  have hIndexNode := (hPut.node?_other (by simp)).trans hIndexNode
  have hApart : ∀ id ∈ shapes.ids, id ≠ table.file.id := by
    intro id hId
    rcases List.mem_cons.mp hId with rfl | hId
    · exact hPut.sound.id_ne hShapesNode hPut.node?_eq (by simp)
    · rw [List.mem_singleton.mp hId]
      exact hPut.sound.id_ne hIndexNode hPut.node?_eq (by simp)
  refine ⟨before, folder, stem, middle, ⟨shapes, table⟩, hNamed, hAll,
    ⟨hAll.place_iff.mpr hPlace, hPut.sound, ?_⟩, ?_,
    DatasetWriter.holdsOn_beside hShapesHold hTableHolds hApart hPut.size_le
      fun _ hOther => hPut.content_other hOther⟩
  · simp only [DatasetWriter.files, List.forall_mem_cons]
    exact ⟨hShapesNode, hIndexNode, hPut.node?_eq, by simp⟩
  · rw [← Except.ok.inj hCreated]
    exact ⟨rfl, rfl⟩

end Dataset

end Shapefile
