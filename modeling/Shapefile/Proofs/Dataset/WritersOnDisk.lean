import Shapefile.Shape.File
import Shapefile.Table.File
import Shapefile.Proofs.Shape.WrittenFiles
import Shapefile.Proofs.Storage.FileContent
import Shapefile.Proofs.Table.WrittenTable

/-! The writers of a dataset together with their files. What a file contains
and what its writer has not sent yet make up the layout of the records so far;
closing leaves the finished layout in the file. No writer touches a file of
another one. -/
namespace Shapefile

namespace WritingShapes

/-- Shape file and index are open at their ends, and hold these records as far
as their writer has sent them. -/
structure HoldsOn (s : WritingShapes) (disk : Disk) (f : RecordFormat)
    (records : List (Option Geometry)) : Prop where
  shapes_atEnd : s.shapesFile.AtEnd disk
  index_atEnd : s.indexFile.AtEnd disk
  apart : s.shapesFile.id ≠ s.indexFile.id
  holds : s.writer.Holds f (disk.content s.shapesFile.id).toList
    (disk.content s.indexFile.id).toList records

def ids (s : WritingShapes) : List FileId := [s.shapesFile.id, s.indexFile.id]

variable {s : WritingShapes} {disk : Disk} {f : RecordFormat} {records : List (Option Geometry)}

/-- Two files that were just created hold no records. -/
theorem holdsOn_new {shapesId indexId : FileId} (hShapesThere : shapesId < disk.contents.size)
    (hShapes : disk.content shapesId = #[]) (hIndexThere : indexId < disk.contents.size)
    (hIndex : disk.content indexId = #[]) (hApart : shapesId ≠ indexId) {writer : ShapeWriter}
    {capacity : Nat} (hCreate : ShapeWriter.create (.record f) capacity = .ok writer) :
    (⟨{ id := shapesId }, { id := indexId }, writer⟩ : WritingShapes).HoldsOn disk f [] := by
  obtain ⟨other, hOther, hWriter⟩ := ShapeWriter.create_holds f capacity
  rw [hCreate] at hOther
  cases hOther
  refine ⟨OpenFile.atEnd_new hShapesThere hShapes, OpenFile.atEnd_new hIndexThere hIndex, hApart,
    ?_⟩
  rw [hShapes, hIndex]
  exact hWriter

theorem HoldsOn.of_content (h : s.HoldsOn disk f records) {last : Disk}
    (hSize : disk.contents.size ≤ last.contents.size)
    (hContent : ∀ id ∈ s.ids, last.content id = disk.content id) : s.HoldsOn last f records := by
  have hShapes := hContent s.shapesFile.id (by simp [ids])
  have hIndex := hContent s.indexFile.id (by simp [ids])
  refine ⟨h.shapes_atEnd.of_content hSize hShapes, h.index_atEnd.of_content hSize hIndex, h.apart,
    ?_⟩
  rw [hShapes, hIndex]
  exact h.holds

theorem HoldsOn.of_changedIn (h : s.HoldsOn disk f records) {last : Disk} {changed : List FileId}
    (hChanged : disk.ChangedIn last changed) (hOther : ∀ id ∈ s.ids, id ∉ changed) :
    s.HoldsOn last f records :=
  h.of_content (Nat.le_of_eq hChanged.size_eq.symm) fun id hId =>
    hChanged.content_eq id (hOther id hId)

/-- Two chunk lists appended, one to each file. -/
theorem HoldsOn.append_both (h : s.HoldsOn disk f records) (first second : Array Bytes) :
    let shapes := s.shapesFile.append disk first
    let index := s.indexFile.append shapes.2 second
    shapes.1.id = s.shapesFile.id ∧ index.1.id = s.indexFile.id ∧
      shapes.1.AtEnd index.2 ∧ index.1.AtEnd index.2 ∧
      index.2.content s.shapesFile.id = disk.content s.shapesFile.id ++ first.flatten ∧
      index.2.content s.indexFile.id = disk.content s.indexFile.id ++ second.flatten ∧
      disk.ChangedIn index.2 s.ids := by
  obtain ⟨hShapesId, hShapesEnd, hShapes, hFirst⟩ :=
    OpenFile.append_spec h.shapes_atEnd first
  have hIndexOther : s.indexFile.id ∉ [s.shapesFile.id] := by
    simpa using Ne.symm h.apart
  have hShapesOther : s.shapesFile.id ∉ [s.indexFile.id] := by
    simpa using h.apart
  obtain ⟨hIndexId, hIndexEnd, hIndex, hSecond⟩ :=
    OpenFile.append_spec (h.index_atEnd.of_changedIn hFirst hIndexOther) second
  refine ⟨hShapesId, hIndexId, ?_, hIndexEnd, ?_, ?_, ?_⟩
  · exact hShapesEnd.of_changedIn hSecond (hShapesId.symm ▸ hShapesOther)
  · rw [hSecond.content_eq _ hShapesOther, hShapes]
  · rw [hIndex, hFirst.content_eq _ hIndexOther]
  · exact (hFirst.mono (by simp [ids])).trans (hSecond.mono (by simp [ids]))

/-- Moving chunks into the files keeps what is held. -/
theorem HoldsOn.settle (h : s.HoldsOn disk f records) :
    (s.settle disk).1.HoldsOn (s.settle disk).2 f records ∧ (s.settle disk).1.ids = s.ids ∧
      disk.ChangedIn (s.settle disk).2 s.ids := by
  obtain ⟨hShapesId, hIndexId, hShapesEnd, hIndexEnd, hShapes, hIndex, hChanged⟩ :=
    h.append_both s.writer.shapes.collect.1 s.writer.index.collect.1
  refine ⟨⟨hShapesEnd, hIndexEnd, ?_, ?_⟩, ?_, hChanged⟩
  · exact hShapesId.symm ▸ hIndexId.symm ▸ h.apart
  · have hCollected := h.holds.collect
    rw [← Array.toList_append, ← Array.toList_append, ← hShapes, ← hIndex] at hCollected
    rw [← hShapesId, ← hIndexId] at hCollected
    exact hCollected
  · exact congrArg₂ (fun first second => [first, second]) hShapesId hIndexId

theorem HoldsOn.add (h : s.HoldsOn disk f records) {record : Option Geometry}
    (hTakes : f.Takes record) {payload : List (List UInt8)}
    (hPayload : payload.flatten = f.recordPayload record) :
    ({ s with writer := s.writer.add record payload } : WritingShapes).HoldsOn disk f
      (records ++ [record]) :=
  ⟨h.shapes_atEnd, h.index_atEnd, h.apart, h.holds.add hTakes hPayload⟩

/-- Closing leaves the layout of the records in both files. -/
theorem HoldsOn.close (h : s.HoldsOn disk f records) :
    ((s.close disk).content s.shapesFile.id).toList = f.shapesFile records ∧
      ((s.close disk).content s.indexFile.id).toList = f.indexFile records ∧
      disk.ChangedIn (s.close disk) s.ids := by
  obtain ⟨hShapesId, hIndexId, hShapesEnd, hIndexEnd, hShapes, hIndex, hChanged⟩ :=
    h.append_both s.writer.close.shapes.sent s.writer.close.index.sent
  generalize hSent : (s.indexFile.append (s.shapesFile.append disk s.writer.close.shapes.sent).2
    s.writer.close.index.sent).2 = sent at hShapes hIndex hChanged hShapesEnd hIndexEnd
  obtain ⟨hShapesHeader, hIndexHeader⟩ := h.holds.close_headers
  obtain ⟨hShapesSent, hIndexSent⟩ := h.holds.close_sent
  rw [← Array.toList_append, ← hShapes] at hShapesSent
  rw [← Array.toList_append, ← hIndex] at hIndexSent
  have hClosed : s.close disk = (sent.write s.shapesFile.id 0
      (f.shapesHeader records).bytes.toArray).write s.indexFile.id 0
        (f.indexHeader records).bytes.toArray := by
    rw [← hSent, ← hShapesHeader, ← hIndexHeader]
    rfl
  generalize hHeaded : sent.write s.shapesFile.id 0 (f.shapesHeader records).bytes.toArray =
    headed at hClosed
  have hFirst : sent.ChangedIn headed [s.shapesFile.id] :=
    hHeaded ▸ sent.write_changedIn s.shapesFile.id 0 _
  have hSecond : headed.ChangedIn (s.close disk) [s.indexFile.id] :=
    hClosed ▸ headed.write_changedIn s.indexFile.id 0 _
  have hShapesThere : s.shapesFile.id < sent.contents.size := hShapesId ▸ hShapesEnd.exists_file
  have hIndexThere : s.indexFile.id < headed.contents.size := by
    rw [hFirst.size_eq]
    exact hIndexId ▸ hIndexEnd.exists_file
  refine ⟨?_, ?_, ?_⟩
  · rw [hSecond.content_eq _ (by simpa using h.apart), ← hHeaded]
    exact Disk.content_write_start hShapesThere hShapesSent (ShapeWriter.length_header _ f)
  · rw [← hFirst.content_eq _ (by simpa using Ne.symm h.apart)] at hIndexSent
    rw [hClosed]
    exact Disk.content_write_start hIndexThere hIndexSent (ShapeWriter.length_header _ f)
  · exact hChanged.trans ((hFirst.mono (by simp [ids])).trans (hSecond.mono (by simp [ids])))

end WritingShapes

namespace WritingTable

/-- The table file is open at its end, and holds these records as far as its
writer has sent them. -/
structure HoldsOn [Host] (t : WritingTable) (disk : Disk) (h : TableHeader)
    (records : List (List UInt8)) : Prop where
  atEnd : t.file.AtEnd disk
  holds : t.writer.Holds h (disk.content t.file.id).toList records

variable {t : WritingTable} {disk : Disk} {h : TableHeader} {records : List (List UInt8)}

/-- A file that was just created holds no records. -/
theorem holdsOn_new [Host] {id : FileId} (hThere : id < disk.contents.size)
    (hEmpty : disk.content id = #[]) (path : Path) (h : TableHeader) (capacity : Nat) :
    (⟨path, { id }, .create h capacity⟩ : WritingTable).HoldsOn disk h [] := by
  refine ⟨OpenFile.atEnd_new hThere hEmpty, ?_⟩
  rw [hEmpty]
  exact TableWriter.create_holds h capacity

theorem HoldsOn.of_changedIn [Host] (hTable : t.HoldsOn disk h records) {last : Disk}
    {changed : List FileId} (hChanged : disk.ChangedIn last changed)
    (hOther : t.file.id ∉ changed) : t.HoldsOn last h records := by
  refine ⟨hTable.atEnd.of_changedIn hChanged hOther, ?_⟩
  rw [hChanged.content_eq _ hOther]
  exact hTable.holds

/-- Moving chunks into the file keeps what is held. -/
theorem HoldsOn.settle [Host] (hTable : t.HoldsOn disk h records) :
    (t.settle disk).1.HoldsOn (t.settle disk).2 h records ∧
      (t.settle disk).1.file.id = t.file.id ∧
      disk.ChangedIn (t.settle disk).2 [t.file.id] := by
  obtain ⟨hId, hAtEnd, hContent, hChanged⟩ :=
    OpenFile.append_spec hTable.atEnd t.writer.staging.collect.1
  refine ⟨⟨hAtEnd, ?_⟩, hId, hChanged⟩
  have hCollected := hTable.holds.collect
  rw [← Array.toList_append, ← hContent, ← hId] at hCollected
  exact hCollected

theorem HoldsOn.add [Host] (hTable : t.HoldsOn disk h records) (record : List UInt8) :
    ({ t with writer := t.writer.add record } : WritingTable).HoldsOn disk h
      (records ++ [record]) :=
  ⟨hTable.atEnd, hTable.holds.add record⟩

/-- Closing leaves the layout of the records in the file. -/
theorem HoldsOn.close [Host] (hTable : t.HoldsOn disk h records) :
    ((t.close disk).content t.file.id).toList = h.fileOf records ∧
      disk.ChangedIn (t.close disk) [t.file.id] := by
  obtain ⟨_, _, hContent, hChanged⟩ :=
    OpenFile.append_spec hTable.atEnd t.writer.close.staging.sent
  refine ⟨?_, hChanged⟩
  have hFile := hTable.holds.close
  rw [← Array.toList_append, ← hContent] at hFile
  exact hFile

end WritingTable

end Shapefile
