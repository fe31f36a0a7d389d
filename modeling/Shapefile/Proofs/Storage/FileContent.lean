import Shapefile.Storage.Disk

/-! What writing does to the contents of files. Chunks appended where a file
ends extend it, bytes written over its start replace as many, and other files
keep what they have. -/
namespace Shapefile

namespace Bytes

theorem overlay_toList (content : Bytes) (position : Nat) (bytes : Bytes) :
    (content.overlay position bytes).toList =
      content.toList.take position ++ List.replicate (position - content.size) 0 ++ bytes.toList ++
        content.toList.drop (position + bytes.size) := by
  simp only [overlay, Array.toList_append, Array.toList_extract, Array.toList_replicate,
    List.extract_eq_take_drop, List.drop_zero, Nat.sub_zero]
  congr 1
  exact List.take_of_length_le (by simp)

/-- Writing where the content ends appends. -/
theorem overlay_end (content bytes : Bytes) :
    content.overlay content.size bytes = content ++ bytes := by
  have hKept : content.toList.take content.size = content.toList :=
    List.take_of_length_le (Nat.le_of_eq content.length_toList)
  have hBehind : content.toList.drop (content.size + bytes.size) = [] :=
    List.drop_eq_nil_of_le (by rw [Array.length_toList]; omega)
  apply Array.toList_inj.mp
  rw [overlay_toList, Nat.sub_self, hKept, hBehind, Array.toList_append]
  simp

/-- Writing over the start replaces as many bytes. -/
theorem overlay_start {content : Bytes} {first rest replacement : List UInt8}
    (hContent : content.toList = first ++ rest) (hLength : replacement.length = first.length) :
    (content.overlay 0 replacement.toArray).toList = replacement ++ rest := by
  have hBehind : (first ++ rest).drop (0 + replacement.toArray.size) = rest := by
    rw [List.size_toArray, hLength, Nat.zero_add, List.drop_left]
  rw [overlay_toList, hContent, hBehind]
  simp

end Bytes

namespace Disk

/-- One disk has become another by changes to the contents of these files. -/
structure ChangedIn (before after : Disk) (ids : List FileId) : Prop where
  entries_eq : after.entries = before.entries
  size_eq : after.contents.size = before.contents.size
  content_eq : ∀ id, id ∉ ids → after.content id = before.content id

namespace ChangedIn

variable {first second third : Disk} {ids more : List FileId}

theorem refl (d : Disk) (ids : List FileId) : d.ChangedIn d ids := ⟨rfl, rfl, fun _ _ => rfl⟩

theorem trans (h : first.ChangedIn second ids) (h' : second.ChangedIn third ids) :
    first.ChangedIn third ids := by
  refine ⟨h'.entries_eq.trans h.entries_eq, h'.size_eq.trans h.size_eq, ?_⟩
  intro id hOther
  rw [h'.content_eq id hOther, h.content_eq id hOther]

theorem mono (h : first.ChangedIn second ids) (hMore : ∀ id ∈ ids, id ∈ more) :
    first.ChangedIn second more := by
  refine ⟨h.entries_eq, h.size_eq, fun id hOther => h.content_eq id ?_⟩
  intro hChanged
  exact hOther (hMore id hChanged)

end ChangedIn

/-- A file that is not there has no content. -/
theorem content_of_size_le {d : Disk} {id : FileId} (hNone : d.contents.size ≤ id) :
    d.content id = #[] := by
  rw [content, Array.getElem?_eq_none hNone]
  rfl

theorem content_setContent {d : Disk} {id : FileId} (hFile : id < d.contents.size)
    (bytes : Bytes) : (d.setContent id bytes).content id = bytes := by
  rw [content, setContent, Array.getElem?_modify, if_pos rfl, Array.getElem?_eq_getElem hFile]
  rfl

theorem setContent_changedIn (d : Disk) (id : FileId) (bytes : Bytes) :
    d.ChangedIn (d.setContent id bytes) [id] := by
  refine ⟨rfl, Array.size_modify, fun other hOther => ?_⟩
  have hNot : id ≠ other := by
    intro hSame
    exact hOther (List.mem_singleton.mpr hSame.symm)
  simp only [content, setContent, Array.getElem?_modify, if_neg hNot]

theorem write_changedIn (d : Disk) (id : FileId) (position : Nat) (bytes : Bytes) :
    d.ChangedIn (d.write id position bytes) [id] := d.setContent_changedIn id _

/-- Writing over the start of a file replaces as many bytes. -/
theorem content_write_start {d : Disk} {id : FileId} (hFile : id < d.contents.size)
    {first rest replacement : List UInt8} (hContent : (d.content id).toList = first ++ rest)
    (hLength : replacement.length = first.length) :
    ((d.write id 0 replacement.toArray).content id).toList = replacement ++ rest := by
  rw [write, content_setContent hFile]
  exact Bytes.overlay_start hContent hLength

end Disk

namespace OpenFile

/-- The file is there, and the next bytes go to its end. -/
structure AtEnd (f : OpenFile) (disk : Disk) : Prop where
  exists_file : f.id < disk.contents.size
  position_eq : f.position = (disk.content f.id).size

/-- A file that was just created is open at its end. -/
theorem atEnd_new {id : FileId} {disk : Disk} (hThere : id < disk.contents.size)
    (hEmpty : disk.content id = #[]) : ({ id } : OpenFile).AtEnd disk :=
  ⟨hThere, by rw [hEmpty]; rfl⟩

theorem AtEnd.of_content {f : OpenFile} {disk last : Disk} (h : f.AtEnd disk)
    (hSize : disk.contents.size ≤ last.contents.size)
    (hContent : last.content f.id = disk.content f.id) : f.AtEnd last := by
  refine ⟨Nat.lt_of_lt_of_le h.exists_file hSize, ?_⟩
  rw [hContent]
  exact h.position_eq

/-- A file stays open at its end while others are changed. -/
theorem AtEnd.of_changedIn {f : OpenFile} {disk last : Disk} (h : f.AtEnd disk)
    {ids : List FileId} (hChanged : disk.ChangedIn last ids) (hOther : f.id ∉ ids) :
    f.AtEnd last :=
  h.of_content (Nat.le_of_eq hChanged.size_eq.symm) (hChanged.content_eq f.id hOther)

theorem append_eq_foldl (f : OpenFile) (disk : Disk) (chunks : Array Bytes) :
    f.append disk chunks = chunks.toList.foldl
      (fun (f, disk) chunk =>
        ({ f with position := f.position + chunk.size }, disk.write f.id f.position chunk))
      (f, disk) := by
  rw [append, Array.foldl_toList]

/-- Chunks appended at the end of a file extend it, and change no other. -/
theorem append_spec {f : OpenFile} {disk : Disk} (h : f.AtEnd disk) (chunks : Array Bytes) :
    (f.append disk chunks).1.id = f.id ∧
      (f.append disk chunks).1.AtEnd (f.append disk chunks).2 ∧
      (f.append disk chunks).2.content f.id = disk.content f.id ++ chunks.flatten ∧
      disk.ChangedIn (f.append disk chunks).2 [f.id] := by
  rw [append_eq_foldl]
  obtain ⟨chunks⟩ := chunks
  simp only
  induction chunks generalizing f disk with
  | nil =>
      refine ⟨rfl, h, ?_, Disk.ChangedIn.refl disk _⟩
      simp
  | cons chunk chunks ih =>
      let next : OpenFile := { f with position := f.position + chunk.size }
      have hWritten : (disk.write f.id f.position chunk).content f.id =
          disk.content f.id ++ chunk := by
        rw [Disk.write, Disk.content_setContent h.exists_file, h.position_eq, Bytes.overlay_end]
      have hChanged := disk.write_changedIn f.id f.position chunk
      have hNext : next.AtEnd (disk.write f.id f.position chunk) := by
        refine ⟨?_, ?_⟩
        · rw [hChanged.size_eq]
          exact h.exists_file
        · rw [hWritten, Array.size_append, ← h.position_eq]
      obtain ⟨hId, hAtEnd, hContent, hRest⟩ := ih hNext
      refine ⟨hId, hAtEnd, ?_, hChanged.trans hRest⟩
      rw [List.foldl_cons]
      apply hContent.trans
      rw [hWritten]
      apply Array.toList_inj.mp
      simp

end OpenFile

end Shapefile
