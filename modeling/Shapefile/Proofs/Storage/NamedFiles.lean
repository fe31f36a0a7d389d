import Shapefile.Proofs.Storage.FolderFiles

/-! Files by their names. Creating or saving a file puts it at the names that
its path leads to: it is there with what it was given, and every other file
keeps its names and its content. What does not depend on the files that were
put there stays the same over any number of such changes. -/
namespace Shapefile.Disk

/-- Every file that has names is there, and has no other names. -/
structure Sound (d : Disk) : Prop where
  id_lt {names : List String} {id : FileId} (hFile : d.node? names = some (.file id)) :
    id < d.contents.size
  names_eq {names other : List String} {id : FileId} (hFile : d.node? names = some (.file id))
    (hOther : d.node? other = some (.file id)) : other = names

/-- Files of other names are other files. -/
theorem Sound.id_ne {d : Disk} (h : d.Sound) {names other : List String} {id otherId : FileId}
    (hFile : d.node? names = some (.file id)) (hOther : d.node? other = some (.file otherId))
    (hApart : names ≠ other) : id ≠ otherId := by
  rintro rfl
  exact hApart (h.names_eq hOther hFile)

/-- Changes to contents leave the names as they are. -/
theorem Sound.of_changedIn {d last : Disk} (h : d.Sound) {ids : List FileId}
    (hChanged : d.ChangedIn last ids) : last.Sound := by
  have hNodes := node?_congr hChanged.entries_eq
  refine ⟨fun hFile => ?_, fun hFile hOther => ?_⟩
  · rw [hNodes] at hFile
    rw [hChanged.size_eq]
    exact h.id_lt hFile
  · rw [hNodes] at hFile hOther
    exact h.names_eq hFile hOther

/-- What the file of these names contains. -/
def fileAt? (d : Disk) (names : List String) : Option Bytes :=
  match d.node? names with
  | some (.file id) => some (d.content id)
  | _ => none

theorem fileAt?_file {d : Disk} {names : List String} {id : FileId}
    (hFile : d.node? names = some (.file id)) : d.fileAt? names = some (d.content id) := by
  rw [fileAt?, hFile]

theorem find_ok {d : Disk} {p : Path} {names : List String} {id : FileId}
    (hLocate : d.locate p = .ok names) (hFile : d.node? names = some (.file id)) :
    d.find p = .ok id := by
  rw [find, hLocate, ok_bind, hFile]

/-- What a path reads is what the file at its names contains. -/
theorem read_ok_iff {d : Disk} {p : Path} {bytes : Bytes} :
    d.read p = .ok bytes ↔
      ∃ names, d.locate p = .ok names ∧ d.fileAt? names = some bytes := by
  cases hLocate : d.locate p with
  | error e => simp [read, find, hLocate, bind, Except.bind]
  | ok names =>
      cases hNode : d.node? names with
      | none => simp [read, find, hLocate, fileAt?, hNode, bind, Except.bind]
      | some node =>
          cases node <;> simp [read, find, hLocate, fileAt?, hNode, bind, Except.bind, pure,
            Except.pure]

theorem isFile_iff_node {d : Disk} {p : Path} :
    d.isFile p = true ↔
      ∃ names id, d.locate p = .ok names ∧ d.node? names = some (.file id) := by
  constructor
  · intro hFile
    rw [isFile] at hFile
    split at hFile
    next names hLocate =>
      split at hFile
      next id hNode => exact ⟨names, id, hLocate, hNode⟩
      next => cases hFile
    next => cases hFile
  · rintro ⟨names, id, hLocate, hNode⟩
    rw [isFile, hLocate]
    simp only [hNode]

/-- A path leads to a file if it can be read. -/
theorem isFile_iff {d : Disk} {p : Path} :
    d.isFile p = true ↔ ∃ bytes, d.read p = .ok bytes := by
  simp only [isFile_iff_node, read_ok_iff]
  constructor
  · rintro ⟨names, id, hLocate, hNode⟩
    exact ⟨_, names, hLocate, fileAt?_file hNode⟩
  · rintro ⟨bytes, names, hLocate, hFile⟩
    rw [fileAt?] at hFile
    split at hFile
    next id hNode => exact ⟨names, id, hLocate, hNode⟩
    next => cases hFile

/-- One disk has become another by changes to the files of these names. -/
structure Kept (d last : Disk) (changed : List (List String)) : Prop where
  folder_iff (names : List String) :
    last.node? names = some .directory ↔ d.node? names = some .directory
  fileAt?_eq {names : List String} (hOther : names ∉ changed) :
    last.fileAt? names = d.fileAt? names
  entries : ∃ added, last.entries = d.entries ++ added ∧ ∀ entry ∈ added, entry.1 ∈ changed

namespace Kept

variable {d middle last : Disk} {changed more : List (List String)}

theorem trans (h : d.Kept middle changed) (h' : middle.Kept last changed) :
    d.Kept last changed := by
  obtain ⟨first, hFirst, hFirstIn⟩ := h.entries
  obtain ⟨second, hSecond, hSecondIn⟩ := h'.entries
  refine ⟨fun names => (h'.folder_iff names).trans (h.folder_iff names), fun hOther => ?_,
    first ++ second, ?_, ?_⟩
  · rw [h'.fileAt?_eq hOther, h.fileAt?_eq hOther]
  · rw [hSecond, hFirst, List.append_assoc]
  · intro entry hEntry
    rcases List.mem_append.mp hEntry with hIn | hIn
    · exact hFirstIn entry hIn
    · exact hSecondIn entry hIn

theorem mono (h : d.Kept last changed) (hMore : ∀ names ∈ changed, names ∈ more) :
    d.Kept last more := by
  obtain ⟨added, hAdded, hIn⟩ := h.entries
  exact ⟨h.folder_iff, fun hOther => h.fileAt?_eq fun hChanged => hOther (hMore _ hChanged),
    added, hAdded, fun entry hEntry => hMore _ (hIn entry hEntry)⟩

/-- Paths lead where they led. -/
theorem locate_iff (h : d.Kept last changed) (p : Path) (found : List String) :
    last.locate p = .ok found ↔ d.locate p = .ok found := by
  rw [locate, locate]
  split
  · exact Iff.rfl
  · split
    · exact Iff.rfl
    · exact ⟨walk_of_folders fun _ hFolder => (h.folder_iff _).mp hFolder,
        walk_of_folders fun _ hFolder => (h.folder_iff _).mpr hFolder⟩

/-- A path that leads elsewhere reads what it read. -/
theorem read_iff (h : d.Kept last changed) {p : Path}
    (hOther : ∀ names, d.locate p = .ok names → names ∉ changed) (bytes : Bytes) :
    last.read p = .ok bytes ↔ d.read p = .ok bytes := by
  simp only [read_ok_iff, h.locate_iff]
  refine exists_congr fun names => and_congr_right fun hLocate => ?_
  rw [h.fileAt?_eq (hOther names hLocate)]

theorem isFile_eq (h : d.Kept last changed) {p : Path}
    (hOther : ∀ names, d.locate p = .ok names → names ∉ changed) :
    last.isFile p = d.isFile p := by
  rw [Bool.eq_iff_iff, isFile_iff, isFile_iff]
  exact exists_congr (h.read_iff hOther)

end Kept

/-- Changes to the contents of some files are changes to the files of their
names. -/
theorem Sound.kept {d last : Disk} (h : d.Sound) {ids : List FileId}
    (hChanged : d.ChangedIn last ids) {changed : List (List String)}
    (hNamed : ∀ id ∈ ids, ∃ names ∈ changed, d.node? names = some (.file id)) :
    d.Kept last changed := by
  have hNodes := node?_congr hChanged.entries_eq
  refine ⟨fun names => by rw [hNodes], fun {names} hOther => ?_,
    [], by rw [hChanged.entries_eq, List.append_nil], by simp⟩
  rw [fileAt?, fileAt?, hNodes]
  split
  next id hFile =>
    rw [hChanged.content_eq id]
    intro hIn
    obtain ⟨named, hMember, hNode⟩ := hNamed id hIn
    rw [← h.names_eq hFile hNode] at hOther
    exact hOther hMember
  next => rfl

/-- One disk has become another by putting this file there, with this content. -/
structure Put (d last : Disk) (names : List String) (id : FileId) (bytes : Bytes) : Prop where
  sound : last.Sound
  free : d.node? names ≠ some .directory
  node?_eq : last.node? names = some (.file id)
  content_eq : last.content id = bytes
  node?_other {other : List String} (hOther : other ≠ names) : last.node? other = d.node? other
  content_other {other : FileId} (hOther : other ≠ id) : last.content other = d.content other
  entries_cases : last.entries = d.entries ∨ last.entries = d.entries ++ [(names, .file id)]
  size_le : d.contents.size ≤ last.contents.size

namespace Put

variable {d last : Disk} {names other : List String} {id : FileId} {bytes : Bytes}

theorem fileAt?_eq (h : d.Put last names id bytes) : last.fileAt? names = some bytes := by
  rw [fileAt?_file h.node?_eq, h.content_eq]

/-- Every other file has what it had. -/
theorem fileAt?_other (h : d.Put last names id bytes) (hOther : other ≠ names) :
    last.fileAt? other = d.fileAt? other := by
  have hNode := h.node?_other hOther
  cases hFile : d.node? other with
  | none => rw [fileAt?, fileAt?, hNode, hFile]
  | some node =>
      cases node with
      | directory => rw [fileAt?, fileAt?, hNode, hFile]
      | file otherId =>
          rw [hFile] at hNode
          have hApart := h.sound.id_ne hNode h.node?_eq hOther
          rw [fileAt?_file hNode, fileAt?_file hFile, h.content_other hApart]

/-- Folders stay, and no others are made. -/
theorem folder_iff (h : d.Put last names id bytes) (other : List String) :
    last.node? other = some .directory ↔ d.node? other = some .directory := by
  by_cases hSame : other = names
  · rw [hSame, h.node?_eq]
    exact iff_of_false nofun h.free
  · rw [h.node?_other hSame]

/-- Everything but the file that was put there is as before. -/
theorem kept (h : d.Put last names id bytes) : d.Kept last [names] := by
  refine ⟨h.folder_iff, fun hOther => h.fileAt?_other (by simpa using hOther), ?_⟩
  rcases h.entries_cases with hSame | hAdded
  · exact ⟨[], by rw [hSame, List.append_nil], by simp⟩
  · exact ⟨_, hAdded, by simp⟩

/-- Changes to the content of the file that was put there. -/
theorem of_changedIn (h : d.Put last names id bytes) {after : Disk}
    (hChanged : last.ChangedIn after [id]) : d.Put after names id (after.content id) := by
  have hNodes := node?_congr hChanged.entries_eq
  refine ⟨h.sound.of_changedIn hChanged, h.free, ?_, rfl, ?_, ?_, ?_, ?_⟩
  · rw [hNodes]
    exact h.node?_eq
  · intro other hOther
    rw [hNodes]
    exact h.node?_other hOther
  · intro otherId hOther
    rw [hChanged.content_eq otherId (by simpa using hOther)]
    exact h.content_other hOther
  · rw [hChanged.entries_eq]
    exact h.entries_cases
  · rw [hChanged.size_eq]
    exact h.size_le

/-- Filling the file that was put there. -/
theorem setContent (h : d.Put last names id bytes) (filling : Bytes) :
    d.Put (last.setContent id filling) names id filling := by
  have hFilled := h.of_changedIn (last.setContent_changedIn id filling)
  rwa [content_setContent (h.sound.id_lt h.node?_eq) filling] at hFilled

end Put

/-- An existing file is put where it is when it is filled. -/
theorem put_setContent {d : Disk} (hSound : d.Sound) {names : List String} {id : FileId}
    (hFile : d.node? names = some (.file id)) (bytes : Bytes) :
    d.Put (d.setContent id bytes) names id bytes := by
  have hHere : d.Put d names id (d.content id) :=
    ⟨hSound, by rw [hFile]; nofun, hFile, rfl, fun _ => rfl, fun _ => rfl, Or.inl rfl,
      Nat.le_refl _⟩
  exact hHere.setContent bytes

/-- A new file is put at names that stood for nothing. -/
theorem put_added {d : Disk} (hSound : d.Sound) {names : List String}
    (hNew : d.node? names = none) :
    d.Put ⟨d.entries ++ [(names, .file d.contents.size)], d.contents.push #[]⟩ names
      d.contents.size #[] := by
  have hSome : names ≠ [] := by
    rintro rfl
    cases hNew
  have hAdded := node?_added hSome hNew (.file d.contents.size) (d.contents.push #[])
  have hOthers := fun other (hOther : other ≠ names) =>
    node?_added_other d hOther (.file d.contents.size) (d.contents.push #[])
  have hOld : ∀ found id, found ≠ names →
      (⟨d.entries ++ [(names, .file d.contents.size)], d.contents.push #[]⟩ : Disk).node? found =
        some (.file id) → d.node? found = some (.file id) ∧ id < d.contents.size := by
    intro found id hOther hFile
    rw [hOthers found hOther] at hFile
    exact ⟨hFile, hSound.id_lt hFile⟩
  refine ⟨⟨?_, ?_⟩, by rw [hNew]; nofun, hAdded, ?_, fun hOther => hOthers _ hOther, ?_, Or.inr rfl,
    ?_⟩
  · intro found id hFile
    rw [Array.size_push]
    by_cases hSame : found = names
    · rw [hSame, hAdded] at hFile
      cases hFile
      exact Nat.lt_succ_self _
    · exact Nat.lt_succ_of_lt (hOld found id hSame hFile).2
  · intro found other id hFile hOther
    -- the new file is younger than every other, so its names cannot be theirs
    by_cases hFound : found = names
    · by_cases hSame : other = names
      · rw [hFound, hSame]
      · rw [hFound, hAdded] at hFile
        cases hFile
        exact absurd (hOld other _ hSame hOther).2 (Nat.lt_irrefl _)
    · by_cases hSame : other = names
      · rw [hSame, hAdded] at hOther
        cases hOther
        exact absurd (hOld found _ hFound hFile).2 (Nat.lt_irrefl _)
      · exact hSound.names_eq (hOld found id hFound hFile).1 (hOld other id hSame hOther).1
  · simp [content]
  · intro id hOther
    simp only [content, Array.getElem?_push, if_neg hOther]
  · rw [Array.size_push]
    exact Nat.le_succ _

/-- What creating a file does. -/
theorem create_ok {d last : Disk} (hSound : d.Sound) {p : Path} {id : FileId}
    (hCreate : d.create p = .ok (id, last)) :
    ∃ names, d.locate p = .ok names ∧ d.Put last names id #[] := by
  obtain ⟨names, hLocate, hRest⟩ := bind_eq_ok hCreate
  by_cases hStays : p.withoutSlashes = p
  · rw [if_neg (not_not_intro hStays)] at hRest
    rw [hStays] at hLocate
    refine ⟨names, hLocate, ?_⟩
    cases hNode : d.node? names with
    | none =>
        simp only [hNode] at hRest
        cases hParent : d.node? names.dropLast with
        | none =>
            rw [hParent] at hRest
            cases hRest
        | some parent =>
            rw [hParent] at hRest
            cases parent with
            | file _ => cases hRest
            | directory =>
                cases hRest
                exact put_added hSound hNode
    | some node =>
        simp only [hNode] at hRest
        cases node with
        | directory => cases hRest
        | file _ =>
            cases hRest
            exact put_setContent hSound hNode #[]
  · rw [if_pos hStays] at hRest
    cases hRest

/-- What saving a file does. -/
theorem save_ok {d last : Disk} (hSound : d.Sound) {p : Path} {bytes : Bytes}
    (hSave : d.save p bytes = .ok last) :
    ∃ names id, d.locate p = .ok names ∧ d.Put last names id bytes := by
  obtain ⟨⟨id, empty⟩, hCreate, hFill⟩ := bind_eq_ok hSave
  cases hFill
  obtain ⟨names, hLocate, hPut⟩ := create_ok hSound hCreate
  exact ⟨names, id, hLocate, hPut.setContent bytes⟩

theorem sound_empty : ({} : Disk).Sound := by
  have hNone : ∀ names id, ({} : Disk).node? names ≠ some (.file id) := by
    intro names id hFile
    rw [node?] at hFile
    split at hFile
    · cases hFile
    · cases hFile
  exact ⟨fun hFile => absurd hFile (hNone _ _), fun hFile => absurd hFile (hNone _ _)⟩

end Shapefile.Disk
