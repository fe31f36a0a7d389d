import Shapefile.Dataset.Companions
import Shapefile.Proofs.Running
import Shapefile.Proofs.Storage.FileContent
import Shapefile.Proofs.Storage.PathNames

/-! The files of one stem in a folder. A path that leads there is located by
walking to the folder; creating a file beside it adds a name and disturbs no
other one, and looking for companions finds the files that were created. -/
namespace Shapefile

namespace Disk

/-! ### Names -/

theorem node?_of_ne_nil (d : Disk) {names : List String} (hSome : names ≠ []) :
    d.node? names = (d.entries.find? fun entry => entry.1 = names).map Prod.snd := by
  rw [node?, if_neg (by simpa using hSome)]

theorem node?_congr {d other : Disk} (hEntries : other.entries = d.entries)
    (names : List String) : other.node? names = d.node? names := by
  rw [node?, node?, hEntries]

/-- A new name stands for what was put there. -/
theorem node?_added {d : Disk} {names : List String} (hSome : names ≠ [])
    (hNew : d.node? names = none) (node : Node) (contents : Array Bytes) :
    ({ entries := d.entries ++ [(names, node)], contents } : Disk).node? names = some node := by
  rw [node?_of_ne_nil _ hSome, Option.map_eq_none_iff] at hNew
  rw [node?_of_ne_nil _ hSome, List.find?_append, hNew]
  simp

/-- Every other name stands for what it stood for. -/
theorem node?_added_other (d : Disk) {names other : List String} (hOther : other ≠ names)
    (node : Node) (contents : Array Bytes) :
    ({ entries := d.entries ++ [(names, node)], contents } : Disk).node? other =
      d.node? other := by
  by_cases hSome : other = []
  · rw [hSome]
    rfl
  · rw [node?_of_ne_nil _ hSome, node?_of_ne_nil _ hSome, List.find?_append]
    simp [Ne.symm hOther]

/-- The names that these entries give in a folder. -/
def namesOf (entries : List (List String × Node)) (folder : List String) : List String :=
  entries.filterMap fun entry => if entry.1.dropLast = folder then entry.1.getLast? else none

theorem mem_namesOf {entries : List (List String × Node)} {folder : List String} {name : String} :
    name ∈ namesOf entries folder ↔ ∃ node, (folder ++ [name], node) ∈ entries := by
  simp only [namesOf, List.mem_filterMap]
  constructor
  · rintro ⟨⟨names, node⟩, hEntry, hName⟩
    split at hName
    next hFolder =>
      obtain ⟨front, hFront⟩ := List.getLast?_eq_some_iff.mp hName
      simp only at hFront hFolder
      rw [hFront, List.dropLast_concat] at hFolder
      rw [hFront, hFolder] at hEntry
      exact ⟨node, hEntry⟩
    next => cases hName
  · rintro ⟨node, hEntry⟩
    exact ⟨_, hEntry, by simp⟩

/-- What an entry names stands for something. -/
theorem node?_of_entry {d : Disk} {names : List String} {node : Node} (hSome : names ≠ [])
    (hEntry : (names, node) ∈ d.entries) : d.node? names ≠ none := by
  rw [node?_of_ne_nil _ hSome, Ne, Option.map_eq_none_iff, List.find?_eq_none]
  intro hNone
  exact hNone _ hEntry (by simp)

/-- What a name stands for is an entry. -/
theorem entry_of_node? {d : Disk} {names : List String} {node : Node} (hSome : names ≠ [])
    (hNode : d.node? names = some node) : (names, node) ∈ d.entries := by
  rw [node?_of_ne_nil _ hSome, Option.map_eq_some_iff] at hNode
  obtain ⟨⟨found, _⟩, hFound, rfl⟩ := hNode
  have hNames : found = names := by
    simpa using List.find?_some hFound
  subst hNames
  exact List.mem_of_find?_eq_some hFound

/-! ### Walking -/

/-- Where one component leads from a folder. -/
def enter (names : List String) (component : String) : Except StorageError (List String) :=
  if Path.isStay component then .ok names
  else if component = ".." then .ok names.dropLast
  else if greatestName < component.utf8ByteSize then .error .nameTooLong
  else .ok (names ++ [component])

theorem walk_cons {d : Disk} {names : List String} (hFolder : d.node? names = some .directory)
    (component : String) (rest : List String) :
    d.walk names (component :: rest) =
      (enter names component >>= fun next => d.walk next rest) := by
  rw [walk, hFolder, enter]
  simp only
  split
  · rfl
  · split
    · rfl
    · split <;> rfl

theorem walk_cons_ok {d : Disk} {names last : List String} {component : String}
    {rest : List String} (hWalk : d.walk names (component :: rest) = .ok last) :
    d.node? names = some .directory ∧
      ∃ next, enter names component = .ok next ∧ d.walk next rest = .ok last := by
  have hFolder : d.node? names = some .directory := by
    rw [walk] at hWalk
    split at hWalk
    next => cases hWalk
    next => cases hWalk
    next hFolder => exact hFolder
  rw [walk_cons hFolder] at hWalk
  exact ⟨hFolder, bind_eq_ok hWalk⟩

/-- An ordinary name leads to its place in a folder, if it is short enough. -/
theorem walk_name_ok {d : Disk} {folder last : List String} {name : String}
    (hStay : Path.isStay name = false) (hUp : name ≠ "..") :
    d.walk folder [name] = .ok last ↔
      d.node? folder = some .directory ∧ name.utf8ByteSize ≤ greatestName ∧
        last = folder ++ [name] := by
  have hEnter (next : List String) : enter folder name = .ok next ↔
      name.utf8ByteSize ≤ greatestName ∧ next = folder ++ [name] := by
    rw [enter, hStay, if_neg (by decide), if_neg hUp, ← Nat.not_lt]
    by_cases hLong : greatestName < name.utf8ByteSize
    · simp [hLong]
    · simp [hLong, eq_comm]
  constructor
  · intro hWalk
    obtain ⟨hFolder, next, hNext, hDone⟩ := walk_cons_ok hWalk
    cases hDone
    exact ⟨hFolder, (hEnter last).mp hNext⟩
  · rintro ⟨hFolder, hLast⟩
    rw [walk_cons hFolder, (hEnter last).mpr hLast]
    rfl

theorem walk_append_ok {d : Disk} {names last : List String} {first second : List String} :
    d.walk names (first ++ second) = .ok last ↔
      ∃ middle, d.walk names first = .ok middle ∧ d.walk middle second = .ok last := by
  induction first generalizing names with
  | nil =>
      constructor
      · intro hWalk
        exact ⟨names, rfl, hWalk⟩
      · rintro ⟨middle, hFirst, hSecond⟩
        cases hFirst
        exact hSecond
  | cons component first ih =>
      constructor
      · intro hWalk
        obtain ⟨hFolder, next, hNext, hRest⟩ := walk_cons_ok hWalk
        obtain ⟨middle, hFirst, hSecond⟩ := ih.mp hRest
        refine ⟨middle, ?_, hSecond⟩
        rw [walk_cons hFolder, hNext]
        exact hFirst
      · rintro ⟨middle, hFirst, hSecond⟩
        obtain ⟨hFolder, next, hNext, hRest⟩ := walk_cons_ok hFirst
        rw [List.cons_append, walk_cons hFolder, hNext]
        exact ih.mpr ⟨middle, hRest, hSecond⟩

/-- Components that stay in their folder lead nowhere else. -/
theorem walk_stays {d : Disk} {names last stays : List String}
    (hStays : ∀ component ∈ stays, Path.isStay component = true)
    (hWalk : d.walk names stays = .ok last) : last = names := by
  induction stays with
  | nil =>
      cases hWalk
      rfl
  | cons component stays ih =>
      obtain ⟨_, next, hNext, hRest⟩ := walk_cons_ok hWalk
      rw [enter, if_pos (hStays component List.mem_cons_self)] at hNext
      cases hNext
      exact ih (fun other hOther => hStays other (List.mem_cons_of_mem component hOther)) hRest

/-- A walk goes the same way where the same folders are. -/
theorem walk_of_folders {d other : Disk}
    (hFolders : ∀ names, d.node? names = some .directory → other.node? names = some .directory)
    {names last components : List String} (hWalk : d.walk names components = .ok last) :
    other.walk names components = .ok last := by
  induction components generalizing names with
  | nil => exact hWalk
  | cons component rest ih =>
      obtain ⟨hFolder, next, hNext, hRest⟩ := walk_cons_ok hWalk
      rw [walk_cons (hFolders names hFolder), hNext]
      exact ih hRest

/-- The folder of a path is where the components before its name lead. -/
theorem locate_folder (d : Disk) {p : Path} {before folder : List String} {name : String}
    (hBody : p.body = before ++ [name]) (hNul : '\x00' ∉ p.text.toList)
    (hWalk : d.walk [] before = .ok folder) : d.locate p.folder = .ok folder := by
  obtain ⟨kept, stays, rfl, hStays, hFolder⟩ := Path.folder_cases hBody
  obtain ⟨middle, hKept, hRest⟩ := walk_append_ok.mp hWalk
  have hSame := walk_stays hStays hRest
  subst hSame
  rcases hFolder with ⟨rfl, hPoint⟩ | ⟨hJoined, first, last, rfl, hLast⟩
  · cases hKept
    rw [hPoint]
    rfl
  · have hMember (component : String) (hComponent : component ∈ first ++ [last]) :
        component ∈ p.components := by
      refine Path.mem_components_of_mem_body ?_
      rw [hBody]
      exact List.mem_append_left _ (List.mem_append_left _ hComponent)
    have hText : (Path.joined (first ++ [last])).text ≠ "" := by
      obtain ⟨front, hFront⟩ := Path.toList_joined_concat first last
      intro hEmpty
      rw [hEmpty] at hFront
      simp [hLast] at hFront
    have hNoNul : '\x00' ∉ (Path.joined (first ++ [last])).text.toList := by
      intro hInJoined
      rcases Path.mem_joined hInJoined with hSlash | ⟨component, hComponent, hInside⟩
      · exact absurd hSlash (by decide)
      · exact hNul (Path.mem_text_of_mem (hMember component hComponent) hInside)
    rw [hJoined, locate, if_neg (by simpa using hText), if_neg (by simpa using hNoNul),
      Path.components_joined (by simp) fun component hComponent =>
        Path.slash_not_mem_component (hMember component hComponent)]
    exact hKept

theorem namesIn_ok {d : Disk} {p : Path} {folder : List String} (hLocate : d.locate p = .ok folder)
    (hFolder : d.node? folder = some .directory) :
    d.namesIn p = .ok (namesOf d.entries folder) := by
  rw [namesIn, hLocate, ok_bind, hFolder]
  rfl

end Disk

/-! ### The files of a stem -/

/-- An extension of three ordinary letters. -/
structure Path.Plain (extension : String) : Prop where
  length_eq : extension.toList.length = 3
  size_eq : extension.utf8ByteSize = 3
  ordinary : ∀ c ∈ extension.toList, c ≠ '/' ∧ c ≠ '.' ∧ c ≠ '\x00'

instance (extension : String) : Decidable (Path.Plain extension) :=
  decidable_of_iff (extension.toList.length = 3 ∧ extension.utf8ByteSize = 3 ∧
      extension.toList.all (fun c => c ≠ '/' ∧ c ≠ '.' ∧ c ≠ '\x00') = true)
    ⟨fun ⟨hLength, hSize, hAll⟩ => ⟨hLength, hSize, by simpa using hAll⟩,
      fun ⟨hLength, hSize, hOrdinary⟩ => ⟨hLength, hSize, by simpa using hOrdinary⟩⟩

theorem Path.Plain.slash_not_mem {extension : String} (h : Plain extension) :
    '/' ∉ extension.toList := fun hMember => (h.ordinary _ hMember).1 rfl

theorem Path.Plain.point_not_mem {extension : String} (h : Plain extension) :
    '.' ∉ extension.toList := fun hMember => (h.ordinary _ hMember).2.1 rfl

theorem Path.Plain.two_le_length {extension : String} (h : Plain extension) :
    2 ≤ extension.toList.length := by
  rw [h.length_eq]
  decide

open Shapefile.Path

/-- The extensions of the files of a dataset. -/
theorem Path.plain_companions :
    Plain "shp" ∧ Plain "shx" ∧ Plain "dbf" ∧ Plain "prj" ∧ Plain "cpg" := by
  decide +kernel

/-- The path leads to the shape file of a stem in a folder, whatever is there. -/
structure Disk.Place (d : Disk) (p : Path) (before folder : List String) (stem : String) :
    Prop where
  path : p.ToShapes before stem
  no_nul : '\x00' ∉ p.text.toList
  short : stem.utf8ByteSize + 4 ≤ Disk.greatestName
  walk_eq : d.walk [] before = .ok folder
  directory : d.node? folder = some .directory

/-- The path leads to the shape file of a stem in a folder, and what has a
name in this folder are files of this stem with these extensions. -/
structure Disk.Site (d : Disk) (p : Path) (before folder : List String) (stem : String)
    (files : List (String × FileId)) : Prop where
  path : p.ToShapes before stem
  no_nul : '\x00' ∉ p.text.toList
  short : stem.utf8ByteSize + 4 ≤ Disk.greatestName
  walk_eq : d.walk [] before = .ok folder
  directory : d.node? folder = some .directory
  nodes : ∀ name, d.node? (folder ++ [name]) =
    (files.find? fun file => fileName stem file.1 = name).map fun file => .file file.2

namespace Disk.Place

variable {d : Disk} {p : Path} {before folder : List String} {stem : String}

theorem locate_eq (h : d.Place p before folder stem) {extension : String}
    (hPlain : Plain extension) :
    d.locate (beside before stem extension) = .ok (folder ++ [fileName stem extension]) := by
  have hSlash := hPlain.slash_not_mem
  obtain ⟨hStay, hUp⟩ := fileName_ordinary stem extension hPlain.two_le_length
  have hSize : (fileName stem extension).utf8ByteSize ≤ greatestName := by
    rw [fileName, String.utf8ByteSize_append, String.utf8ByteSize_append, hPlain.size_eq]
    exact h.short
  have hText : (beside before stem extension).text ≠ "" := by
    obtain ⟨front, hFront⟩ := toList_joined_concat before (fileName stem extension)
    intro hEmpty
    rw [← beside, hEmpty, toList_fileName] at hFront
    simp at hFront
  have hNul : '\x00' ∉ (beside before stem extension).text.toList := by
    intro hMember
    rcases h.path.mem_beside hMember with hSlash | hPoint | hExtension | hText
    · exact absurd hSlash (by decide)
    · exact absurd hPoint (by decide)
    · exact (hPlain.ordinary _ hExtension).2.2 rfl
    · exact h.no_nul hText
  rw [locate, if_neg (by simpa using hText), if_neg (by simpa using hNul),
    h.path.components_beside hSlash]
  exact walk_append_ok.mpr
    ⟨folder, h.walk_eq, (walk_name_ok hStay hUp).mpr ⟨h.directory, hSize, rfl⟩⟩

theorem locate_folder (h : d.Place p before folder stem) : d.locate p.folder = .ok folder :=
  d.locate_folder (h.path.body_eq.trans h.path.components_eq) h.no_nul h.walk_eq

/-- The names in the folder are the last ones of its entries. -/
theorem namesIn_eq (h : d.Place p before folder stem) :
    d.namesIn p.folder = .ok (namesOf d.entries folder) :=
  namesIn_ok h.locate_folder h.directory

end Disk.Place

/-- What makes a file of the stem a companion is its extension. -/
theorem Companions.isCompanionName_fileName {stem other : String} (hStem : stem ≠ "")
    (hPoint : '.' ∉ other.toList) (extension : String) :
    isCompanionName stem extension (fileName stem other) = sameLetters other extension := by
  rw [isCompanionName, splitName_fileName hStem hPoint]
  simp

namespace Disk.Site

variable {d : Disk} {p : Path} {before folder : List String} {stem : String}
  {files : List (String × FileId)}

theorem place (h : d.Site p before folder stem files) : d.Place p before folder stem :=
  ⟨h.path, h.no_nul, h.short, h.walk_eq, h.directory⟩

theorem of_entries (h : d.Site p before folder stem files) {other : Disk}
    (hEntries : other.entries = d.entries) : other.Site p before folder stem files := by
  have hNodes := node?_congr hEntries
  refine ⟨h.path, h.no_nul, h.short, ?_, ?_, fun name => ?_⟩
  · refine walk_of_folders (fun names hFolder => ?_) h.walk_eq
    rw [hNodes, hFolder]
  · rw [hNodes, h.directory]
  · rw [hNodes, h.nodes]

theorem node?_beside (h : d.Site p before folder stem files) (extension : String) :
    d.node? (folder ++ [fileName stem extension]) =
      (files.find? fun file => file.1 = extension).map fun file => .file file.2 := by
  rw [h.nodes]
  simp only [fileName_inj]

theorem find_eq (h : d.Site p before folder stem files) {extension : String} {id : FileId}
    (hPlain : Plain extension)
    (hFile : files.find? (fun file => file.1 = extension) = some (extension, id)) :
    d.find (beside before stem extension) = .ok id := by
  rw [Disk.find, h.place.locate_eq hPlain, ok_bind, h.node?_beside, hFile]
  rfl

theorem isFile_eq (h : d.Site p before folder stem files) {extension : String}
    (hPlain : Plain extension) :
    d.isFile (beside before stem extension) =
      (files.find? fun file => file.1 = extension).isSome := by
  rw [isFile, h.place.locate_eq hPlain]
  simp only [h.node?_beside]
  cases files.find? fun file => file.1 = extension <;> rfl

/-- A file beside is created if there is none with its extension. -/
theorem create_eq (h : d.Site p before folder stem files) {extension : String}
    (hPlain : Plain extension) (hNew : ∀ file ∈ files, file.1 ≠ extension) :
    ∃ next, d.create (beside before stem extension) = .ok (d.contents.size, next) ∧
      next.Site p before folder stem (files ++ [(extension, d.contents.size)]) ∧
      next.contents.size = d.contents.size + 1 ∧
      ∀ id, next.content id = d.content id := by
  have hSlash := hPlain.slash_not_mem
  have hSome : extension ≠ "" := by
    rintro rfl
    exact absurd hPlain.length_eq (by decide)
  have hStays := withoutSlashes_beside before stem hSome hSlash
  have hNone : files.find? (fun file => file.1 = extension) = none := by
    rw [List.find?_eq_none]
    intro file hFile
    simpa using hNew file hFile
  have hFree : d.node? (folder ++ [fileName stem extension]) = none := by
    rw [h.node?_beside, hNone]
    rfl
  have hNames : folder ++ [fileName stem extension] ≠ [] := by simp
  have hEarlier (names : List String) {node : Node} (hNode : d.node? names = some node) :
      names ≠ folder ++ [fileName stem extension] := by
    rintro rfl
    rw [hFree] at hNode
    cases hNode
  refine ⟨⟨d.entries ++ [(folder ++ [fileName stem extension], .file d.contents.size)],
      d.contents.push #[]⟩, ?_,
    ⟨h.path, h.no_nul, h.short, ?_, ?_, fun name => ?_⟩, Array.size_push _, fun id => ?_⟩
  · rw [create, hStays, h.place.locate_eq hPlain]
    rw [ok_bind, if_neg (not_not_intro rfl)]
    simp only [hFree, List.dropLast_concat, h.directory]
  · refine walk_of_folders (fun names hFolder => ?_) h.walk_eq
    rw [node?_added_other d (hEarlier names hFolder), hFolder]
  · rw [node?_added_other d (hEarlier folder h.directory), h.directory]
  · rw [List.find?_append]
    by_cases hSame : name = fileName stem extension
    · rw [hSame, node?_added hNames hFree]
      simp only [fileName_inj, hNone]
      simp
    · rw [node?_added_other d (by simpa using hSame), h.nodes]
      simp [Ne.symm hSame]
  · simp only [content, Array.getElem?_push]
    split
    next hLast => rw [hLast, Array.getElem?_eq_none (Nat.le_refl _)]; rfl
    next => rfl

/-! ### Companions -/

/-- The names in the folder are those of its files. -/
theorem namesIn_folder (h : d.Site p before folder stem files) :
    ∃ names, d.namesIn p.folder = .ok names ∧
      ∀ name ∈ names, ∃ file ∈ files, name = fileName stem file.1 := by
  refine ⟨_, h.place.namesIn_eq, fun name hName => ?_⟩
  obtain ⟨_, hEntry⟩ := mem_namesOf.mp hName
  have hSome := node?_of_entry (by simp) hEntry
  rw [h.nodes] at hSome
  cases hFile : files.find? fun file => fileName stem file.1 = name with
  | none =>
      rw [hFile] at hSome
      exact absurd rfl hSome
  | some file =>
      have hFound : fileName stem file.1 = name := by
        simpa using List.find?_some hFile
      exact ⟨file, List.mem_of_find?_eq_some hFile, hFound.symm⟩

/-- A companion that is there is found under its own extension. -/
theorem companion?_eq_some (h : d.Site p before folder stem files) {extension : String}
    {id : FileId} (hPlain : Plain extension)
    (hFile : files.find? (fun file => file.1 = extension) = some (extension, id)) :
    Companions.companion? d p extension = .ok (some (beside before stem extension)) := by
  rw [Companions.companion?, h.path.withExtension_eq, h.isFile_eq hPlain, hFile]
  rfl

/-- A companion is missing when no file has its extension in either case. -/
theorem companion?_eq_none (h : d.Site p before folder stem files) {extension : String}
    (hPlain : Plain extension)
    (hOthers : ∀ other ∈ files.map Prod.fst,
      Plain other ∧ Companions.sameLetters other extension = false) :
    Companions.companion? d p extension = .ok none := by
  have hNone : files.find? (fun file => file.1 = extension) = none := by
    rw [List.find?_eq_none]
    intro file hFile hSame
    have hExtension : file.1 = extension := by simpa using hSame
    have hOther := (hOthers file.1 (List.mem_map_of_mem hFile)).2
    rw [hExtension] at hOther
    simp [Companions.sameLetters] at hOther
  obtain ⟨names, hNames, hListed⟩ := h.namesIn_folder
  have hCandidates : names.filter (Companions.isCompanionName stem extension) = [] := by
    rw [List.filter_eq_nil_iff]
    intro name hName
    obtain ⟨file, hFile, rfl⟩ := hListed name hName
    obtain ⟨hFilePlain, hOther⟩ := hOthers file.1 (List.mem_map_of_mem hFile)
    rw [Companions.isCompanionName_fileName h.path.stem_ne_empty hFilePlain.point_not_mem,
      hOther]
    decide
  rw [Companions.companion?, h.path.withExtension_eq, h.isFile_eq hPlain, hNone]
  simp only [h.path.stem?_eq, hNames, Option.isSome_none, Bool.false_eq_true, if_false, ok_bind,
    hCandidates]
  rfl

end Disk.Site

end Shapefile
