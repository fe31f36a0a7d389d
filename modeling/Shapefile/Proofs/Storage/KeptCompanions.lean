import Mathlib.Data.List.Find
import Shapefile.Proofs.Storage.CompanionPaths
import Shapefile.Proofs.Storage.NamedFiles

/-! Looking for a companion on a disk that has changed. Whether a companion is
found, and which file it is, depends on nothing but the files of the stem with
its extension in either case, so changes to the other files of a dataset leave
it as it was. -/
namespace Shapefile

open Shapefile.Path

namespace Path

/-- A name with an extension is the name of a file of its stem. -/
theorem eq_fileName_of_splitName {name stem extension : String}
    (hSplit : splitName name = (stem, some extension)) : name = fileName stem extension := by
  have hWhole := List.takeWhile_append_dropWhile (p := (· != '.')) (l := name.toList.reverse)
  simp only [splitName] at hSplit
  split at hSplit
  next hRest =>
    cases hSplit
    rw [hRest] at hWhole
    have hReversed := congrArg List.reverse hWhole
    rw [List.reverse_reverse] at hReversed
    rw [← String.toList_inj, toList_fileName]
    simpa using hReversed.symm
  next => cases hSplit

/-- The path of a file in a folder ends in its name. -/
theorem components_child (folder : Path) {name : String} (hSlash : '/' ∉ name.toList) :
    (folder.child name).components = folder.components ++ [name] := by
  have hText : (folder.child name).text.toList = folder.text.toList ++ '/' :: name.toList := by
    rw [child, String.toList_append, String.toList_append, List.append_assoc]
    rfl
  rw [components, hText, splitSlashes_append, splitSlashes_of_slash_not_mem hSlash,
    List.map_append, List.map_singleton, String.ofList_toList]
  rfl

end Path

namespace Companions

theorem isCompanionName_cases {stem extension name : String}
    (hCompanion : isCompanionName stem extension name = true) :
    ∃ other, name = fileName stem other ∧ sameLetters other extension = true := by
  simp only [isCompanionName, Bool.and_eq_true, beq_iff_eq, Option.any_eq_true] at hCompanion
  obtain ⟨hStem, other, hOther, hSame⟩ := hCompanion
  exact ⟨other, eq_fileName_of_splitName (Prod.ext hStem hOther), hSame⟩

/-- An extension in other letters is as long, and has the same characters that
are not letters. -/
theorem length_eq_of_sameLetters {first second : String}
    (hSame : sameLetters first second = true) : first.toList.length = second.toList.length := by
  rw [sameLetters, beq_iff_eq] at hSame
  simpa using congrArg List.length hSame

theorem not_mem_of_sameLetters {first second : String} {c : Char}
    (hSame : sameLetters first second = true) (hLower : c.toLower = c)
    (hNot : c ∉ second.toList.map Char.toLower) : c ∉ first.toList := by
  rw [sameLetters, beq_iff_eq] at hSame
  intro hMember
  rw [← hSame] at hNot
  exact hNot (List.mem_map.mpr ⟨c, hMember, hLower⟩)

end Companions

namespace Disk

variable {d last : Disk} {p : Path} {before folder : List String} {stem : String}
  {changed : List (List String)}

/-- A path to a companion leads to a name of the stem and the extension, in
either case. -/
def LeadsTo (d : Disk) (p : Path) (stem extension : String) : Prop :=
  ∀ names, d.locate p = .ok names → ∃ front other,
    names = front ++ [fileName stem other] ∧ Companions.sameLetters other extension = true

theorem child_leadsTo {extension name : String} (hPlain : Plain extension)
    (hSlash : '/' ∉ extension.toList.map Char.toLower) (hStem : '/' ∉ stem.toList)
    (hCompanion : Companions.isCompanionName stem extension name = true) (d : Disk) (p : Path) :
    d.LeadsTo (p.child name) stem extension := by
  intro names hLocate
  obtain ⟨other, rfl, hSame⟩ := Companions.isCompanionName_cases hCompanion
  have hOtherSlash := Companions.not_mem_of_sameLetters hSame rfl hSlash
  have hNameSlash : '/' ∉ (fileName stem other).toList := by
    rw [toList_fileName]
    simp only [List.mem_append, List.mem_cons, not_or]
    exact ⟨hStem, by decide, hOtherSlash⟩
  obtain ⟨hStay, hUp⟩ := fileName_ordinary stem other
    (Companions.length_eq_of_sameLetters hSame ▸ hPlain.two_le_length)
  obtain ⟨_, _, hWalk⟩ := locate_ok hLocate
  rw [components_child p hNameSlash] at hWalk
  obtain ⟨front, _, hLast⟩ := walk_append_ok.mp hWalk
  obtain ⟨_, _, rfl⟩ := (walk_name_ok hStay hUp).mp hLast
  exact ⟨front, other, rfl, hSame⟩

/-- The place of a shape file is the same on a disk with other files. -/
theorem Kept.place_iff (hKept : d.Kept last changed) :
    last.Place p before folder stem ↔ d.Place p before folder stem := by
  constructor
  · intro hPlace
    exact ⟨hPlace.path, hPlace.no_nul, hPlace.short,
      walk_of_folders (fun _ hFolder => (hKept.folder_iff _).mp hFolder) hPlace.walk_eq,
      (hKept.folder_iff _).mp hPlace.directory⟩
  · intro hPlace
    exact ⟨hPlace.path, hPlace.no_nul, hPlace.short,
      walk_of_folders (fun _ hFolder => (hKept.folder_iff _).mpr hFolder) hPlace.walk_eq,
      (hKept.folder_iff _).mpr hPlace.directory⟩

theorem beside_leadsTo (hPlace : d.Place p before folder stem) {extension : String}
    (hPlain : Plain extension) : d.LeadsTo (beside before stem extension) stem extension := by
  intro names hLocate
  rw [hPlace.locate_eq hPlain] at hLocate
  cases hLocate
  exact ⟨folder, extension, rfl, by simp [Companions.sameLetters]⟩

/-- The names of a file of the stem with another extension than this one, in
whatever case. -/
def Foreign (folder : List String) (stem extension : String) (names : List String) : Prop :=
  ∃ other, Plain other ∧ Companions.sameLetters other extension = false ∧
    names = folder ++ [fileName stem other]

theorem LeadsTo.not_mem {path : Path} {extension : String}
    (hLeads : d.LeadsTo path stem extension)
    (hForeign : ∀ names ∈ changed, Foreign folder stem extension names) :
    ∀ names, d.locate path = .ok names → names ∉ changed := by
  intro names hLocate hChanged
  obtain ⟨front, other, rfl, hSame⟩ := hLeads names hLocate
  obtain ⟨foreign, _, hOther, hNames⟩ := hForeign _ hChanged
  have hLast : fileName stem other = fileName stem foreign :=
    List.singleton_inj.mp (List.append_inj_right' hNames rfl)
  rw [fileName_inj.mp hLast, hOther] at hSame
  cases hSame

/-- Where a companion with an extension is looked for when it is not there
with the extension as it stands. -/
theorem companion?_eq (hPlace : d.Place p before folder stem) (extension : String) :
    Companions.companion? d p extension =
      .ok (if d.isFile (beside before stem extension) then some (beside before stem extension)
        else (((namesOf d.entries folder).filter
          (Companions.isCompanionName stem extension)).map p.folder.child).find? d.isFile) := by
  rw [Companions.companion?, hPlace.path.withExtension_eq, hPlace.path.stem?_eq]
  simp only [hPlace.namesIn_eq, ok_bind]
  split <;> rfl

/-- A companion that is found is a file of the stem with the extension. -/
theorem companion?_some (hPlace : d.Place p before folder stem) {extension : String}
    (hPlain : Plain extension) (hSlash : '/' ∉ extension.toList.map Char.toLower) {path : Path}
    (hFound : Companions.companion? d p extension = .ok (some path)) :
    d.isFile path = true ∧ d.LeadsTo path stem extension := by
  rw [companion?_eq hPlace, Except.ok.injEq] at hFound
  split at hFound
  next hThere =>
    cases hFound
    exact ⟨hThere, beside_leadsTo hPlace hPlain⟩
  next =>
    refine ⟨List.find?_some hFound, ?_⟩
    obtain ⟨name, hName, rfl⟩ := List.mem_map.mp (List.mem_of_find?_eq_some hFound)
    exact child_leadsTo hPlain hSlash hPlace.path.slash_not_mem_stem (List.mem_filter.mp hName).2 d
      p.folder

/-- Changes to files with other extensions do not change which companion is
found. -/
theorem Kept.companion?_eq (hKept : d.Kept last changed)
    (hPlace : d.Place p before folder stem) {extension : String} (hPlain : Plain extension)
    (hSlash : '/' ∉ extension.toList.map Char.toLower)
    (hForeign : ∀ names ∈ changed, Foreign folder stem extension names) :
    Companions.companion? last p extension = Companions.companion? d p extension := by
  rw [Disk.companion?_eq (hKept.place_iff.mpr hPlace), Disk.companion?_eq hPlace,
    hKept.isFile_eq ((beside_leadsTo hPlace hPlain).not_mem hForeign)]
  obtain ⟨added, hAdded, hIn⟩ := hKept.entries
  -- what was added to the folder has another extension, so it is passed over
  have hNone : (namesOf added folder).filter (Companions.isCompanionName stem extension) = [] := by
    rw [List.filter_eq_nil_iff]
    intro name hName
    obtain ⟨_, hEntry⟩ := mem_namesOf.mp hName
    obtain ⟨other, hOther, hApart, hNames⟩ := hForeign _ (hIn _ hEntry)
    rw [List.singleton_inj.mp (List.append_cancel_left hNames),
      Companions.isCompanionName_fileName hPlace.path.stem_ne_empty hOther.point_not_mem, hApart]
    decide
  rw [hAdded, namesOf, List.filterMap_append, List.filter_append, ← namesOf, ← namesOf, hNone,
    List.append_nil]
  congr 2
  refine List.find?_congr fun path hPath => ?_
  obtain ⟨name, hName, rfl⟩ := List.mem_map.mp hPath
  exact hKept.isFile_eq ((child_leadsTo hPlain hSlash hPlace.path.slash_not_mem_stem
    (List.mem_filter.mp hName).2 d p.folder).not_mem hForeign)

end Disk

end Shapefile
