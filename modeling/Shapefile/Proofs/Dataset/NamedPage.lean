import Shapefile.Dataset.Reading
import Shapefile.Proofs.Dataset.CreationSteps
import Shapefile.Proofs.Storage.KeptCompanions

/-! The code page that a code page file names. The file of a new dataset holds
the registry's name of its page, and every page that a label can name is the
one that its name in the registry is a label of, but for the stand-in for
retired encodings, whose name is no label. -/
namespace Shapefile

open Shapefile.Path Shapefile.Text

namespace Text.CodePage

/-- Labels name the pages of the registry and no others. -/
theorem mem_registry_of_label {label : List Char} {page : CodePage}
    (hPage : ofLabel? label = some page) : page ∈ registry.map Prod.fst := by
  have hRegistry : ∀ label, ofRegistryLabel? label = some page →
      page ∈ registry.map Prod.fst := by
    intro label hFound
    obtain ⟨entry, hEntry, rfl⟩ := Option.map_eq_some_iff.mp hFound
    exact List.mem_map_of_mem (List.mem_of_find?_eq_some hEntry)
  have hNumbered : ∀ entry ∈ numbered, entry.2 ∈ registry.map Prod.fst := by
    decide +kernel
  rw [ofLabel?] at hPage
  rcases Option.or_eq_some_iff.mp hPage with hFound | ⟨_, hNumber⟩
  · exact hRegistry _ hFound
  · obtain ⟨number, _, hFound⟩ := Option.bind_eq_some_iff.mp hNumber
    split at hFound
    next hEntry =>
      cases hFound
      exact hNumbered _ (List.mem_of_find?_eq_some hEntry)
    next => exact hRegistry _ hFound

/-- What a code page file with these bytes names. -/
def ofFile? (bytes : Bytes) : Option CodePage := ofLabel? (trim (Utf8.decode bytes.toList))

/-- The label of a page names the page, except that of the replacement. -/
theorem ofFile?_labelBytes : ∀ page ∈ registry.map Prod.fst,
    ofFile? (Dataset.labelBytes page) = if page = replacement then none else some page := by
  decide +kernel

end Text.CodePage

namespace Companions

/-- The code page that the code page file of a shape file names, if there is
such a file and it names a page that is known. -/
def namedPage? (disk : Disk) (shapes : Path) : Option CodePage :=
  match companion? disk shapes "cpg" with
  | .ok (some file) => (readCodePage disk file).toOption.join
  | _ => none

variable {disk last : Disk} {p : Path} {before folder : List String} {stem : String}

theorem readCodePage_of_read {path : Path} {bytes : Bytes} (hRead : disk.read path = .ok bytes) :
    readCodePage disk path = .ok (CodePage.ofFile? bytes) := by
  rw [readCodePage, hRead]
  rfl

/-- Opening a dataset without a label asks the code page file. -/
theorem resolveCodePage_eq (hPlace : disk.Place p before folder stem) {file? : Option Path}
    (hFound : companion? disk p "cpg" = .ok file?) :
    Dataset.resolveCodePage disk none file? = .ok (namedPage? disk p) := by
  obtain ⟨_, _, _, _, hCpg⟩ := plain_companions
  cases file? with
  | none =>
      rw [namedPage?, hFound]
      rfl
  | some file =>
      obtain ⟨hFile, _⟩ := Disk.companion?_some hPlace hCpg (by decide) hFound
      obtain ⟨bytes, hRead⟩ := Disk.isFile_iff.mp hFile
      rw [Dataset.resolveCodePage, namedPage?, hFound]
      simp only [readCodePage_of_read hRead, Except.mapError, Except.toOption, Option.join_some]

/-- A code page file with the extension as it stands is the one that is asked. -/
theorem namedPage?_of_file (hPlace : disk.Place p before folder stem) {bytes : Bytes}
    (hFile : disk.fileAt? (folder ++ [fileName stem "cpg"]) = some bytes) :
    namedPage? disk p = CodePage.ofFile? bytes := by
  obtain ⟨_, _, _, _, hCpg⟩ := plain_companions
  have hRead := Disk.read_ok_iff.mpr ⟨_, hPlace.locate_eq hCpg, hFile⟩
  rw [namedPage?, Disk.companion?_eq hPlace, if_pos (Disk.isFile_iff.mpr ⟨bytes, hRead⟩)]
  simp only [readCodePage_of_read hRead, Except.toOption, Option.join_some]

/-- Files with other extensions do not change which page is named. -/
theorem namedPage?_kept (hPlace : disk.Place p before folder stem) {changed : List (List String)}
    (hKept : disk.Kept last changed)
    (hForeign : ∀ names ∈ changed, Disk.Foreign folder stem "cpg" names) :
    namedPage? last p = namedPage? disk p := by
  obtain ⟨_, _, _, _, hCpg⟩ := plain_companions
  rw [namedPage?, namedPage?, hKept.companion?_eq hPlace hCpg (by decide) hForeign]
  cases hFound : companion? disk p "cpg" with
  | error e => rfl
  | ok file? =>
      cases file? with
      | none => rfl
      | some file =>
          obtain ⟨hFile, hLeads⟩ := Disk.companion?_some hPlace hCpg (by decide) hFound
          obtain ⟨bytes, hRead⟩ := Disk.isFile_iff.mp hFile
          have hSame := (hKept.read_iff (hLeads.not_mem hForeign) bytes).mpr hRead
          simp only [readCodePage_of_read hRead, readCodePage_of_read hSame]

end Companions

end Shapefile
