import Shapefile.Proofs.Storage.FolderFiles

/-! Where the paths of companions lead. Whatever path a dataset is created
under, the paths with its extensions either all lead to one folder, where they
differ in the extension of a name, or lead to a folder themselves. -/
namespace Shapefile

namespace Path

/-- The last component of a body does not stay in its folder. -/
theorem last_of_body {p : Path} {name : String} (hLast : p.body.getLast? = some name) :
    isStay name = false := by
  rw [body, List.getLast?_reverse] at hLast
  have hHead := List.head?_dropWhile_not isStay p.components.reverse
  rw [hLast] at hHead
  simpa using hHead

/-- A stem is made of letters of its name, and there is one if there is a
name. -/
theorem splitName_stem (name : String) :
    (∀ c ∈ (splitName name).1.toList, c ∈ name.toList) ∧
      (name ≠ "" → (splitName name).1 ≠ "") := by
  simp only [splitName]
  split
  next c stem hRest =>
    refine ⟨fun other hOther => ?_, fun _ hEmpty => ?_⟩
    · have hInside : other ∈ name.toList.reverse.dropWhile (· != '.') := by
        rw [hRest]
        rw [String.toList_ofList, List.mem_reverse] at hOther
        exact List.mem_cons_of_mem '.' hOther
      exact List.mem_reverse.mp ((List.dropWhile_sublist _).mem hInside)
    · have hLetters := congrArg String.toList hEmpty
      simp at hLetters
  next => exact ⟨fun _ hOther => hOther, id⟩

theorem stem_spec {p : Path} {stem : String} (hStem : p.stem? = some stem) :
    stem ≠ "" ∧ '/' ∉ stem.toList := by
  obtain ⟨name, hName, rfl⟩ := Option.map_eq_some_iff.mp hStem
  obtain ⟨last, hLast, hOrdinary⟩ := Option.bind_eq_some_iff.mp hName
  obtain ⟨hLetters, hSome⟩ := splitName_stem name
  split at hOrdinary
  · cases hOrdinary
  · cases hOrdinary
    refine ⟨hSome ?_, fun hSlash => ?_⟩
    · rintro rfl
      have hStay := last_of_body hLast
      simp [isStay] at hStay
    · exact slash_not_mem_body (List.mem_of_getLast? hLast) (hLetters _ hSlash)

/-- The path with an extension is the file beside, if the path has a stem that
takes extensions. -/
theorem withExtension_eq_beside {p : Path} {stem : String} (hStem : p.stem? = some stem)
    (hOrdinary : ¬(stem = "." ∧ p.body = p.components)) (extension : String) :
    p.withExtension extension = beside p.body.dropLast stem extension := by
  rw [withExtension, hStem]
  simp only [if_neg hOrdinary]
  rfl

/-- Another name takes the place of the last component. -/
theorem components_renamed (p : Path) {name : String} (hSlash : '/' ∉ name.toList) :
    (joined (p.body.dropLast ++ [name])).components = p.body.dropLast ++ [name] := by
  refine components_joined (by simp) fun component hComponent => ?_
  rcases List.mem_append.mp hComponent with hBefore | hLast
  · exact slash_not_mem_body (List.dropLast_subset _ hBefore)
  · rw [List.mem_singleton.mp hLast]
    exact hSlash

theorem components_beside_body {p : Path} {stem : String} (hStem : p.stem? = some stem)
    {extension : String} (hExtension : '/' ∉ extension.toList) :
    (beside p.body.dropLast stem extension).components =
      p.body.dropLast ++ [fileName stem extension] := by
  refine p.components_renamed ?_
  rw [toList_fileName]
  simp only [List.mem_append, List.mem_cons, not_or]
  exact ⟨(stem_spec hStem).2, by decide, hExtension⟩

end Path

open Shapefile.Path

namespace Disk

variable {d : Disk} {names last : List String}

/-- Every folder above these names is there. -/
def Reached (d : Disk) (names : List String) : Prop :=
  ∀ depth < names.length, d.node? (names.take depth) = some .directory

theorem Reached.above (hReached : d.Reached names) : d.node? names.dropLast = some .directory := by
  rw [List.dropLast_eq_take]
  cases names with
  | nil => rfl
  | cons first rest => exact hReached _ (by simp)

/-- A walk comes only through folders. -/
theorem walk_reached {components : List String} (hReached : d.Reached names)
    (hWalk : d.walk names components = .ok last) : d.Reached last := by
  induction components generalizing names with
  | nil =>
      cases hWalk
      exact hReached
  | cons component rest ih =>
      obtain ⟨hFolder, next, hEnter, hRest⟩ := walk_cons_ok hWalk
      refine ih ?_ hRest
      rw [enter] at hEnter
      split at hEnter
      · cases hEnter
        exact hReached
      · split at hEnter
        · cases hEnter
          intro depth hDepth
          rw [List.length_dropLast] at hDepth
          rw [List.dropLast_eq_take, List.take_take, Nat.min_eq_left (Nat.le_of_lt hDepth)]
          exact hReached depth (by omega)
        · split at hEnter
          · cases hEnter
          · cases hEnter
            intro depth hDepth
            rw [List.length_append, List.length_singleton] at hDepth
            rw [List.take_append_of_le_length (Nat.le_of_lt_succ hDepth)]
            rcases Nat.lt_or_eq_of_le (Nat.le_of_lt_succ hDepth) with hAbove | hAll
            · exact hReached depth hAbove
            · rw [hAll, List.take_length]
              exact hFolder

theorem reached_nil (d : Disk) : d.Reached [] := nofun

/-- What a path without nuls leads to is found by walking. -/
theorem locate_ok {p : Path} (hLocate : d.locate p = .ok names) :
    p.text ≠ "" ∧ '\x00' ∉ p.text.toList ∧ d.walk [] p.components = .ok names := by
  rw [locate] at hLocate
  split at hLocate
  · cases hLocate
  next hText =>
    split at hLocate
    · cases hLocate
    next hNul => exact ⟨by simpa using hText, by simpa using hNul, hLocate⟩

/-- A walk that ends with the way up ends in a folder. -/
theorem walk_up {components : List String} (hWalk : d.walk [] (components ++ [".."]) = .ok last) :
    d.node? last = some .directory := by
  obtain ⟨middle, hFirst, hUp⟩ := walk_append_ok.mp hWalk
  obtain ⟨_, next, hEnter, hDone⟩ := walk_cons_ok hUp
  cases hDone
  cases hEnter
  exact (walk_reached d.reached_nil hFirst).above

/-- A path that has no stem leads to a folder. -/
theorem folder_of_no_stem {p : Path} (hStem : p.stem? = none)
    (hLocate : d.locate p = .ok names) : d.node? names = some .directory := by
  obtain ⟨_, _, hWalk⟩ := locate_ok hLocate
  obtain ⟨stays, hComponents, hStays⟩ := p.components_eq_body_append
  rw [hComponents] at hWalk
  obtain ⟨middle, hBody, hRest⟩ := walk_append_ok.mp hWalk
  have hSame := walk_stays hStays hRest
  subst hSame
  rw [stem?, Option.map_eq_none_iff, fileName?] at hStem
  rcases List.eq_nil_or_concat p.body with hNil | ⟨front, name, hConcat⟩
  · rw [hNil] at hBody
    cases hBody
    rfl
  · rw [hConcat, List.concat_eq_append, List.getLast?_concat, Option.bind_some] at hStem
    split at hStem
    next hUp =>
      rw [hConcat, List.concat_eq_append, hUp] at hBody
      exact walk_up hBody
    next => cases hStem

/-- A companion path that does not lead to a folder leads to a name in the
folder of all companions. -/
theorem locate_companion {p : Path} {extension : String} (hPlain : Plain extension)
    (hLocate : d.locate (p.withExtension extension) = .ok names)
    (hFree : d.node? names ≠ some .directory) :
    ∃ stem folder, p.stem? = some stem ∧ ¬(stem = "." ∧ p.body = p.components) ∧
      d.walk [] p.body.dropLast = .ok folder ∧ d.node? folder = some .directory ∧
      names = folder ++ [fileName stem extension] ∧
      (fileName stem extension).utf8ByteSize ≤ greatestName := by
  have hSlash := hPlain.slash_not_mem
  cases hStem : p.stem? with
  | none =>
      rw [withExtension, hStem] at hLocate
      exact absurd (folder_of_no_stem hStem hLocate) hFree
  | some stem =>
      obtain ⟨_, _, hWalk⟩ := locate_ok hLocate
      by_cases hOrdinary : stem = "." ∧ p.body = p.components
      · have hUp : (p.withExtension extension).components = p.body.dropLast ++ [".."] := by
          rw [withExtension, hStem]
          simp only [if_pos hOrdinary]
          exact p.components_renamed (by decide)
        rw [hUp] at hWalk
        exact absurd (walk_up hWalk) hFree
      · rw [withExtension_eq_beside hStem hOrdinary, components_beside_body hStem hSlash] at hWalk
        obtain ⟨folder, hFolder, hLast⟩ := walk_append_ok.mp hWalk
        obtain ⟨hStay, hUp⟩ := fileName_ordinary stem extension hPlain.two_le_length
        obtain ⟨hDirectory, hShort, rfl⟩ := (walk_name_ok hStay hUp).mp hLast
        exact ⟨stem, folder, rfl, hOrdinary, hFolder, hDirectory, rfl, hShort⟩

/-- A path under which a shape file can be put leads to a place for a dataset,
unless its stem is a lone point. -/
theorem exists_place {p : Path} (hStem : p.stem? ≠ some ".")
    (hLocate : d.locate (p.withExtension "shp") = .ok names)
    (hFree : d.node? names ≠ some .directory) :
    ∃ before folder stem, d.Place (p.withExtension "shp") before folder stem ∧
      ∀ extension, p.withExtension extension = beside before stem extension := by
  obtain ⟨hShp, _⟩ := plain_companions
  obtain ⟨stem, folder, hSome, hOrdinary, hWalk, hFolder, rfl, hSize⟩ :=
    locate_companion hShp hLocate hFree
  obtain ⟨_, hNul, _⟩ := locate_ok hLocate
  have hBeside := withExtension_eq_beside hSome hOrdinary
  have hPoint : stem ≠ "." := by
    rintro rfl
    exact hStem hSome
  rw [fileName, String.utf8ByteSize_append, String.utf8ByteSize_append, hShp.size_eq] at hSize
  refine ⟨p.body.dropLast, folder, stem, ⟨⟨?_, (stem_spec hSome).1, hPoint⟩, hNul, hSize, hWalk,
    hFolder⟩, hBeside⟩
  rw [hBeside]
  exact components_beside_body hSome (by decide)

/-- Companions with other extensions have other names. -/
theorem companions_apart {p : Path} {first second : String} (hFirst : Plain first)
    (hSecond : Plain second) (hOther : first ≠ second) {other : List String}
    (hLocate : d.locate (p.withExtension first) = .ok names)
    (hLocateOther : d.locate (p.withExtension second) = .ok other)
    (hFree : d.node? names ≠ some .directory) (hFreeOther : d.node? other ≠ some .directory) :
    names ≠ other := by
  obtain ⟨stem, folder, hStem, _, hWalk, _, rfl, _⟩ := locate_companion hFirst hLocate hFree
  obtain ⟨_, _, hSameStem, _, hSameWalk, _, rfl, _⟩ :=
    locate_companion hSecond hLocateOther hFreeOther
  rw [hStem] at hSameStem
  rw [hWalk] at hSameWalk
  cases hSameStem
  cases hSameWalk
  intro hSame
  exact hOther (fileName_inj.mp (List.cons.inj (List.append_cancel_left hSame)).1)

end Disk

end Shapefile
