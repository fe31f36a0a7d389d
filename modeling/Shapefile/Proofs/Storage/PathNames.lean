import Shapefile.Storage.Path

/-! Paths by their components. Joining and splitting at slashes undo each
other, so replacing the extension of a shape file's path gives the path of a
file beside it. -/
namespace Shapefile.Path

/-! ### Splitting and joining -/

theorem splitSlashes_ne_nil (text : List Char) : splitSlashes text ≠ [] := by
  cases text with
  | nil => simp [splitSlashes]
  | cons c rest =>
      rw [splitSlashes]
      split
      · simp
      · split <;> simp

theorem intercalate_splitSlashes (text : List Char) :
    ['/'].intercalate (splitSlashes text) = text := by
  induction text with
  | nil => rfl
  | cons c rest ih =>
      obtain ⟨first, more, hRest⟩ := List.exists_cons_of_ne_nil (splitSlashes_ne_nil rest)
      rw [hRest] at ih
      rw [splitSlashes, hRest]
      split
      next hSlash => rw [List.intercalate_cons_cons, ih, hSlash]; rfl
      next hOther =>
        cases more with
        | nil =>
            rw [List.intercalate_singleton] at ih ⊢
            rw [ih]
        | cons second more =>
            rw [List.intercalate_cons_cons] at ih ⊢
            rw [List.cons_append, List.cons_append, ih]

theorem slash_not_mem {text part : List Char} (hPart : part ∈ splitSlashes text) :
    '/' ∉ part := by
  induction text generalizing part with
  | nil =>
      rw [splitSlashes, List.mem_singleton] at hPart
      rw [hPart]
      exact List.not_mem_nil
  | cons c rest ih =>
      obtain ⟨first, more, hRest⟩ := List.exists_cons_of_ne_nil (splitSlashes_ne_nil rest)
      rw [hRest] at ih
      rw [splitSlashes, hRest] at hPart
      split at hPart
      next hSlash =>
        rcases List.mem_cons.mp hPart with rfl | hLater
        · exact List.not_mem_nil
        · exact ih hLater
      next hOther =>
        rcases List.mem_cons.mp hPart with rfl | hLater
        · intro hMember
          rcases List.mem_cons.mp hMember with hSame | hInside
          · exact hOther hSame.symm
          · exact ih List.mem_cons_self hInside
        · exact ih (List.mem_cons_of_mem first hLater)

theorem splitSlashes_of_slash_not_mem {part : List Char} (hPart : '/' ∉ part) :
    splitSlashes part = [part] := by
  induction part with
  | nil => rfl
  | cons c rest ih =>
      obtain ⟨hFirst, hRest⟩ := List.ne_and_not_mem_of_not_mem_cons hPart
      rw [splitSlashes, if_neg (Ne.symm hFirst), ih hRest]

theorem splitSlashes_append (text rest : List Char) :
    splitSlashes (text ++ '/' :: rest) = splitSlashes text ++ splitSlashes rest := by
  induction text with
  | nil => simp [splitSlashes]
  | cons c text ih =>
      obtain ⟨first, more, hText⟩ := List.exists_cons_of_ne_nil (splitSlashes_ne_nil text)
      rw [hText, List.cons_append] at ih
      rw [List.cons_append, splitSlashes, splitSlashes, ih, hText]
      split <;> rfl

theorem splitSlashes_intercalate {parts : List (List Char)} (hSome : parts ≠ [])
    (hParts : ∀ part ∈ parts, '/' ∉ part) : splitSlashes (['/'].intercalate parts) = parts := by
  induction parts with
  | nil => exact absurd rfl hSome
  | cons part parts ih =>
      have hFirst := hParts part List.mem_cons_self
      cases parts with
      | nil =>
          rw [List.intercalate_singleton]
          exact splitSlashes_of_slash_not_mem hFirst
      | cons second parts =>
          rw [List.intercalate_cons_cons, List.append_assoc, List.singleton_append,
            splitSlashes_append, splitSlashes_of_slash_not_mem hFirst,
            ih (List.cons_ne_nil second parts)]
          · rfl
          · intro other hOther
            exact hParts other (List.mem_cons_of_mem part hOther)

theorem mem_intercalate {parts : List (List Char)} {c : Char} :
    c ∈ ['/'].intercalate parts → c = '/' ∨ ∃ part ∈ parts, c ∈ part := by
  intro hMember
  induction parts with
  | nil => cases hMember
  | cons part parts ih =>
      cases parts with
      | nil =>
          rw [List.intercalate_singleton] at hMember
          exact Or.inr ⟨part, List.mem_cons_self, hMember⟩
      | cons second parts =>
          rw [List.intercalate_cons_cons, List.append_assoc] at hMember
          rcases List.mem_append.mp hMember with hFirst | hRest
          · exact Or.inr ⟨part, List.mem_cons_self, hFirst⟩
          · rcases List.mem_cons.mp hRest with hSlash | hLater
            · exact Or.inl hSlash
            · rcases ih hLater with hSlash | ⟨other, hOther, hInside⟩
              · exact Or.inl hSlash
              · exact Or.inr ⟨other, List.mem_cons_of_mem part hOther, hInside⟩

theorem mem_intercalate_of_mem {parts : List (List Char)} {part : List Char} {c : Char}
    (hPart : part ∈ parts) (hMember : c ∈ part) : c ∈ ['/'].intercalate parts := by
  induction parts with
  | nil => cases hPart
  | cons first parts ih =>
      cases parts with
      | nil =>
          rw [List.mem_singleton.mp hPart] at hMember
          rwa [List.intercalate_singleton]
      | cons second parts =>
          rw [List.intercalate_cons_cons, List.append_assoc]
          rcases List.mem_cons.mp hPart with rfl | hLater
          · exact List.mem_append_left _ hMember
          · exact List.mem_append_right _ (List.mem_cons_of_mem _ (ih hLater))

/-- A joined text ends in its last part. -/
theorem intercalate_concat (parts : List (List Char)) (last : List Char) :
    ∃ front, ['/'].intercalate (parts ++ [last]) = front ++ last := by
  induction parts with
  | nil => exact ⟨[], List.intercalate_singleton⟩
  | cons part parts ih =>
      obtain ⟨front, hFront⟩ := ih
      obtain ⟨second, more, hMore⟩ := List.exists_cons_of_ne_nil
        (List.append_ne_nil_of_right_ne_nil parts (List.cons_ne_nil last []))
      refine ⟨part ++ '/' :: front, ?_⟩
      rw [List.cons_append, hMore, List.intercalate_cons_cons, ← hMore, hFront]
      simp

/-- The path of these components. -/
def joined (components : List String) : Path := ⟨"/".intercalate components⟩

theorem toList_joined (components : List String) :
    (joined components).text.toList = ['/'].intercalate (components.map String.toList) := by
  rw [joined, String.toList_intercalate]
  rfl

theorem components_joined {components : List String} (hSome : components ≠ [])
    (hComponents : ∀ component ∈ components, '/' ∉ component.toList) :
    (joined components).components = components := by
  have hParts : ∀ part ∈ components.map String.toList, '/' ∉ part := by
    intro part hPart
    obtain ⟨component, hMember, rfl⟩ := List.mem_map.mp hPart
    exact hComponents component hMember
  rw [Path.components, toList_joined, splitSlashes_intercalate (by simpa using hSome) hParts]
  simp

/-- A joined path ends in its last component. -/
theorem toList_joined_concat (components : List String) (last : String) :
    ∃ front, (joined (components ++ [last])).text.toList = front ++ last.toList := by
  rw [toList_joined, List.map_append, List.map_singleton]
  exact intercalate_concat _ _

theorem mem_joined {components : List String} {c : Char}
    (hMember : c ∈ (joined components).text.toList) :
    c = '/' ∨ ∃ component ∈ components, c ∈ component.toList := by
  rw [toList_joined] at hMember
  rcases mem_intercalate hMember with hSlash | ⟨part, hPart, hInside⟩
  · exact Or.inl hSlash
  · obtain ⟨component, hComponent, rfl⟩ := List.mem_map.mp hPart
    exact Or.inr ⟨component, hComponent, hInside⟩

theorem joined_components (p : Path) : joined p.components = p := by
  have hText : (joined p.components).text.toList = p.text.toList := by
    rw [toList_joined, Path.components, List.map_map]
    have hSame : String.toList ∘ String.ofList = id := by
      funext chars
      exact String.toList_ofList
    rw [hSame, List.map_id, intercalate_splitSlashes]
  exact congrArg Path.mk (String.toList_inj.mp hText)

theorem slash_not_mem_component {p : Path} {component : String}
    (hComponent : component ∈ p.components) : '/' ∉ component.toList := by
  obtain ⟨part, hPart, rfl⟩ := List.mem_map.mp hComponent
  rw [String.toList_ofList]
  exact slash_not_mem hPart

theorem mem_text_of_mem {p : Path} {component : String} (hComponent : component ∈ p.components)
    {c : Char} (hMember : c ∈ component.toList) : c ∈ p.text.toList := by
  obtain ⟨part, hPart, rfl⟩ := List.mem_map.mp hComponent
  rw [String.toList_ofList] at hMember
  rw [← intercalate_splitSlashes p.text.toList]
  exact mem_intercalate_of_mem hPart hMember

/-! ### The body of a path -/

/-- A path is its body and components at its end that stay in their folder. -/
theorem components_eq_body_append (p : Path) :
    ∃ stays, p.components = p.body ++ stays ∧ ∀ component ∈ stays, isStay component = true := by
  refine ⟨(p.components.reverse.takeWhile isStay).reverse, ?_, fun component hMember => ?_⟩
  · rw [body, ← List.reverse_append, List.takeWhile_append_dropWhile, List.reverse_reverse]
  · exact List.all_eq_true.mp List.all_takeWhile component (List.mem_reverse.mp hMember)

theorem mem_components_of_mem_body {p : Path} {component : String}
    (hComponent : component ∈ p.body) : component ∈ p.components := by
  obtain ⟨stays, hComponents, _⟩ := p.components_eq_body_append
  rw [hComponents]
  exact List.mem_append_left stays hComponent

theorem slash_not_mem_body {p : Path} {component : String} (hComponent : component ∈ p.body) :
    '/' ∉ component.toList :=
  slash_not_mem_component (mem_components_of_mem_body hComponent)

/-- The folder is the path of the components before the name, without those at
their end that stay in their folder. -/
theorem folder_cases {p : Path} {before : List String} {name : String}
    (hBody : p.body = before ++ [name]) :
    ∃ kept stays, before = kept ++ stays ∧ (∀ component ∈ stays, isStay component = true) ∧
      ((kept = [] ∧ p.folder = ⟨"."⟩) ∨
        (p.folder = joined kept ∧ ∃ first last, kept = first ++ [last] ∧ last ≠ "")) := by
  refine ⟨(before.reverse.dropWhile isStay).reverse, (before.reverse.takeWhile isStay).reverse,
    ?_, ?_, ?_⟩
  · rw [← List.reverse_append, List.takeWhile_append_dropWhile, List.reverse_reverse]
  · intro component hMember
    exact List.all_eq_true.mp List.all_takeWhile component (List.mem_reverse.mp hMember)
  · rw [folder, hBody, List.dropLast_concat]
    cases hKept : before.reverse.dropWhile isStay with
    | nil => exact Or.inl ⟨rfl, rfl⟩
    | cons last first =>
        refine Or.inr ⟨?_, first.reverse, last, by simp, ?_⟩
        · simp [joined]
        · rintro rfl
          have hHead := List.head?_dropWhile_not isStay before.reverse
          rw [hKept] at hHead
          simp [isStay] at hHead

/-! ### The path of a shape file -/

/-- The name of a file by its stem and its extension. -/
def fileName (stem extension : String) : String := stem ++ "." ++ extension

theorem toList_fileName (stem extension : String) :
    (fileName stem extension).toList = stem.toList ++ '.' :: extension.toList := by
  rw [fileName, String.toList_append, String.toList_append, List.append_assoc]
  rfl

@[simp] theorem fileName_inj {stem first second : String} :
    fileName stem first = fileName stem second ↔ first = second := by
  constructor
  · intro hSame
    have hChars := congrArg String.toList hSame
    rw [toList_fileName, toList_fileName] at hChars
    exact String.toList_inj.mp (List.cons_inj_right '.' |>.mp (List.append_cancel_left hChars))
  · rintro rfl
    rfl

theorem splitName_fileName {stem extension : String} (hStem : stem ≠ "")
    (hPoint : '.' ∉ extension.toList) :
    splitName (fileName stem extension) = (stem, some extension) := by
  have hReversed : (fileName stem extension).toList.reverse =
      extension.toList.reverse ++ '.' :: stem.toList.reverse := by
    rw [toList_fileName]
    simp
  have hExtension : ∀ c ∈ extension.toList.reverse, (c != '.') = true := by
    intro c hMember
    have hOther : c ≠ '.' := by
      rintro rfl
      exact hPoint (List.mem_reverse.mp hMember)
    simpa using hOther
  have hSome : stem.toList.reverse ≠ [] := by
    simpa using hStem
  obtain ⟨c, rest, hRest⟩ := List.exists_cons_of_ne_nil hSome
  have hBack : stem = String.ofList (c :: rest).reverse := by
    rw [← hRest, List.reverse_reverse, String.ofList_toList]
  rw [splitName, hReversed, List.takeWhile_append_of_pos hExtension,
    List.dropWhile_append_of_pos hExtension, hRest]
  simp only [bne_self_eq_false, Bool.false_eq_true, not_false_eq_true, List.takeWhile_cons_of_neg,
    List.dropWhile_cons_of_neg, List.append_nil, List.reverse_reverse, String.ofList_toList]
  rw [hBack]

/-- The path leads through these components to the shape file of a stem. -/
structure ToShapes (p : Path) (before : List String) (stem : String) : Prop where
  components_eq : p.components = before ++ [fileName stem "shp"]
  stem_ne_empty : stem ≠ ""
  stem_ne_point : stem ≠ "."

/-- The path of the file beside it with this extension. -/
def beside (before : List String) (stem extension : String) : Path :=
  joined (before ++ [fileName stem extension])

theorem length_fileName (stem extension : String) :
    (fileName stem extension).toList.length =
      stem.toList.length + extension.toList.length + 1 := by
  rw [toList_fileName, List.length_append, List.length_cons, Nat.add_assoc]

/-- A file name with an extension of more than one letter is an ordinary one. -/
theorem fileName_ordinary (stem extension : String)
    (hLong : 2 ≤ extension.toList.length) :
    isStay (fileName stem extension) = false ∧ fileName stem extension ≠ ".." := by
  have hLength := length_fileName stem extension
  have hOther (short : String) (hShort : short.toList.length ≤ 2) :
      fileName stem extension ≠ short := by
    intro hSame
    rw [hSame] at hLength
    omega
  constructor
  · simp [isStay, hOther "" (by decide), hOther "." (by decide)]
  · exact hOther ".." (by decide)

theorem withoutSlashes_beside (before : List String) (stem : String) {extension : String}
    (hSome : extension ≠ "") (hExtension : '/' ∉ extension.toList) :
    (beside before stem extension).withoutSlashes = beside before stem extension := by
  obtain ⟨front, hFront⟩ := toList_joined_concat before (fileName stem extension)
  have hReversed : extension.toList.reverse ≠ [] := by
    simpa using hSome
  obtain ⟨c, rest, hRest⟩ := List.exists_cons_of_ne_nil hReversed
  have hLast : (c == '/') = false := by
    have hMember : c ∈ extension.toList := by
      rw [← List.mem_reverse, hRest]
      exact List.mem_cons_self
    have hOther : c ≠ '/' := by
      rintro rfl
      exact hExtension hMember
    simpa using hOther
  have hText : (beside before stem extension).text.toList.reverse =
      c :: (rest ++ '.' :: stem.toList.reverse ++ front.reverse) := by
    rw [beside, hFront, toList_fileName]
    simp [hRest]
  rw [withoutSlashes, hText, List.dropWhile_cons_of_neg (by simp [hLast]), ← hText,
    List.reverse_reverse, String.ofList_toList]

namespace ToShapes

variable {p : Path} {before : List String} {stem : String}

theorem body_eq (h : p.ToShapes before stem) : p.body = p.components := by
  obtain ⟨hStay, _⟩ := fileName_ordinary stem "shp" (by decide)
  rw [body, h.components_eq, List.reverse_append, List.reverse_singleton, List.singleton_append,
    List.dropWhile_cons_of_neg (by simp [hStay])]
  simp

theorem stem?_eq (h : p.ToShapes before stem) : p.stem? = some stem := by
  obtain ⟨_, hUp⟩ := fileName_ordinary stem "shp" (by decide)
  rw [stem?, fileName?, h.body_eq, h.components_eq, List.getLast?_concat, Option.bind_some,
    if_neg hUp, Option.map_some, splitName_fileName h.stem_ne_empty (by decide)]

theorem withExtension_eq (h : p.ToShapes before stem) (extension : String) :
    p.withExtension extension = beside before stem extension := by
  rw [withExtension, h.stem?_eq]
  simp only [h.stem_ne_point, false_and, if_false, h.body_eq, h.components_eq,
    List.dropLast_concat]
  rfl

theorem eq_beside (h : p.ToShapes before stem) : p = beside before stem "shp" := by
  rw [beside, ← h.components_eq, joined_components]

theorem slash_not_mem_stem (h : p.ToShapes before stem) : '/' ∉ stem.toList := by
  have hName : fileName stem "shp" ∈ p.components := by
    rw [h.components_eq]
    simp
  have hShapes := slash_not_mem_component hName
  rw [toList_fileName] at hShapes
  exact fun hMember => hShapes (List.mem_append_left _ hMember)

theorem components_beside (h : p.ToShapes before stem) {extension : String}
    (hExtension : '/' ∉ extension.toList) :
    (beside before stem extension).components = before ++ [fileName stem extension] := by
  apply components_joined (by simp)
  intro name hName
  rcases List.mem_append.mp hName with hBefore | hLast
  · refine slash_not_mem_component (p := p) ?_
    rw [h.components_eq]
    exact List.mem_append_left _ hBefore
  · rw [List.mem_singleton.mp hLast, toList_fileName]
    simp only [List.mem_append, List.mem_cons, not_or]
    exact ⟨h.slash_not_mem_stem, by decide, hExtension⟩

/-- A character of a path beside is one of the path or of the extension, or
joins them. -/
theorem mem_beside (h : p.ToShapes before stem) {extension : String} {c : Char}
    (hMember : c ∈ (beside before stem extension).text.toList) :
    c = '/' ∨ c = '.' ∨ c ∈ extension.toList ∨ c ∈ p.text.toList := by
  rcases mem_joined hMember with hSlash | ⟨component, hComponent, hInside⟩
  · exact Or.inl hSlash
  · rcases List.mem_append.mp hComponent with hBefore | hLast
    · refine Or.inr (Or.inr (Or.inr (mem_text_of_mem ?_ hInside)))
      rw [h.components_eq]
      exact List.mem_append_left _ hBefore
    · rw [List.mem_singleton.mp hLast, toList_fileName] at hInside
      rcases List.mem_append.mp hInside with hStem | hRest
      · have hName : fileName stem "shp" ∈ p.components := by
          rw [h.components_eq]
          simp
        refine Or.inr (Or.inr (Or.inr (mem_text_of_mem hName ?_)))
        rw [toList_fileName]
        exact List.mem_append_left _ hStem
      · rcases List.mem_cons.mp hRest with hPoint | hExtension
        · exact Or.inr (Or.inl hPoint)
        · exact Or.inr (Or.inr (Or.inl hExtension))

end ToShapes

end Shapefile.Path
