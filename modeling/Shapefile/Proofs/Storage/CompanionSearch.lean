import Shapefile.Proofs.Storage.KeptCompanions

/-! Which companions of a shape file are found. The search looks for a path
first and then through the names of a folder; together they find a regular file
of the stem and the extension exactly if there is one. What is named when there
is none is a path in the folder, unless the stem is a lone point. -/
namespace Shapefile

open Shapefile.Path

namespace Path

/-- The path beside a path, with its stem and this extension. -/
def sibling (p : Path) (extension : String) : Path :=
  match p.stem? with
  | none => p
  | some stem => beside p.body.dropLast stem extension

theorem sibling_eq {p : Path} {stem : String} (hStem : p.stem? = some stem) (extension : String) :
    p.sibling extension = beside p.body.dropLast stem extension := by
  rw [sibling, hStem]

/-- The path with another extension is the sibling, unless the stem is a lone
point: then it leads out of the folder. -/
theorem withExtension_cases {p : Path} {stem : String} (hStem : p.stem? = some stem)
    (hBody : p.body = p.components) (extension : String) :
    p.withExtension extension =
      if stem = "." then joined (p.body.dropLast ++ [".."]) else p.sibling extension := by
  rw [withExtension, hStem, sibling_eq hStem]
  by_cases hPoint : stem = "."
  · simp only [hPoint, hBody, and_self, if_true]
    rfl
  · simp only [hPoint, false_and, if_false]
    rfl

end Path

namespace Disk

variable {d : Disk} {p : Path} {folder : List String} {name : String}

/-- The path leads to a regular file of this name in a folder. -/
structure FileAt (d : Disk) (p : Path) (folder : List String) (name : String) : Prop where
  locate_eq : d.locate p = .ok (folder ++ [name])
  file : ∃ id, d.node? (folder ++ [name]) = some (.file id)

theorem isFile_iff_fileAt : d.isFile p = true ↔ ∃ folder name, d.FileAt p folder name := by
  rw [isFile_iff_node]
  constructor
  · rintro ⟨names, id, hLocate, hNode⟩
    rcases List.eq_nil_or_concat names with rfl | ⟨folder, name, hNames⟩
    · cases hNode
    · rw [hNames, List.concat_eq_append] at hLocate hNode
      exact ⟨folder, name, hLocate, id, hNode⟩
  · rintro ⟨folder, name, hLocate, id, hNode⟩
    exact ⟨_, id, hLocate, hNode⟩

/-- The way along a path to a name in a folder. -/
structure Way (d : Disk) (p : Path) (folder : List String) (name : String) : Prop where
  no_nul : '\x00' ∉ p.text.toList
  body_eq : p.body = p.components
  concat_eq : p.body = p.body.dropLast ++ [name]
  not_up : name ≠ ".."
  walk_eq : d.walk [] p.body.dropLast = .ok folder
  directory : d.node? folder = some .directory

/-- A path to a regular file ends in its name. -/
theorem FileAt.way (h : d.FileAt p folder name) : d.Way p folder name := by
  obtain ⟨id, hFile⟩ := h.file
  obtain ⟨_, hNul, hWalk⟩ := locate_ok h.locate_eq
  obtain ⟨stays, hComponents, hStays⟩ := p.components_eq_body_append
  rw [hComponents] at hWalk
  obtain ⟨middle, hBody, hRest⟩ := walk_append_ok.mp hWalk
  have hSame := walk_stays hStays hRest
  subst hSame
  -- what stays in its folder has a folder to stay in, which a file is not
  have hNone : stays = [] := by
    cases stays with
    | nil => rfl
    | cons stay stays =>
        obtain ⟨hFolder, _⟩ := walk_cons_ok hRest
        rw [hFile] at hFolder
        cases hFolder
  rcases List.eq_nil_or_concat p.body with hNil | ⟨front, last, hConcat⟩
  · rw [hNil] at hBody
    simp [walk] at hBody
  · rw [List.concat_eq_append] at hConcat
    rw [hConcat] at hBody
    have hUp : last ≠ ".." := by
      rintro rfl
      rw [walk_up hBody] at hFile
      cases hFile
    obtain ⟨above, hFront, hLast⟩ := walk_append_ok.mp hBody
    have hStay : isStay last = false := last_of_body (by rw [hConcat, List.getLast?_concat])
    obtain ⟨hDirectory, _, hNames⟩ := (walk_name_ok hStay hUp).mp hLast
    obtain ⟨rfl, hName⟩ := List.append_inj' hNames rfl
    cases hName
    have hFrontEq : p.body.dropLast = front := by rw [hConcat, List.dropLast_concat]
    refine ⟨hNul, ?_, ?_, hUp, ?_, hDirectory⟩
    · rw [hComponents, hNone, List.append_nil]
    · rw [hFrontEq, hConcat]
    · rw [hFrontEq]
      exact hFront

namespace Way

theorem stem?_eq (h : d.Way p folder name) : p.stem? = some (splitName name).1 := by
  rw [stem?, fileName?, h.concat_eq, List.getLast?_concat, Option.bind_some, if_neg h.not_up,
    Option.map_some]

theorem locate_folder (h : d.Way p folder name) : d.locate p.folder = .ok folder :=
  d.locate_folder h.concat_eq h.no_nul h.walk_eq

theorem namesIn_eq (h : d.Way p folder name) :
    d.namesIn p.folder = .ok (namesOf d.entries folder) :=
  namesIn_ok h.locate_folder h.directory

/-- The stem is made of letters of the path. -/
theorem nul_not_mem_stem (h : d.Way p folder name) :
    '\x00' ∉ (splitName name).1.toList := by
  intro hNul
  have hMember : name ∈ p.components := by
    rw [← h.body_eq, h.concat_eq]
    simp
  exact h.no_nul (mem_text_of_mem hMember ((splitName_stem name).1 _ hNul))

end Way

/-- A regular file in the folder, of the stem and with the extension in either
case. No file has a name of more than the greatest size. -/
structure IsCompanion (d : Disk) (folder : List String) (stem extension name : String) : Prop where
  name_eq : ∃ other, name = fileName stem other ∧ Companions.sameLetters other extension = true
  short : name.utf8ByteSize ≤ greatestName
  file : ∃ id, d.node? (folder ++ [name]) = some (.file id)

/-- A search for a companion has found a path to one, or there is none. -/
def Discovered (d : Disk) (folder : List String) (stem extension : String) : Option Path → Prop
  | none => ∀ name, ¬d.IsCompanion folder stem extension name
  | some path =>
      ∃ name, d.locate path = .ok (folder ++ [name]) ∧ d.IsCompanion folder stem extension name

/-- A path to a name in a folder leads there if the name is short enough. -/
theorem locate_child {last : List String} (hFolder : d.locate p = .ok folder)
    (hDirectory : d.node? folder = some .directory) (hSlash : '/' ∉ name.toList)
    (hNul : '\x00' ∉ name.toList) (hStay : isStay name = false) (hUp : name ≠ "..") :
    d.locate (p.child name) = .ok last ↔
      name.utf8ByteSize ≤ greatestName ∧ last = folder ++ [name] := by
  obtain ⟨hText, hNoNul, hWalk⟩ := locate_ok hFolder
  have hChildText : (p.child name).text ≠ "" := by
    simp [child]
  have hChildNul : '\x00' ∉ (p.child name).text.toList := by
    simp only [child, String.toList_append, List.mem_append, not_or]
    exact ⟨⟨hNoNul, by decide⟩, hNul⟩
  rw [locate, if_neg (by simpa using hChildText), if_neg (by simpa using hChildNul),
    components_child p hSlash, walk_append_ok]
  constructor
  · rintro ⟨middle, hMiddle, hLast⟩
    rw [hWalk] at hMiddle
    cases hMiddle
    exact ((walk_name_ok hStay hUp).mp hLast).2
  · intro hLast
    exact ⟨folder, hWalk, (walk_name_ok hStay hUp).mpr ⟨hDirectory, hLast⟩⟩

/-- An extension that names a companion: three plain letters, all lower case. -/
structure CompanionExtension (extension : String) : Prop where
  plain : Plain extension
  lower : extension.toList.map Char.toLower = extension.toList

theorem companionExtensions : CompanionExtension "shx" ∧ CompanionExtension "dbf" ∧
    CompanionExtension "prj" ∧ CompanionExtension "cpg" := by
  obtain ⟨_, hShx, hDbf, hPrj, hCpg⟩ := plain_companions
  exact ⟨⟨hShx, by decide⟩, ⟨hDbf, by decide⟩, ⟨hPrj, by decide⟩, ⟨hCpg, by decide⟩⟩

section Search

variable {extension other : String}

/-- No case of the extension has a character that is none of the extension. -/
theorem CompanionExtension.not_mem (hExtension : CompanionExtension extension)
    (hSame : Companions.sameLetters other extension = true) :
    '/' ∉ other.toList ∧ '.' ∉ other.toList ∧ '\x00' ∉ other.toList := by
  have hNot {c : Char} (hLower : c.toLower = c) (hOther : c ∉ extension.toList) :
      c ∉ other.toList :=
    Companions.not_mem_of_sameLetters hSame hLower (by rwa [hExtension.lower])
  exact ⟨hNot rfl hExtension.plain.slash_not_mem, hNot rfl hExtension.plain.point_not_mem,
    hNot rfl fun hNul => (hExtension.plain.ordinary _ hNul).2.2 rfl⟩

/-- The names in the folder that the search passes on to are located where
they are. -/
theorem Way.locate_candidate {last : List String} (h : d.Way p folder name)
    (hExtension : CompanionExtension extension)
    (hSame : Companions.sameLetters other extension = true) :
    d.locate (p.folder.child (fileName (splitName name).1 other)) = .ok last ↔
      (fileName (splitName name).1 other).utf8ByteSize ≤ greatestName ∧
        last = folder ++ [fileName (splitName name).1 other] := by
  obtain ⟨hSlash, _, hNul⟩ := hExtension.not_mem hSame
  obtain ⟨hStay, hUp⟩ := fileName_ordinary (splitName name).1 other
    (Companions.length_eq_of_sameLetters hSame ▸ hExtension.plain.two_le_length)
  refine locate_child h.locate_folder h.directory ?_ ?_ hStay hUp
  · rw [toList_fileName]
    simp only [List.mem_append, List.mem_cons, not_or]
    exact ⟨(stem_spec h.stem?_eq).2, by decide, hSlash⟩
  · rw [toList_fileName]
    simp only [List.mem_append, List.mem_cons, not_or]
    exact ⟨h.nul_not_mem_stem, by decide, hNul⟩

/-- The path with the extension as it stands leads to a companion if it leads
to a file. -/
theorem Way.discovered_exact (h : d.Way p folder name) (hExtension : CompanionExtension extension)
    (hFile : d.isFile (p.withExtension extension) = true) :
    d.Discovered folder (splitName name).1 extension (some (p.withExtension extension)) := by
  obtain ⟨names, id, hLocate, hNode⟩ := isFile_iff_node.mp hFile
  have hFree : d.node? names ≠ some .directory := by
    rw [hNode]
    nofun
  obtain ⟨stem, above, hStem, _, hWalk, _, rfl, hShort⟩ :=
    locate_companion hExtension.plain hLocate hFree
  rw [h.stem?_eq] at hStem
  rw [h.walk_eq] at hWalk
  cases hStem
  cases hWalk
  exact ⟨_, hLocate, ⟨extension, rfl, by simp [Companions.sameLetters]⟩, hShort, id, hNode⟩

/-- A search through the names of the folder finds a companion if there is one. -/
theorem Way.discovered_search (h : d.Way p folder name)
    (hExtension : CompanionExtension extension) :
    d.Discovered folder (splitName name).1 extension
      ((((namesOf d.entries folder).filter
        (Companions.isCompanionName (splitName name).1 extension)).map p.folder.child).find?
          d.isFile) := by
  obtain ⟨hStem, _⟩ := stem_spec h.stem?_eq
  generalize hFound : List.find? d.isFile _ = found
  cases found with
  | some path =>
      obtain ⟨candidate, hCandidate, rfl⟩ := List.mem_map.mp (List.mem_of_find?_eq_some hFound)
      obtain ⟨other, rfl, hSame⟩ :=
        Companions.isCompanionName_cases (List.mem_filter.mp hCandidate).2
      obtain ⟨names, id, hLocate, hNode⟩ := isFile_iff_node.mp (List.find?_some hFound)
      obtain ⟨hShort, rfl⟩ := (h.locate_candidate hExtension hSame).mp hLocate
      exact ⟨_, hLocate, ⟨other, rfl, hSame⟩, hShort, id, hNode⟩
  | none =>
      rintro _ ⟨⟨other, rfl, hSame⟩, hShort, id, hNode⟩
      rw [List.find?_eq_none] at hFound
      refine hFound (p.folder.child (fileName (splitName name).1 other)) ?_ ?_
      · refine List.mem_map_of_mem (List.mem_filter.mpr ⟨?_, ?_⟩)
        · exact mem_namesOf.mpr ⟨_, entry_of_node? (by simp) hNode⟩
        · rw [Companions.isCompanionName_fileName hStem (hExtension.not_mem hSame).2.1, hSame]
      · exact isFile_iff_node.mpr
          ⟨_, id, (h.locate_candidate hExtension hSame).mpr ⟨hShort, rfl⟩, hNode⟩

/-- Beside a shape file that can be reached a companion is found if there is
one. -/
theorem Way.companion?_ok (h : d.Way p folder name) (hExtension : CompanionExtension extension) :
    ∃ found, Companions.companion? d p extension = .ok found ∧
      d.Discovered folder (splitName name).1 extension found := by
  rw [Companions.companion?, h.stem?_eq]
  simp only [h.namesIn_eq, ok_bind]
  split
  next hFile => exact ⟨_, rfl, h.discovered_exact hExtension hFile⟩
  next => exact ⟨_, rfl, h.discovered_search hExtension⟩

end Search

/-- The companions of a shape file in a folder are the ones that are there. -/
structure Complete (d : Disk) (p : Path) (folder : List String) (stem : String)
    (files : Companions) : Prop where
  shapes_eq : files.shapes = p
  index : d.Discovered folder stem "shx" (some files.index)
  table : d.Discovered folder stem "dbf" (some files.table)
  projection : d.Discovered folder stem "prj" files.projection
  codePage : d.Discovered folder stem "cpg" files.codePage

/-- What is answered for a path whose companions are looked for, when `missing`
is the path that is named for a companion that must be there and is not. -/
structure Answers (d : Disk) (p : Path) (missing : String → Path)
    (answer : Except DatasetError Companions) : Prop where
  shapes_missing (hNone : ∀ folder name, ¬d.FileAt p folder name) : answer = .error (.notFound p)
  index_missing {folder : List String} {name : String} (hShapes : d.FileAt p folder name)
    (hIndex : ∀ other, ¬d.IsCompanion folder (splitName name).1 "shx" other) :
    answer = .error (.notFound (missing "shx"))
  table_missing {folder : List String} {name : String} (hShapes : d.FileAt p folder name)
    (hIndex : ∃ other, d.IsCompanion folder (splitName name).1 "shx" other)
    (hTable : ∀ other, ¬d.IsCompanion folder (splitName name).1 "dbf" other) :
    answer = .error (.notFound (missing "dbf"))
  complete {folder : List String} {name : String} (hShapes : d.FileAt p folder name)
    (hIndex : ∃ other, d.IsCompanion folder (splitName name).1 "shx" other)
    (hTable : ∃ other, d.IsCompanion folder (splitName name).1 "dbf" other) :
    ∃ files, answer = .ok files ∧ d.Complete p folder (splitName name).1 files

/-- The index or the table of this stem is not in the folder. -/
def Lacks (d : Disk) (folder : List String) (stem : String) : Prop :=
  ∃ extension ∈ ["shx", "dbf"], ∀ other, ¬d.IsCompanion folder stem extension other

/-- Where the index or the table is not there, the answer names one of them. -/
theorem Lacks.named (h : d.Lacks folder (splitName name).1) (hShapes : d.FileAt p folder name) :
    ∃ extension, CompanionExtension extension ∧ ∀ missing answer,
      d.Answers p missing answer → answer = .error (.notFound (missing extension)) := by
  obtain ⟨hShx, hDbf, _⟩ := companionExtensions
  obtain ⟨extension, hExtension, hNone⟩ := h
  by_cases hIndex : ∃ other, d.IsCompanion folder (splitName name).1 "shx" other
  · have hTable : extension = "dbf" := by
      rcases List.mem_cons.mp hExtension with rfl | hRest
      · obtain ⟨other, hCompanion⟩ := hIndex
        exact absurd hCompanion (hNone other)
      · exact List.mem_singleton.mp hRest
    subst hTable
    exact ⟨"dbf", hDbf, fun _ _ hAnswers => hAnswers.table_missing hShapes hIndex hNone⟩
  · exact ⟨"shx", hShx, fun _ _ hAnswers =>
      hAnswers.index_missing hShapes (not_exists.mp hIndex)⟩

/-- The companions are looked for one after the other, and the first that is
missing decides. -/
theorem FileAt.find_eq (h : d.FileAt p folder name) :
    ∃ index table projection codePage,
      d.Discovered folder (splitName name).1 "shx" index ∧
      d.Discovered folder (splitName name).1 "dbf" table ∧
      d.Discovered folder (splitName name).1 "prj" projection ∧
      d.Discovered folder (splitName name).1 "cpg" codePage ∧
      Companions.find d p =
        match index, table with
        | none, _ => .error (.notFound (p.withExtension "shx"))
        | _, none => .error (.notFound (p.withExtension "dbf"))
        | some index, some table => .ok { shapes := p, index, table, projection, codePage } := by
  obtain ⟨hShx, hDbf, hPrj, hCpg⟩ := companionExtensions
  have hFile : d.isFile p = true := isFile_iff_fileAt.mpr ⟨folder, name, h⟩
  obtain ⟨index, hIndex, hIndexFound⟩ := h.way.companion?_ok hShx
  obtain ⟨table, hTable, hTableFound⟩ := h.way.companion?_ok hDbf
  obtain ⟨projection, hProjection, hProjectionFound⟩ := h.way.companion?_ok hPrj
  obtain ⟨codePage, hCodePage, hCodePageFound⟩ := h.way.companion?_ok hCpg
  refine ⟨index, table, projection, codePage, hIndexFound, hTableFound, hProjectionFound,
    hCodePageFound, ?_⟩
  rw [Companions.find, hFile]
  simp only [hIndex, hTable, hProjection, hCodePage]
  cases index <;> cases table <;> rfl

theorem Discovered.exists {stem extension : String} {path : Path}
    (h : d.Discovered folder stem extension (some path)) :
    ∃ other, d.IsCompanion folder stem extension other := by
  obtain ⟨other, _, hCompanion⟩ := h
  exact ⟨other, hCompanion⟩

theorem find_answers (d : Disk) (p : Path) :
    d.Answers p p.withExtension (Companions.find d p) where
  shapes_missing hNone := by
    have hFile : d.isFile p = false := by
      rw [Bool.eq_false_iff, Ne, isFile_iff_fileAt]
      rintro ⟨folder, name, hShapes⟩
      exact hNone folder name hShapes
    rw [Companions.find, hFile]
    rfl
  index_missing hShapes hIndex := by
    obtain ⟨index, table, projection, codePage, hIndexFound, _, _, _, hFind⟩ := hShapes.find_eq
    cases index with
    | none => exact hFind
    | some path =>
        obtain ⟨other, hCompanion⟩ := hIndexFound.exists
        exact absurd hCompanion (hIndex other)
  table_missing hShapes hIndex hTable := by
    obtain ⟨index, table, projection, codePage, hIndexFound, hTableFound, _, _, hFind⟩ :=
      hShapes.find_eq
    cases index with
    | none =>
        obtain ⟨other, hCompanion⟩ := hIndex
        exact absurd hCompanion (hIndexFound other)
    | some path =>
        cases table with
        | none => exact hFind
        | some path =>
            obtain ⟨other, hCompanion⟩ := hTableFound.exists
            exact absurd hCompanion (hTable other)
  complete hShapes hIndex hTable := by
    obtain ⟨index, table, projection, codePage, hIndexFound, hTableFound, hProjection, hCodePage,
      hFind⟩ := hShapes.find_eq
    obtain ⟨indexName, hIndexThere⟩ := hIndex
    obtain ⟨tableName, hTableThere⟩ := hTable
    cases index with
    | none => exact absurd hIndexThere (hIndexFound indexName)
    | some indexPath =>
        cases table with
        | none => exact absurd hTableThere (hTableFound tableName)
        | some tablePath =>
            exact ⟨_, hFind, rfl, hIndexFound, hTableFound, hProjection, hCodePage⟩

/-- The way up is not a file of the stem. -/
theorem Way.withExtension_ne_sibling (h : d.Way p folder name) (hPoint : (splitName name).1 = ".")
    {extension : String} (hPlain : Plain extension) :
    p.withExtension extension ≠ p.sibling extension := by
  obtain ⟨_, hUp⟩ := fileName_ordinary (splitName name).1 extension hPlain.two_le_length
  rw [withExtension_cases h.stem?_eq h.body_eq, if_pos hPoint, sibling_eq h.stem?_eq]
  intro hSame
  have hComponents := congrArg Path.components hSame
  rw [components_beside_body h.stem?_eq hPlain.slash_not_mem,
    p.components_renamed (by decide)] at hComponents
  exact hUp (List.singleton_inj.mp (List.append_cancel_left hComponents)).symm

/-- The search for companions finds those that are there, and otherwise names
the path beside the shape file under which a companion would be, exactly if the
shape file is not one with a lone point for a stem that lacks its index or its
table. -/
theorem find_answers_iff (d : Disk) (p : Path) :
    d.Answers p p.withExtension (Companions.find d p) ∧
      (d.Answers p p.sibling (Companions.find d p) ↔
        ¬∃ folder name, d.FileAt p folder name ∧ (splitName name).1 = "." ∧
          d.Lacks folder ".") := by
  refine ⟨find_answers d p, ?_, fun hOrdinary => ?_⟩
  · rintro hAnswers ⟨folder, name, hShapes, hPoint, hLacks⟩
    rw [← hPoint] at hLacks
    obtain ⟨extension, hExtension, hNamed⟩ := hLacks.named hShapes
    have hSame := (hNamed _ _ (find_answers d p)).symm.trans (hNamed _ _ hAnswers)
    exact hShapes.way.withExtension_ne_sibling hPoint hExtension.plain (by simpa using hSame)
  · have hSibling {folder : List String} {name extension : String}
        (hShapes : d.FileAt p folder name) (hExtension : extension ∈ ["shx", "dbf"])
        (hNone : ∀ other, ¬d.IsCompanion folder (splitName name).1 extension other) :
        p.withExtension extension = p.sibling extension := by
      have hPoint : (splitName name).1 ≠ "." := by
        intro hPoint
        exact hOrdinary ⟨folder, name, hShapes, hPoint, extension, hExtension, hPoint ▸ hNone⟩
      rw [withExtension_cases hShapes.way.stem?_eq hShapes.way.body_eq, if_neg hPoint]
    have hFound := find_answers d p
    refine ⟨hFound.shapes_missing, fun hShapes hIndex => ?_, fun hShapes hIndex hTable => ?_,
      hFound.complete⟩
    · rw [hFound.index_missing hShapes hIndex, hSibling hShapes (by simp) hIndex]
    · rw [hFound.table_missing hShapes hIndex hTable, hSibling hShapes (by simp) hTable]

/-- A disk with nothing but the shape file `..x`. -/
def pointDisk : Disk := ⟨[(["..x"], .file 0)], #[#[]]⟩

/-- Where the shape file `..x` lacks its index, the folder above is named, which
is there, and not the index. -/
theorem find_names_folder_above :
    Companions.find pointDisk ⟨"..x"⟩ = .error (.notFound ⟨".."⟩) ∧
      pointDisk.locate ⟨".."⟩ = .ok [] ∧ pointDisk.node? [] = some .directory ∧
      Path.sibling ⟨"..x"⟩ "shx" = ⟨"..shx"⟩ ∧
      ¬pointDisk.Answers ⟨"..x"⟩ (Path.sibling ⟨"..x"⟩) (Companions.find pointDisk ⟨"..x"⟩) := by
  have hFind : Companions.find pointDisk ⟨"..x"⟩ = .error (.notFound ⟨".."⟩) := by
    decide +kernel
  have hSibling : Path.sibling ⟨"..x"⟩ "shx" = ⟨"..shx"⟩ := by
    decide +kernel
  refine ⟨hFind, by decide +kernel, rfl, hSibling, fun hAnswers => ?_⟩
  have hShapes : pointDisk.FileAt ⟨"..x"⟩ [] "..x" := ⟨by decide +kernel, 0, by decide⟩
  have hNone (other : String) :
      ¬pointDisk.IsCompanion [] (splitName "..x").1 "shx" other := by
    rintro ⟨⟨letters, rfl, hSame⟩, _, id, hNode⟩
    have hEntry := entry_of_node? (by simp) hNode
    simp only [pointDisk, List.nil_append, List.mem_singleton, Prod.mk.injEq,
      List.singleton_inj] at hEntry
    have hLength := length_fileName (splitName "..x").1 letters
    rw [hEntry.1, Companions.length_eq_of_sameLetters hSame] at hLength
    exact absurd hLength (by decide)
  have hNamed := hAnswers.index_missing hShapes hNone
  rw [hFind, hSibling] at hNamed
  exact absurd hNamed (by decide)

end Disk

end Shapefile
