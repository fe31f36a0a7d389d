import Shapefile.Proofs.Table.EditRun
import Shapefile.Proofs.Table.HeaderReading
import Shapefile.Proofs.Text.SampleSets

/-! The names of columns in files. A descriptor holds a name in the code page
of the table, and it is read as UTF-8 whatever the code page. In the pages that
a header can name no text takes more bytes than in UTF-8, so a name comes back
exactly if its bytes are those of UTF-8. -/
namespace Shapefile.TableHeader

/-- A name that a column keeps whole and that a descriptor has room for in a
code page. -/
structure NameFits [Host] (page : Text.CodePage) (name : String) : Prop where
  size_pos : 0 < name.utf8ByteSize
  size_le : name.utf8ByteSize ≤ 10
  trimmed : Text.trim name.toList = name.toList
  no_zero : '\x00' ∉ name.toList
  lossless : page.decode (page.encode name.toList) = name.toList
  short : (page.encode name.toList).length ≤ 10

/-- Every character is one of ASCII. -/
def IsAscii (name : String) : Prop := ∀ c ∈ name.toList, c.toNat < 0x80

/-- The bytes of the name are those that it has in UTF-8. -/
def IsUtf8In [Host] (page : Text.CodePage) (name : String) : Prop :=
  page.encode name.toList = Text.Utf8.encode name.toList

theorem takeBytes_of_utf8Length_le {room : Nat} {text : List Char}
    (hRoom : Text.utf8Length text ≤ room) : takeBytes room text = text := by
  induction text generalizing room with
  | nil => rfl
  | cons c text ih =>
      rw [Text.utf8Length_cons] at hRoom
      rw [takeBytes, if_pos (by omega), ih (by omega)]

/-- A short name is kept as it is. -/
theorem columnName_eq {name : String} (hSome : 0 < name.utf8ByteSize)
    (hShort : name.utf8ByteSize ≤ 10) : columnName name = name := by
  have hSize : name.utf8ByteSize = Text.utf8Length name.toList := by
    rw [← Text.utf8ByteSize_ofList, String.ofList_toList]
  have hKept : String.ofList (takeBytes nameSize name.toList) = name := by
    rw [takeBytes_of_utf8Length_le (hSize ▸ hShort), String.ofList_toList]
  have hNotEmpty : ¬name.isEmpty := by
    rw [String.isEmpty_iff_utf8ByteSize_eq_zero]
    exact Nat.ne_of_gt hSome
  rw [columnName]
  simp only [hKept]
  exact if_neg hNotEmpty

section Rereading

variable [Host]

/-- The zeros behind a name are not read. -/
theorem readName_storedName {page : Text.CodePage} {name : String}
    (hShort : (page.encode name.toList).length ≤ 10) :
    readName (storedName page name) = String.ofList
      (Text.trim (Text.Utf8.decode ((page.encode name.toList).takeWhile (· != 0)))) := by
  have hWhole : (page.encode name.toList).take (storedNameSize - 1) = page.encode name.toList :=
    List.take_of_length_le hShort
  have hZeros : (List.replicate (storedNameSize - (page.encode name.toList).length)
      (0 : UInt8)).takeWhile (· != 0) = [] := by
    rw [List.takeWhile_replicate]
    rfl
  have hFront : (storedName page name).takeWhile (· != 0) =
      (page.encode name.toList).takeWhile (· != 0) := by
    rw [storedName]
    simp only [hWhole]
    rw [List.takeWhile_append, hZeros, List.append_nil]
    split
    next hAll => exact ((List.takeWhile_prefix _).eq_of_length hAll).symm
    next => rfl
  rw [readName, hFront]

/-- A name whose bytes are those of UTF-8 is read as it was written. -/
theorem readName_storedName_of_isUtf8In {page : Text.CodePage} {name : String}
    (hName : NameFits page name) (hBytes : IsUtf8In page name) :
    readName (storedName page name) = name := by
  have hWhole : (Text.Utf8.encode name.toList).takeWhile (· != 0) =
      Text.Utf8.encode name.toList := by
    rw [List.takeWhile_eq_self_iff]
    intro b hMember
    refine bne_iff_ne.mpr fun hZero => ?_
    exact Text.Utf8.zero_not_mem_encode hName.no_zero (hZero ▸ hMember)
  rw [readName_storedName hName.short, hBytes, hWhole, Text.Utf8.decode_encode, hName.trimmed,
    String.ofList_toList]

/-- Only such a name is read as itself, or as one that compares the same. It
holds no replacement character, so its bytes were all read; and as they are no
more than it has in UTF-8, nothing was trimmed or cut. -/
theorem isUtf8In_of_sameName {page : Text.CodePage} {name : String} (hPage : page.IsCompact)
    (hName : NameFits page name) (hSame : SameName (readName (storedName page name)) name) :
    IsUtf8In page name := by
  rw [SameName, readName_storedName hName.short, String.toList_ofList, hName.trimmed] at hSame
  let bytes := (page.encode name.toList).takeWhile (· != 0)
  let text := Text.Utf8.decode bytes
  have hAll : Text.Utf8.replacement ∉ text := by
    intro hReplaced
    have hBlank : Text.isBlank Text.Utf8.replacement = false := by decide
    have hLower : Text.Utf8.replacement ∈ name.toList.map Char.toLower := by
      rw [← hSame]
      have hKept := Text.mem_trim_of_mem hReplaced hBlank
      exact List.mem_map_of_mem (Text.mem_trim_of_mem hKept hBlank)
    have hNamed := Text.mem_of_mem_map_toLower (by decide) hLower
    exact hPage.replacement_lost _ hName.lossless hNamed
  have hText : Text.Utf8.encode text = bytes := Text.Utf8.encode_decode hAll
  have hSize : Text.utf8Length text = bytes.length := by
    rw [← hText, Text.Utf8.length_encode]
  have hFront : bytes <+: page.encode name.toList := List.takeWhile_prefix _
  have hMost := hPage.length_encode_le name.toList
  have hLength : Text.utf8Length name.toList = Text.utf8Length (Text.trim (Text.trim text)) := by
    rw [← Text.utf8Length_map_toLower, ← hSame, Text.utf8Length_map_toLower]
  have hOnce := Text.utf8Length_trim_le text
  have hTwice := Text.utf8Length_trim_le (Text.trim text)
  have hShort := hFront.length_le
  have hWhole : bytes = page.encode name.toList := hFront.eq_of_length (by omega)
  have hTrimmed : Text.trim text = text := Text.trim_eq_of_utf8Length_le (by omega)
  rw [hTrimmed, hTrimmed] at hSame
  rw [hWhole] at hText
  rw [IsUtf8In, ← hText, hPage.eq_of_encode_eq hSame hText.symm]

theorem sameName_reread_iff {page : Text.CodePage} {name : String} (hPage : page.IsCompact)
    (hName : NameFits page name) :
    SameName (readName (storedName page name)) name ↔ IsUtf8In page name := by
  refine ⟨isUtf8In_of_sameName hPage hName, fun hBytes => ?_⟩
  rw [readName_storedName_of_isUtf8In hName hBytes]
  rfl

theorem readName_storedName_iff {page : Text.CodePage} {name : String} (hPage : page.IsCompact)
    (hName : NameFits page name) :
    readName (storedName page name) = name ↔ IsUtf8In page name := by
  refine ⟨fun hRead => isUtf8In_of_sameName hPage hName ?_,
    readName_storedName_of_isUtf8In hName⟩
  rw [hRead]
  rfl

/-- A name of a new column comes back from the file exactly if its bytes are
those of UTF-8, and only then is the column found by it, if no other column
passes for it. ASCII has the same bytes in all pages, and in pages of single
bytes nothing else has. -/
theorem column_name_reread_iff {h next : TableHeader} (hEdited : h.Edited)
    (hCount : h.recordCount < 2 ^ 31) (hDriver : h.codePage.languageDriver ≠ 0)
    (hSets : ∀ set, h.codePage = .multi set → h.codePage.IsCompact) {name : String}
    (hName : NameFits h.codePage name) {typeCode : Char} {length decimals : Nat}
    (hAdd : h.addColumn name typeCode length decimals = .ok next)
    (hHeader : next.headerLength ≤ 65535) (hRecord : next.recordLength ≤ 65535) {channel : Bytes}
    (hBytes : channel.HasAt 0 next.bytes) (cursor : Cursor) :
    ∃ r, ((read none).onBytes channel cursor).1 = .ok r ∧ r.codePage = h.codePage ∧
      r.fieldCount = h.fieldCount + 1 ∧
      (r.fields[h.fieldCount]?.map Field.name = some name ↔ IsUtf8In h.codePage name) ∧
      ((∀ f ∈ r.fields.take h.fieldCount, ¬SameName f.name name) →
        (r.fieldIndex? name = some h.fieldCount ↔ IsUtf8In h.codePage name)) ∧
      (IsAscii name → IsUtf8In h.codePage name) ∧
      ∀ page, h.codePage = .single page → IsUtf8In h.codePage name → IsAscii name := by
  have hTight : next.Tight := (Edited.add hEdited hAdd).laid.tight
  have hPage := Text.CodePage.isCompact_of_languageDriver hDriver hSets
  obtain ⟨code, width, places, fieldType, _, _, _, _, rfl⟩ := addColumn_ok hAdd
  refine ⟨_, onBytes_read hTight hCount (Nat.lt_succ_of_le hHeader) (Nat.lt_succ_of_le hRecord)
    none hBytes cursor, ?_, ?_, ?_, ?_, hPage.encode_of_ascii, fun page hSingle hUtf8 => ?_⟩
  case refine_5 =>
    rw [hSingle] at hUtf8
    exact Text.CodePage.encode_single_eq_utf8_iff.mp hUtf8
  all_goals
    simp only [reread, fieldCount, fieldIndex?, columnName_eq hName.size_pos hName.size_le,
      List.map_append, List.map_cons, List.map_nil]
  · simp only [Option.none_or, Text.CodePage.ofLanguageDriver?_languageDriver hDriver,
      Option.getD_some]
  · simp only [List.length_append, List.length_map, List.length_cons, List.length_nil]
  · rw [List.getElem?_append_right (Nat.le_of_eq (List.length_map _)), List.length_map,
      Nat.sub_self]
    simp only [List.getElem?_cons_zero, Option.map_some, Option.some.injEq, rereadField]
    exact readName_storedName_iff hPage hName
  · intro hOthers
    rw [List.take_left' (List.length_map _)] at hOthers
    have hBefore : (h.fields.map (rereadField h.codePage)).findIdx?
        (fun field => sameName field.name name) = none := by
      rw [List.findIdx?_eq_none_iff]
      intro f hField
      rw [← Bool.not_eq_true, sameName_iff]
      exact hOthers f hField
    rw [List.findIdx?_append, hBefore, Option.none_or, List.findIdx?_singleton,
      ← sameName_reread_iff hPage hName, ← sameName_iff, rereadField]
    cases sameName (readName (storedName h.codePage name)) name
    all_goals simp

end Rereading

/-- The header of a table of streets, in a code page of two bytes. -/
def streetHeader : TableHeader :=
  let header : TableHeader := { TableHeader.new .epoch with codePage := .multi .gbk }
  (header.addColumn "北京" 'C' 20 0).toOption.getD header

theorem streetHeader_edited : streetHeader.Edited := by
  have hPage : Edited { TableHeader.new .epoch with codePage := .multi .gbk } :=
    .page (.new .epoch) _
  cases hAdd : TableHeader.addColumn { TableHeader.new .epoch with codePage := .multi .gbk }
    "北京" 'C' 20 0 with
  | error e => cases hAdd
  | ok next =>
      rw [streetHeader, hAdd]
      exact .add hPage hAdd

/-- A second column of that table has an ASCII name and keeps it, behind one
that is no longer known by its name. -/
theorem column_name_reread_length : ∃ next r,
    streetHeader.addColumn "length km" 'N' 6 2 = .ok next ∧
    ((read none).onBytes next.bytes.toArray {}).1 = .ok r ∧ r.codePage = .multi .gbk ∧
    r.fields.map Field.name = ["\uFFFD\uFFFD\uFFFD\uFFFD", "length km"] ∧
    r.fieldIndex? "length km" = some 1 := by
  have hRun : (streetHeader.addColumn "length km" 'N' 6 2).map (fun next =>
      (next.headerLength, next.recordLength, ((read none).onBytes next.bytes.toArray {}).1.map
        fun r => r.fields.map Field.name)) =
      .ok (97, 27, .ok ["\uFFFD\uFFFD\uFFFD\uFFFD", "length km"]) := by
    decide +kernel
  obtain ⟨next, hAdd, hNext⟩ := map_eq_ok hRun
  obtain ⟨hHeader, hRecord, hNames⟩ : next.headerLength = 97 ∧ next.recordLength = 27 ∧ _ := by
    simpa only [Prod.mk.injEq] using hNext
  let channel : Bytes := next.bytes.toArray
  have hBytes : channel.HasAt 0 next.bytes := Bytes.HasAt.of_toList [] [] (by simp [channel])
  have hName : NameFits streetHeader.codePage "length km" :=
    ⟨by decide, by decide, by decide, by decide, by decide +kernel, by decide +kernel⟩
  have hPage : streetHeader.codePage = .multi .gbk := by decide +kernel
  have hSets : ∀ set, streetHeader.codePage = .multi set → streetHeader.codePage.IsCompact :=
    fun _ _ => hPage ▸ Text.MultiByte.isCompact_sample .gbk
  obtain ⟨r, hRead, hReread, _, _, hIndex, hAscii, _⟩ :=
    column_name_reread_iff streetHeader_edited (by decide +kernel) (by decide +kernel) hSets hName
      hAdd (by omega) (by omega) hBytes {}
  have hFields : r.fields.map Field.name = ["\uFFFD\uFFFD\uFFFD\uFFFD", "length km"] := by
    rw [hRead] at hNames
    exact Except.ok.inj hNames
  refine ⟨next, r, hAdd, hRead, hReread.trans hPage, hFields,
    (hIndex ?_).mpr (hAscii (by simp [IsAscii]))⟩
  intro f hField
  have hLost : f.name ∈ (r.fields.map Field.name).take 1 := by
    rw [← List.map_take]
    exact List.mem_map_of_mem hField
  rw [hFields] at hLost
  rw [List.mem_singleton.mp hLost]
  unfold SameName
  decide

/-- A column that is named é is written as one byte in the standard code page,
which is no character in UTF-8, and is not found in the header read back. -/
theorem column_name_lost : NameFits (TableHeader.new .epoch).codePage "é" ∧
    ∃ next r, (TableHeader.new .epoch).addColumn "é" 'C' 4 0 = .ok next ∧
      ((read none).onBytes next.bytes.toArray {}).1 = .ok r ∧
      r.fields.map Field.name = ["\uFFFD"] ∧ r.fieldIndex? "é" = none := by
  have hRun : ((TableHeader.new .epoch).addColumn "é" 'C' 4 0).map (fun next =>
      ((read none).onBytes next.bytes.toArray {}).1.map
        fun r => (r.fields.map Field.name, r.fieldIndex? "é")) = .ok (.ok (["\uFFFD"], none)) := by
    decide +kernel
  refine ⟨⟨by decide, by decide, by decide, by decide, by decide +kernel, by decide +kernel⟩, ?_⟩
  obtain ⟨next, hAdd, hNext⟩ := map_eq_ok hRun
  obtain ⟨r, hRead, hNames⟩ := map_eq_ok hNext
  obtain ⟨hFields, hIndex⟩ := Prod.mk.inj hNames
  exact ⟨next, r, hAdd, hRead, hFields, hIndex⟩

end Shapefile.TableHeader
