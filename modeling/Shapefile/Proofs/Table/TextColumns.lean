import Shapefile.Proofs.Table.TextCutting
import Shapefile.Proofs.Text.SampleSets
import Shapefile.Text.Label

/-! Text that fits its column, read back. The blanks behind it are put there as
bytes and taken away as characters, so it comes back where the page reads a
blank byte as a blank. -/
namespace Shapefile.Field

open Text

/-- A text with something in it and neither white space nor NUL at its ends. -/
structure IsTrimmed (text : List Char) : Prop where
  first : ∃ c rest, text = c :: rest ∧ isPadding c = false
  last : ∃ front c, text = front ++ [c] ∧ isPadding c = false

theorem IsTrimmed.ne_nil {text : List Char} (hText : IsTrimmed text) : text ≠ [] := by
  obtain ⟨c, rest, rfl, _⟩ := hText.first
  exact List.cons_ne_nil c rest

/-- What is padding behind a text is trimmed. -/
theorem IsTrimmed.trim_append {text back : List Char} (hText : IsTrimmed text)
    (hBack : ∀ c ∈ back, isPadding c) : trim (text ++ back) = text := by
  have hFront : (text ++ back).dropWhile isPadding = text ++ back := by
    obtain ⟨c, rest, rfl, hSeen⟩ := hText.first
    rw [List.cons_append, List.dropWhile_cons_of_neg (by simp [hSeen])]
  obtain ⟨front, c, rfl, hSeen⟩ := hText.last
  rw [trim, Text.trimBy, hFront, List.reverse_append,
    List.dropWhile_append_of_pos fun d hMember => hBack d (List.mem_reverse.mp hMember),
    List.reverse_concat, List.dropWhile_cons_of_neg (by simp [hSeen]), ← List.reverse_concat,
    List.reverse_reverse]

theorem IsTrimmed.trim_eq {text : List Char} (hText : IsTrimmed text) : trim text = text := by
  have hNothing := hText.trim_append (List.forall_mem_nil _)
  rwa [List.append_nil] at hNothing

/-- A text with more behind it is trimmed if its new end is no padding. -/
theorem IsTrimmed.append {text back : List Char} (hText : IsTrimmed text)
    (hBack : ∀ c ∈ back, isPadding c = false) : IsTrimmed (text ++ back) := by
  rcases List.eq_nil_or_concat back with rfl | ⟨front, c, rfl⟩
  · rwa [List.append_nil]
  · refine ⟨?_, text ++ front, c, ?_, hBack c ?_⟩
    · obtain ⟨d, rest, rfl, hSeen⟩ := hText.first
      exact ⟨d, rest ++ front.concat c, rfl, hSeen⟩
    · rw [List.concat_eq_append, List.append_assoc]
    · simp

/-- A text that fits is kept whole. -/
theorem fitText_of_fits {encode : List Char → List UInt8} (hEmpty : encode [] = []) {length : Nat}
    {text : List Char} (hFits : (encode text).length ≤ length) :
    fitText encode length text =
      encode text ++ List.replicate (length - (encode text).length) 0x20 := by
  obtain ⟨kept, hKept, hBytes⟩ := fitText_eq hEmpty length text
  have hWhole : LongestFitting encode length text text :=
    ⟨List.prefix_rfl, hFits, fun _ hOther _ => hOther.length_le⟩
  rw [hBytes, hKept.eq hWhole]

/-- What is no padding stays behind a text. -/
theorem IsTrimmed.trim_append_ne {text more : List Char} (hText : IsTrimmed text) {c : Char}
    (hSeen : isPadding c = false) : trim (text ++ c :: more) ≠ text := by
  intro hTrim
  obtain ⟨front, back, hSplit, hFront, hBack⟩ := trimBy_split isPadding (text ++ c :: more)
  rw [← trim, hTrim] at hSplit
  obtain ⟨first, rest, rfl, hFirst⟩ := hText.first
  cases front with
  | nil =>
      rw [List.nil_append] at hSplit
      have hMember : c ∈ back := List.append_cancel_left hSplit ▸ List.mem_cons_self
      exact absurd (hBack c hMember) (by simp [hSeen])
  | cons other front =>
      rw [List.cons_append, List.cons_append] at hSplit
      have hOther := hFront other List.mem_cons_self
      rw [← (List.cons.inj hSplit).1, hFirst] at hOther
      cases hOther

theorem isPadding_mistaken {c : Char} (hMistaken : c = '†' ∨ c = Utf8.replacement) :
    isPadding c = false := by
  rcases hMistaken with rfl | rfl
  all_goals rfl

theorem encode_varchar [Host] {f : Field} (hType : f.fieldType = .varchar) (page : CodePage)
    (text : String) :
    f.encode page (.varchar text) = .ok (fitText page.encode f.length text.toList) := by
  unfold encode
  rw [hType]
  rfl

theorem parse_varchar [Host] {f : Field} (hType : f.fieldType = .varchar) (page : CodePage)
    {bytes : List UInt8} (hSome : ∃ b ∈ bytes, b ≠ 0) :
    f.parse page bytes = .ok (.varchar (String.ofList (trim (page.decode bytes)))) := by
  have hNotAll : ¬bytes.all (· == 0) := by
    obtain ⟨b, hMember, hByte⟩ := hSome
    intro hAll
    exact hByte (beq_iff_eq.mp (List.all_eq_true.mp hAll b hMember))
  rw [parse, hType]
  simp only [if_neg hNotAll]

/-- Text that the page keeps and that fits its column is stored whole. It is
decoded, and trimmed, together with the blanks behind it. -/
theorem parse_encode_varchar [Host] {page : CodePage} {f : Field} (hType : f.fieldType = .varchar)
    (hSets : ∀ set, page = .multi set → set.Lawful) {text : String}
    (hText : IsTrimmed text.toList)
    (hLossless : page.decode (page.encode text.toList) = text.toList) {room : Nat}
    (hRoom : f.length = (page.encode text.toList).length + room) :
    ∃ bytes, f.encode page (.varchar text) = .ok bytes ∧
      f.parse page bytes = .ok (.varchar (String.ofList
        (trim (page.decode (page.encode text.toList ++ List.replicate room 0x20))))) := by
  have hBytes : fitText page.encode f.length text.toList =
      page.encode text.toList ++ List.replicate room 0x20 := by
    rw [fitText_of_fits (CodePage.encode_nil hSets) (hRoom ▸ Nat.le_add_right _ _), hRoom,
      Nat.add_sub_cancel_left]
  have hSome : ∃ b ∈ fitText page.encode f.length text.toList, b ≠ 0 := by
    obtain ⟨c, rest, hFirst, hSeen⟩ := hText.first
    by_contra hNone
    push Not at hNone
    rw [hBytes, hFirst] at hNone
    rw [hFirst] at hLossless
    have hNul : c = '\x00' := CodePage.eq_nul_of_zeros hSets hLossless fun b hMember =>
      hNone b (List.mem_append_left _ hMember)
    rw [hNul] at hSeen
    cases hSeen
  refine ⟨_, encode_varchar hType page text, ?_⟩
  rw [parse_varchar hType page hSome, hBytes]

/-- Text that the page keeps and that fits its column is stored whole. It is
read back as it was exactly if there is no room behind it or the blanks that
fill this room are read as blanks. They are not in UTF-16: there they are read,
two by two, as daggers behind the text, with a replacement character for an odd
one. Nor are they where a text of ISO-2022-JP does not end in ASCII. -/
theorem varchar_reread_iff [Host] {page : CodePage} {f : Field} (hType : f.fieldType = .varchar)
    (hSets : ∀ set, page = .multi set → set.Lawful) {text : String}
    (hText : IsTrimmed text.toList)
    (hLossless : page.decode (page.encode text.toList) = text.toList)
    (hFits : (page.encode text.toList).length ≤ f.length) :
    ∃ bytes, f.encode page (.varchar text) = .ok bytes ∧
      (f.parse page bytes = .ok (.varchar text) ↔
        (page.MistakesBlanks text.toList → (page.encode text.toList).length = f.length)) ∧
      ∀ order, page = .utf16 order → f.parse page bytes = .ok (.varchar (text ++
        String.ofList (CodePage.daggers (f.length - (page.encode text.toList).length)))) := by
  obtain ⟨room, hRoom⟩ := Nat.exists_eq_add_of_le hFits
  obtain ⟨bytes, hEncode, hParse⟩ := parse_encode_varchar hType hSets hText hLossless hRoom
  refine ⟨bytes, hEncode, ?_, ?_⟩
  · have hSame : f.parse page bytes = .ok (.varchar text) ↔
        trim (page.decode (page.encode text.toList ++ List.replicate room 0x20)) =
          text.toList := by
      rw [hParse, Except.ok.injEq, Value.varchar.injEq, ← String.toList_inj, String.toList_ofList]
    rw [hSame, hRoom, Nat.left_eq_add]
    by_cases hBlanks : page.MistakesBlanks text.toList
    · cases room with
      | zero =>
          rw [List.replicate_zero, List.append_nil, hLossless]
          exact iff_of_true hText.trim_eq fun _ => rfl
      | succ room =>
          obtain ⟨c, more, hMistaken, hRead⟩ :=
            CodePage.decode_encode_mistaken hSets hLossless hBlanks room
          have hSeen : isPadding c = false := isPadding_mistaken hMistaken
          rw [hRead]
          exact iff_of_false (hText.trim_append_ne hSeen) fun hWhole => nomatch hWhole hBlanks
    · rw [CodePage.decode_encode_blanks hSets hText.ne_nil hLossless hBlanks]
      refine iff_of_true (hText.trim_append fun c hMember => ?_) fun hMistakes =>
        absurd hMistakes hBlanks
      rw [List.eq_of_mem_replicate hMember]
      rfl
  · rintro order rfl
    have hRead : CodePage.decode (.utf16 order) (CodePage.encode (.utf16 order) text.toList ++
        List.replicate room 0x20) = text.toList ++ CodePage.daggers room :=
      (CodePage.decodeUtf16_flatMap order text.toList _).trans
        (congrArg (text.toList ++ ·) (CodePage.decodeUtf16_blanks order room))
    have hSeen : ∀ c ∈ CodePage.daggers room, isPadding c = false :=
      fun _ hMember => isPadding_mistaken (CodePage.mem_daggers hMember)
    rw [hParse, hRead, (hText.append hSeen).trim_eq, String.ofList_append, String.ofList_toList,
      hRoom, Nat.add_sub_cancel_left]

/-- A name of two characters in a column of six bytes. -/
theorem varchar_reread_gbk :
    let page := CodePage.multi .gbk
    let f : Field := ⟨"name", 0x43, 6, 0, 1, .varchar⟩
    f.encode page (.varchar "中文") = .ok [0xD6, 0xD0, 0xCE, 0xC4, 0x20, 0x20] ∧
      f.parse page [0xD6, 0xD0, 0xCE, 0xC4, 0x20, 0x20] = .ok (.varchar "中文") := by
  intro page f
  have hText : IsTrimmed "中文".toList :=
    ⟨⟨'中', ['文'], rfl, rfl⟩, ['中'], '文', rfl, rfl⟩
  have hLossless : page.decode (page.encode "中文".toList) = "中文".toList := by decide +kernel
  have hFits : (page.encode "中文".toList).length ≤ f.length := by decide +kernel
  have hStored : f.encode page (.varchar "中文") =
      .ok [0xD6, 0xD0, 0xCE, 0xC4, 0x20, 0x20] := by decide +kernel
  obtain ⟨bytes, hBytes, hBack, _⟩ := varchar_reread_iff (f := f) rfl
    (fun set _ => set.lawful_sample) hText hLossless hFits
  rw [hStored] at hBytes
  cases hBytes
  exact ⟨hStored, hBack.mpr fun hShifts => nomatch hShifts.1⟩

/-- In UTF-16 a letter comes back with a dagger from a column of four bytes. -/
theorem varchar_reread_dagger :
    ∃ page, CodePage.ofLabel? "utf-16le".toList = some page ∧ IsTrimmed "a".toList ∧
      page.decode (page.encode "a".toList) = "a".toList ∧ (page.encode "a".toList).length ≤ 4 ∧
      let f : Field := ⟨"name", 0x43, 4, 0, 1, .varchar⟩
      ∃ bytes, f.encode page (.varchar "a") = .ok bytes ∧
        f.parse page bytes = .ok (.varchar "a†") ∧ f.parse page bytes ≠ .ok (.varchar "a") := by
  refine ⟨.utf16 .little, by decide +kernel, ⟨⟨'a', [], rfl, rfl⟩, [], 'a', rfl, rfl⟩, by decide,
    by decide, [0x61, 0x00, 0x20, 0x20], rfl, by decide +kernel, by decide +kernel⟩

end Shapefile.Field
