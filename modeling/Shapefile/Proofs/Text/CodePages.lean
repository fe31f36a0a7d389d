import Mathlib.Algebra.Order.BigOperators.Group.List
import Mathlib.Algebra.Order.Group.Nat
import Shapefile.Proofs.Text.CharacterSizes
import Shapefile.Proofs.Text.Utf8RoundTrip
import Shapefile.Text.CodePage

/-! The code pages of tables. In a page that a header can name ASCII stands for
itself and other characters take one or two bytes, so a text takes no more bytes
than in UTF-8. That its bytes are those of UTF-8 is then rare: in pages of
single bytes it is so for ASCII alone. -/
namespace Shapefile.Text

namespace SingleByte

theorem size_high_le (page : SingleByte) : page.high.size ≤ 128 := by
  cases page <;> decide +kernel

/-- A byte with a character is read as that character. -/
theorem decodeByte?_of_encodeChar? {page : SingleByte} {c : Char} {b : UInt8}
    (hByte : page.encodeChar? c = some b) : page.decodeByte? b = some c := by
  rw [encodeChar?] at hByte
  split at hByte
  next hAscii =>
    cases hByte
    obtain ⟨hSame, hLow⟩ := asciiByte hAscii
    rw [decodeByte?, if_pos hLow, hSame, Char.ofNat_toNat]
  next hHigh =>
    obtain ⟨i, hIndex, rfl⟩ := Option.map_eq_some_iff.mp hByte
    have hList : page.high.idxOf? c.toNat = page.high.toList.idxOf? c.toNat := by
      rw [← List.idxOf?_toArray, Array.toArray_toList]
    rw [hList, List.idxOf?_eq_some_iff] at hIndex
    obtain ⟨hInside, hEntry, _⟩ := hIndex
    have hSome : page.high[i]? = some c.toNat := by
      rw [← Array.getElem?_toList, List.getElem?_eq_getElem hInside, hEntry]
    have hPlace : (UInt8.ofNat (0x80 + i)).toNat = 0x80 + i := by
      have hSize := page.size_high_le
      rw [Array.length_toList] at hInside
      rw [UInt8.toNat_ofNat']
      omega
    have hUpper : ¬UInt8.ofNat (0x80 + i) < 0x80 := by
      rw [UInt8.lt_iff_toNat_lt, hPlace]
      exact Nat.not_lt_of_le (Nat.le_add_right _ _)
    have hPoint : ¬c.toNat = 0 := fun hZero => hHigh (hZero ▸ by decide)
    rw [decodeByte?, if_neg hUpper, hPlace, Nat.add_sub_cancel_left, hSome]
    simp only [if_neg hPoint, Char.ofNat_toNat]

theorem encodeChar?_replacement (page : SingleByte) :
    page.encodeChar? Utf8.replacement = none := by
  have hAbsent : Utf8.replacement.toNat ∉ page.high.toList := by
    cases page <;> decide +kernel
  rw [encodeChar?, if_neg (by decide), Option.map_eq_none_iff, Array.idxOf?_eq_none_iff]
  exact fun hMember => hAbsent (Array.mem_toList_iff.mpr hMember)

/-- What a character comes back as: itself, or a question mark. -/
def readBack (page : SingleByte) (c : Char) : Char :=
  if (page.encodeChar? c).isSome then c else '?'

theorem decodeByte?_readBack (page : SingleByte) (c : Char) :
    page.decodeByte? ((page.encodeChar? c).getD 0x3F) = some (page.readBack c) := by
  rw [readBack]
  cases hByte : page.encodeChar? c with
  | none => rfl
  | some b => exact decodeByte?_of_encodeChar? hByte

end SingleByte

namespace CodePage

/-! ### Language drivers -/

/-- A page that a header can name stands in the list of language drivers. -/
theorem languageDriver_mem {page : CodePage} (hDriver : page.languageDriver ≠ 0) :
    (page.languageDriver, page) ∈ languageDrivers := by
  rw [languageDriver] at hDriver ⊢
  cases hFound : languageDrivers.find? fun entry => entry.2 = page with
  | none =>
      rw [hFound] at hDriver
      exact absurd rfl hDriver
  | some entry =>
      have hPage : entry.2 = page := by simpa using List.find?_some hFound
      have hListed := List.mem_of_find?_eq_some hFound
      rw [← hPage]
      exact hListed

/-- The page that a header names is read back. -/
theorem ofLanguageDriver?_languageDriver {page : CodePage} (hDriver : page.languageDriver ≠ 0) :
    ofLanguageDriver? page.languageDriver = some page := by
  have hTable : ∀ entry ∈ languageDrivers, ofLanguageDriver? entry.1 = some entry.2 := by
    decide +kernel
  exact hTable _ (languageDriver_mem hDriver)

variable [Host]

/-! ### Pages of single bytes -/

theorem decode_encode_single (page : SingleByte) (text : List Char) :
    (single page).decode ((single page).encode text) = text.map page.readBack := by
  rw [encode, decode, List.map_map]
  refine List.map_congr_left fun c _ => ?_
  rw [Function.comp_apply, page.decodeByte?_readBack, Option.getD_some]

/-- What such a page keeps holds no replacement character. -/
theorem replacement_not_mem_single {page : SingleByte} {text : List Char}
    (hLossless : (single page).decode ((single page).encode text) = text) :
    Utf8.replacement ∉ text := by
  intro hMember
  rw [decode_encode_single] at hLossless
  have hSame : page.readBack Utf8.replacement = Utf8.replacement :=
    List.map_inj_left.mp (hLossless.trans (List.map_id text).symm) _ hMember
  rw [SingleByte.readBack, page.encodeChar?_replacement] at hSame
  exact absurd hSame (by decide)

/-! ### Compact pages -/

/-- A page of one or two bytes to a character. All sets of characters that a
table header can name are made so; none has a replacement character. -/
structure IsCompact (page : CodePage) : Prop where
  encode_append : ∀ text more, page.encode (text ++ more) = page.encode text ++ page.encode more
  encode_ascii : ∀ c : Char, c.toNat < 0x80 → page.encode [c] = [UInt8.ofNat c.toNat]
  length_le : ∀ c, (page.encode [c]).length ≤ 2
  replacement_lost : ∀ text, page.decode (page.encode text) = text → Utf8.replacement ∉ text

theorem isCompact_single (page : SingleByte) : (single page).IsCompact where
  encode_append _ _ := List.map_append
  encode_ascii c hAscii := by simp [encode, SingleByte.encodeChar?, hAscii]
  length_le _ := Nat.le_succ 1
  replacement_lost _ := replacement_not_mem_single

/-- All pages that a table header can name are compact, if those of several
bytes are. -/
theorem isCompact_of_languageDriver {page : CodePage} (hDriver : page.languageDriver ≠ 0)
    (hSets : ∀ set, page = multi set → page.IsCompact) : page.IsCompact := by
  cases page with
  | single page => exact isCompact_single page
  | multi set => exact hSets set rfl
  | utf16 order =>
      cases order
      all_goals exact absurd rfl hDriver
  | utf8 | replacement => exact absurd rfl hDriver

namespace IsCompact

variable {page : CodePage}

theorem encode_cons (hPage : page.IsCompact) (c : Char) (text : List Char) :
    page.encode (c :: text) = page.encode [c] ++ page.encode text := hPage.encode_append [c] text

theorem encode_nil (hPage : page.IsCompact) : page.encode [] = [] :=
  List.append_right_eq_self.mp (hPage.encode_append [] []).symm

theorem length_encode_char_le (hPage : page.IsCompact) (c : Char) :
    (page.encode [c]).length ≤ c.utf8Size := by
  rcases Nat.lt_or_ge c.toNat 0x80 with hAscii | hHigh
  · rw [hPage.encode_ascii c hAscii]
    exact c.utf8Size_pos
  · exact Nat.le_trans (hPage.length_le c) (two_le_utf8Size hHigh)

/-- A text takes no more bytes than in UTF-8. -/
theorem length_encode_le (hPage : page.IsCompact) (text : List Char) :
    (page.encode text).length ≤ utf8Length text := by
  induction text with
  | nil =>
      rw [hPage.encode_nil]
      exact Nat.zero_le _
  | cons c text ih =>
      rw [hPage.encode_cons, List.length_append, utf8Length_cons]
      exact Nat.add_le_add (hPage.length_encode_char_le c) ih

/-- A character whose bytes are those of another one in UTF-8 is that one, if
the two differ in their case at most. -/
theorem eq_of_encode_char_eq (hPage : page.IsCompact) {c other : Char}
    (hLower : other.toLower = c.toLower)
    (hBytes : page.encode [c] = String.utf8EncodeChar other) : other = c := by
  rcases Nat.lt_or_ge c.toNat 0x80 with hAscii | hHigh
  · rw [hPage.encode_ascii c hAscii] at hBytes
    have hOne : other.utf8Size = 1 := by
      rw [← String.length_utf8EncodeChar, ← hBytes, List.length_singleton]
    have hOther := utf8Size_eq_one_iff.mp hOne
    rw [Utf8.utf8EncodeChar_ascii hOther, List.singleton_inj, ← UInt8.toNat_inj,
      (asciiByte hAscii).1, (asciiByte hOther).1] at hBytes
    exact Char.toNat_inj.mp hBytes.symm
  · -- Only ASCII letters have two cases.
    rcases toLower_cases c with hSame | hAscii
    · rw [hSame] at hLower
      rcases toLower_cases other with hStays | hAscii
      · rw [← hStays, hLower]
      · rw [hLower] at hAscii
        exact absurd hAscii.2 (Nat.not_lt_of_le hHigh)
    · exact absurd hAscii.1 (Nat.not_lt_of_le hHigh)

theorem eq_of_encode_eq (hPage : page.IsCompact) {text other : List Char}
    (hLower : other.map Char.toLower = text.map Char.toLower)
    (hBytes : page.encode text = Utf8.encode other) : other = text := by
  induction text generalizing other with
  | nil => exact List.map_eq_nil_iff.mp hLower
  | cons c text ih =>
      rw [List.map_cons] at hLower
      obtain ⟨d, rest, rfl, hFirst, hRest⟩ := List.map_eq_cons_iff.mp hLower
      rw [hPage.encode_cons, Utf8.encode_cons] at hBytes
      -- Neither part is longer than its counterpart, so the bytes part at the same place.
      have hChar : (page.encode [c]).length ≤ (String.utf8EncodeChar d).length := by
        rw [String.length_utf8EncodeChar, ← utf8Size_toLower d, hFirst, utf8Size_toLower]
        exact hPage.length_encode_char_le c
      have hBehind : (page.encode text).length ≤ (Utf8.encode rest).length := by
        rw [Utf8.length_encode, ← utf8Length_map_toLower rest, hRest, utf8Length_map_toLower]
        exact hPage.length_encode_le text
      have hWhole := congrArg List.length hBytes
      rw [List.length_append, List.length_append] at hWhole
      obtain ⟨hHead, hTail⟩ := List.append_inj hBytes (by omega)
      rw [hPage.eq_of_encode_char_eq hFirst hHead, ih hRest hTail]

/-- ASCII is the same in all these pages and in UTF-8. -/
theorem encode_of_ascii (hPage : page.IsCompact) {text : List Char}
    (hAscii : ∀ c ∈ text, c.toNat < 0x80) : page.encode text = Utf8.encode text := by
  induction text with
  | nil => exact hPage.encode_nil
  | cons c text ih =>
      have hFirst := hAscii c List.mem_cons_self
      rw [hPage.encode_cons, hPage.encode_ascii c hFirst, Utf8.encode_cons,
        Utf8.utf8EncodeChar_ascii hFirst,
        ih fun d hMember => hAscii d (List.mem_cons_of_mem c hMember)]

end IsCompact

/-- In a page of single bytes nothing else is. -/
theorem encode_single_eq_utf8_iff {page : SingleByte} {text : List Char} :
    (single page).encode text = Utf8.encode text ↔ ∀ c ∈ text, c.toNat < 0x80 := by
  refine ⟨fun hBytes c hMember => ?_, (isCompact_single page).encode_of_ascii⟩
  by_contra hHigh
  have hLength : text.length = utf8Length text := by
    rw [← Utf8.length_encode, ← hBytes, encode, List.length_map]
  have hMore : (text.map fun _ => 1).sum < utf8Length text :=
    List.sum_lt_sum _ _ (fun d _ => d.utf8Size_pos)
      ⟨c, hMember, two_le_utf8Size (Nat.le_of_not_lt hHigh)⟩
  rw [List.map_const', List.sum_replicate_nat, Nat.mul_one] at hMore
  omega

end CodePage

end Shapefile.Text
