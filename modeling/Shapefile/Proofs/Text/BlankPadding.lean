import Mathlib.Data.List.Basic
import Mathlib.Data.Nat.Init
import Shapefile.Proofs.Text.CharacterSizes
import Shapefile.Proofs.Text.Utf8RoundTrip
import Shapefile.Text.CodePage

/-! Bytes of blanks behind an encoded text. They are read as blanks where the
decoder is in ASCII by then. UTF-16 takes them two at a time and finds another
character in each pair, and a set that shifts finds none if it was not shifted
back. -/
namespace Shapefile.Text

namespace MultiByte

/-- The text ends shifted away from ASCII. The set of ISO-2022-JP shifts before
a character of another set than the one before it, and not at the end. -/
def Shifts (set : MultiByte) (text : List Char) : Prop :=
  set = .iso2022Jp ∧ ∃ c ∈ text.getLast?, 0x80 ≤ c.toNat

/-- The byte that begins a shift. -/
def escape : UInt8 := 0x1B

/-- What holds of the sets of a library. Their decoders begin in ASCII, and are
there again behind a text that was kept, unless it ends shifted; a blank begins
no character that a shift leads to. -/
structure Lawful [Host] (set : MultiByte) : Prop where
  encode_nil : Host.encode set [] = []
  decode_nil : Host.decode set [] = []
  decode_ascii : ∀ b rest, b < 0x80 → b ≠ escape →
    Host.decode set (b :: rest) = Char.ofNat b.toNat :: Host.decode set rest
  decode_append : ∀ text rest, Host.decode set (Host.encode set text) = text →
    ¬set.Shifts text → Host.decode set (Host.encode set text ++ rest) = text ++ Host.decode set rest
  decode_shifted : ∀ text rest, Host.decode set (Host.encode set text) = text →
    set.Shifts text → ∃ more, Host.decode set (Host.encode set text ++ 0x20 :: rest) =
      text ++ Utf8.replacement :: more

end MultiByte

namespace CodePage

/-! ### UTF-16 -/

/-- A number of 16 bits is two bytes, from which it is read again. -/
theorem encode_two (order : ByteOrder) {n : Nat} (hSmall : n < 0x10000) :
    ∃ a b, order.encode 2 n = [a, b] ∧ order.decode [a, b] = n := by
  obtain ⟨a, b, hBytes⟩ := List.length_eq_two.mp (order.length_encode 2 n)
  refine ⟨a, b, hBytes, ?_⟩
  rw [← hBytes, order.decode_encode]
  exact Nat.mod_eq_of_lt hSmall

/-- The bytes of a character are read as that character, whatever follows. -/
theorem decodeUtf16_encodeUtf16 (order : ByteOrder) (c : Char) (rest : List UInt8) :
    decodeUtf16 order (encodeUtf16 order c ++ rest) = c :: decodeUtf16 order rest := by
  have hRange : c.toNat < 0xD800 ∨ 0xDFFF < c.toNat ∧ c.toNat < 0x110000 := c.valid
  rw [encodeUtf16]
  by_cases hPlane : c.toNat < 0x10000
  · obtain ⟨a, b, hBytes, hUnit⟩ := encode_two order hPlane
    rw [if_pos hPlane, hBytes, List.cons_append, List.cons_append, List.nil_append,
      decodeUtf16.eq_def]
    simp only [hUnit]
    rw [if_neg (by omega), if_neg (by omega), Char.ofNat_toNat]
  · -- Two halves, of ten bits each.
    obtain ⟨a, b, hHigh, hHighUnit⟩ :=
      encode_two order (n := 0xD800 + (c.toNat - 0x10000) / 0x400) (by omega)
    obtain ⟨a', b', hLow, hLowUnit⟩ :=
      encode_two order (n := 0xDC00 + (c.toNat - 0x10000) % 0x400) (by omega)
    simp only [if_neg hPlane, hHigh, hLow, List.cons_append, List.nil_append]
    rw [decodeUtf16.eq_def]
    simp only [hHighUnit, hLowUnit]
    rw [if_pos (by omega), if_pos (by omega)]
    have hWhole : 0x10000 + (0xD800 + (c.toNat - 0x10000) / 0x400 - 0xD800) * 0x400 +
        (0xDC00 + (c.toNat - 0x10000) % 0x400 - 0xDC00) = c.toNat := by omega
    rw [hWhole, Char.ofNat_toNat]

theorem decodeUtf16_flatMap (order : ByteOrder) (text : List Char) (rest : List UInt8) :
    decodeUtf16 order (text.flatMap (encodeUtf16 order) ++ rest) =
      text ++ decodeUtf16 order rest := by
  induction text with
  | nil => rfl
  | cons c text ih =>
      rw [List.flatMap_cons, List.append_assoc, decodeUtf16_encodeUtf16, ih, List.cons_append]

/-- What blanks are read as in UTF-16: a dagger for two, in either order. -/
def daggers (count : Nat) : List Char :=
  List.replicate (count / 2) '†' ++ List.replicate (count % 2) Utf8.replacement

theorem daggers_add_two (count : Nat) : daggers (count + 2) = '†' :: daggers count := by
  rw [daggers, Nat.add_mod_right, Nat.add_div_right count Nat.two_pos, List.replicate_succ,
    List.cons_append, daggers]

theorem mem_daggers {count : Nat} {c : Char} (hMember : c ∈ daggers count) :
    c = '†' ∨ c = Utf8.replacement := by
  rcases List.mem_append.mp hMember with hPair | hOdd
  · exact .inl (List.eq_of_mem_replicate hPair)
  · exact .inr (List.eq_of_mem_replicate hOdd)

theorem decodeUtf16_blanks (order : ByteOrder) (count : Nat) :
    decodeUtf16 order (List.replicate count 0x20) = daggers count := by
  induction count using Nat.twoStepInduction with
  | zero => rfl
  | one => rfl
  | more count ih _ =>
      rw [daggers_add_two, ← ih, List.replicate_succ, List.replicate_succ, decodeUtf16.eq_def]
      cases order
      all_goals rfl

/-- Two zeros are the number zero. -/
theorem eq_zero_of_encode_two (order : ByteOrder) {n : Nat} (hSmall : n < 0x10000)
    (hZeros : ∀ b ∈ order.encode 2 n, b = 0) : n = 0 := by
  obtain ⟨a, b, hBytes, hUnit⟩ := encode_two order hSmall
  rw [hBytes] at hZeros
  rw [hZeros a (by simp), hZeros b (by simp)] at hUnit
  rw [← hUnit]
  cases order
  all_goals rfl

/-- Only the character NUL is nothing but zeros. -/
theorem eq_nul_of_encodeUtf16 (order : ByteOrder) {c : Char}
    (hZeros : ∀ b ∈ encodeUtf16 order c, b = 0) : c = '\x00' := by
  rw [encodeUtf16] at hZeros
  by_cases hPlane : c.toNat < 0x10000
  · rw [if_pos hPlane] at hZeros
    have hZero := eq_zero_of_encode_two order hPlane hZeros
    rw [← c.ofNat_toNat, hZero]
  · rw [if_neg hPlane] at hZeros
    have hRange : c.toNat < 0xD800 ∨ 0xDFFF < c.toNat ∧ c.toNat < 0x110000 := c.valid
    have hZero : 0xD800 + (c.toNat - 0x10000) / 0x400 = 0 :=
      eq_zero_of_encode_two order (by omega) fun b hMember =>
        hZeros b (List.mem_append_left _ hMember)
    omega

/-! ### Every page -/

variable [Host] {page : CodePage} {text : List Char}

/-- A blank behind the text is not read as one. -/
def MistakesBlanks (page : CodePage) (text : List Char) : Prop :=
  match page with
  | utf16 _ => True
  | multi set => set.Shifts text
  | utf8 | single _ | replacement => False

/-- Nothing can be read through the replacement page, as each of its
characters takes three bytes and each of these is read as one. -/
theorem eq_nil_of_replacement (hLossless : replacement.decode (replacement.encode text) = text) :
    text = [] := by
  have hSame : ∀ c ∈ text, c = Utf8.replacement := by
    intro c hMember
    rw [← hLossless] at hMember
    obtain ⟨_, _, hChar⟩ := List.mem_map.mp hMember
    exact hChar.symm
  have hBytes : (replacement.encode text).length = text.length := by
    rw [← List.length_map (fun _ => Utf8.replacement)]
    exact congrArg List.length hLossless
  obtain ⟨count, rfl⟩ : ∃ count, text = List.replicate count Utf8.replacement :=
    ⟨_, List.eq_replicate_of_mem hSame⟩
  have hThree : (replacement.encode (List.replicate count Utf8.replacement)).length =
      count * Utf8.replacement.utf8Size := by
    rw [encode, Utf8.length_encode, utf8Length, List.map_replicate, List.sum_replicate_nat]
  have hSize : Utf8.replacement.utf8Size = 3 := rfl
  rw [hThree, hSize, List.length_replicate] at hBytes
  rw [(by omega : count = 0)]
  rfl

theorem decode_blanks_of_ascii (page : CodePage)
    (hAscii : ∀ rest, page.decode (0x20 :: rest) = ' ' :: page.decode rest)
    (hNothing : page.decode [] = []) (count : Nat) :
    page.decode (List.replicate count 0x20) = List.replicate count ' ' := by
  induction count with
  | zero => exact hNothing
  | succ count ih => rw [List.replicate_succ, hAscii, ih, List.replicate_succ]

/-- Blanks behind a text that the page keeps are read behind that text. -/
theorem decode_encode_blanks (hSets : ∀ set, page = multi set → set.Lawful) (hSome : text ≠ [])
    (hLossless : page.decode (page.encode text) = text) (hBlanks : ¬page.MistakesBlanks text)
    (count : Nat) :
    page.decode (page.encode text ++ List.replicate count 0x20) =
      text ++ List.replicate count ' ' := by
  cases page with
  | utf8 =>
      have hAscii := decode_blanks_of_ascii utf8
        (fun rest => Utf8.decode_cons_ascii (by decide) rest) Utf8.decode.eq_1 count
      rw [← hAscii]
      exact Utf8.decode_encode_append text _
  | utf16 order => exact absurd True.intro hBlanks
  | single page =>
      have hAscii := decode_blanks_of_ascii (single page) (fun _ => rfl) rfl count
      rw [← hAscii]
      exact List.map_append.trans (congrArg (· ++ _) hLossless)
  | multi set =>
      have hLaws := hSets set rfl
      have hAscii := decode_blanks_of_ascii (multi set)
        (fun rest => hLaws.decode_ascii 0x20 rest (by decide) (by decide)) hLaws.decode_nil count
      rw [← hAscii]
      exact hLaws.decode_append text _ hLossless hBlanks
  | replacement => exact absurd (eq_nil_of_replacement hLossless) hSome

/-- Where blanks are mistaken, the first one begins another character. -/
theorem decode_encode_mistaken (hSets : ∀ set, page = multi set → set.Lawful)
    (hLossless : page.decode (page.encode text) = text) (hBlanks : page.MistakesBlanks text)
    (count : Nat) : ∃ c more, (c = '†' ∨ c = Utf8.replacement) ∧
      page.decode (page.encode text ++ List.replicate (count + 1) 0x20) = text ++ c :: more := by
  cases page with
  | utf16 order =>
      have hRead : decodeUtf16 order (text.flatMap (encodeUtf16 order) ++
          List.replicate (count + 1) 0x20) = text ++ daggers (count + 1) := by
        rw [decodeUtf16_flatMap, decodeUtf16_blanks]
      cases count with
      | zero => exact ⟨Utf8.replacement, [], .inr rfl, hRead⟩
      | succ count =>
          rw [daggers_add_two] at hRead
          exact ⟨'†', daggers count, .inl rfl, hRead⟩
  | multi set =>
      obtain ⟨more, hRead⟩ := (hSets set rfl).decode_shifted text
        (List.replicate count 0x20) hLossless hBlanks
      exact ⟨Utf8.replacement, more, .inr rfl, hRead⟩
  | utf8 | single | replacement => exact hBlanks.elim

/-- A text that begins with zeros begins with NUL, if the page keeps it. -/
theorem eq_nul_of_zeros (hSets : ∀ set, page = multi set → set.Lawful) {c : Char}
    (hLossless : page.decode (page.encode (c :: text)) = c :: text)
    (hZeros : ∀ b ∈ page.encode (c :: text), b = 0) : c = '\x00' := by
  -- Where ASCII stands for itself, a zero is read as NUL.
  have hAscii (hRead : ∀ rest, page.decode (0 :: rest) = '\x00' :: page.decode rest)
      (hNothing : page.decode [] = []) : c = '\x00' := by
    cases hBytes : page.encode (c :: text) with
    | nil =>
        rw [hBytes, hNothing] at hLossless
        cases hLossless
    | cons b rest =>
        have hZero : b = 0 := hZeros b (hBytes ▸ List.mem_cons_self)
        rw [hBytes, hZero, hRead] at hLossless
        exact (List.cons.inj hLossless).1.symm
  cases page with
  | utf8 => exact hAscii (fun rest => Utf8.decode_cons_ascii (by decide) rest) Utf8.decode.eq_1
  | utf16 order =>
      refine eq_nul_of_encodeUtf16 order fun b hMember => hZeros b ?_
      rw [encode, List.flatMap_cons]
      exact List.mem_append_left _ hMember
  | single page => exact hAscii (fun _ => rfl) rfl
  | multi set =>
      have hLaws := hSets set rfl
      exact hAscii (fun rest => hLaws.decode_ascii 0 rest (by decide) (by decide)) hLaws.decode_nil
  | replacement => exact absurd (eq_nil_of_replacement hLossless) (List.cons_ne_nil c text)

/-- No text has no bytes. -/
theorem encode_nil (hSets : ∀ set, page = multi set → set.Lawful) : page.encode [] = [] := by
  cases page with
  | multi set => exact (hSets set rfl).encode_nil
  | utf8 | utf16 | single | replacement => rfl

end CodePage

end Shapefile.Text
