import Mathlib.Tactic.IntervalCases
import Mathlib.Tactic.SplitIfs
import Shapefile.Text.Utf8

/-! UTF-8 in both directions. The bytes of a character are read as that
character whatever follows, and bytes that make a character are the bytes of
that character, so a text whose bytes were all read still tells them. -/
namespace Shapefile.Text.Utf8

/-! ### Bytes behind a lead byte -/

/-- The byte that continues a character with these six bits is in range. -/
def Span.Holds (span : Span) (bits : Nat) : Prop :=
  span.first.toNat ≤ bits + 0x80 ∧ bits + 0x80 ≤ span.last.toNat

theorem takeTail_ofNat {span : Span} {bits : Nat} (hInside : span.Holds bits) (point : Nat)
    (spans : List Span) (rest : List UInt8) :
    takeTail point (span :: spans) (UInt8.ofNat (bits + 0x80) :: rest) =
      takeTail (point * 64 + bits) spans rest := by
  have hByte : (UInt8.ofNat (bits + 0x80)).toNat = bits + 0x80 :=
    UInt8.toNat_ofNat_of_lt' (Nat.lt_of_le_of_lt hInside.2 span.last.toNat_lt)
  simp only [takeTail, UInt8.le_iff_toNat_le, hByte, Nat.add_sub_cancel]
  exact if_pos hInside

/-- A byte that was taken is one in range. -/
theorem takeTail_cons_some {point : Nat} {span : Span} {spans : List Span}
    {bytes rest : List UInt8} {value : Nat} (hHigh : 0x80 ≤ span.first.toNat)
    (hTaken : takeTail point (span :: spans) bytes = (some value, rest)) :
    ∃ bits more, bytes = UInt8.ofNat (bits + 0x80) :: more ∧ span.Holds bits ∧
      takeTail (point * 64 + bits) spans more = (some value, rest) := by
  cases bytes with
  | nil => cases hTaken
  | cons b more =>
      simp only [takeTail, UInt8.le_iff_toNat_le] at hTaken
      split at hTaken
      next hInside =>
        have hBits : b.toNat - 0x80 + 0x80 = b.toNat :=
          Nat.sub_add_cancel (Nat.le_trans hHigh hInside.1)
        refine ⟨b.toNat - 0x80, more, ?_, ?_, hTaken⟩
        · rw [hBits, UInt8.ofNat_toNat]
        · rwa [Span.Holds, hBits]
      next => cases hTaken

theorem tail_holds_iff {bits : Nat} : tail.Holds bits ↔ bits < 64 := by
  simp only [Span.Holds, tail, UInt8.reduceToNat]
  omega

/-- The range of the second of three bytes. -/
def secondOfThree (bits : Nat) : Span :=
  if bits = 0 then ⟨0xA0, 0xBF⟩ else if bits = 0xD then ⟨0x80, 0x9F⟩ else tail

/-- It leaves out overlong forms and surrogates. -/
theorem secondOfThree_holds_iff {point bits : Nat} : (secondOfThree point).Holds bits ↔
    bits < 64 ∧ 0x20 ≤ point * 64 + bits ∧
      (point * 64 + bits < 0x360 ∨ 0x380 ≤ point * 64 + bits) := by
  rw [secondOfThree]
  split_ifs
  all_goals
    simp only [Span.Holds, tail, UInt8.reduceToNat]
    omega

theorem first_secondOfThree (point : Nat) : 0x80 ≤ (secondOfThree point).first.toNat := by
  rw [secondOfThree]
  split_ifs
  all_goals decide

/-- The range of the second of four bytes. -/
def secondOfFour (bits : Nat) : Span :=
  if bits = 0 then ⟨0x90, 0xBF⟩ else if bits = 4 then ⟨0x80, 0x8F⟩ else tail

/-- It leaves out overlong forms and what is no code point. -/
theorem secondOfFour_holds_iff {point bits : Nat} (hMost : point < 5) :
    (secondOfFour point).Holds bits ↔
      bits < 64 ∧ 0x10 ≤ point * 64 + bits ∧ point * 64 + bits < 0x110 := by
  rw [secondOfFour]
  split_ifs
  all_goals
    simp only [Span.Holds, tail, UInt8.reduceToNat]
    omega

theorem first_secondOfFour (point : Nat) : 0x80 ≤ (secondOfFour point).first.toNat := by
  rw [secondOfFour]
  split_ifs
  all_goals decide

/-! ### Lead bytes -/

theorem lead?_one {n : Nat} (hMost : n < 0x80) : lead? (UInt8.ofNat n) = some (n, []) := by
  have hByte : (UInt8.ofNat n).toNat = n :=
    UInt8.toNat_ofNat_of_lt' (Nat.lt_trans hMost (by decide))
  simp only [lead?, UInt8.lt_iff_toNat_lt, hByte]
  exact if_pos hMost

theorem lead?_two {bits : Nat} (hLeast : 2 ≤ bits) (hMost : bits < 0x20) :
    lead? (UInt8.ofNat (bits + 0xC0)) = some (bits, [tail]) := by
  interval_cases bits
  all_goals rfl

theorem lead?_three {bits : Nat} (hMost : bits < 0x10) :
    lead? (UInt8.ofNat (bits + 0xE0)) = some (bits, [secondOfThree bits, tail]) := by
  interval_cases bits
  all_goals rfl

theorem lead?_four {bits : Nat} (hMost : bits < 5) :
    lead? (UInt8.ofNat (bits + 0xF0)) = some (bits, [secondOfFour bits, tail, tail]) := by
  interval_cases bits
  all_goals rfl

/-- There are no other lead bytes. -/
theorem lead?_cases {b : UInt8} {point : Nat} {spans : List Span}
    (hLead : lead? b = some (point, spans)) :
    (b = UInt8.ofNat point ∧ point < 0x80 ∧ spans = []) ∨
      (b = UInt8.ofNat (point + 0xC0) ∧ 2 ≤ point ∧ point < 0x20 ∧ spans = [tail]) ∨
      (b = UInt8.ofNat (point + 0xE0) ∧ point < 0x10 ∧ spans = [secondOfThree point, tail]) ∨
      (b = UInt8.ofNat (point + 0xF0) ∧ point < 5 ∧ spans = [secondOfFour point, tail, tail]) := by
  obtain ⟨n, hByte, rfl⟩ : ∃ n, n < 256 ∧ b = UInt8.ofNat n :=
    ⟨b.toNat, b.toNat_lt, UInt8.ofNat_toNat.symm⟩
  rcases Nat.lt_or_ge n 0x80 with hOne | hHigh
  · rw [lead?_one hOne] at hLead
    cases hLead
    exact .inl ⟨rfl, hOne, rfl⟩
  rcases Nat.lt_or_ge n 0xE0 with hTwo | hMore
  · rcases Nat.lt_or_ge n 0xC2 with hNone | hLeast
    · interval_cases n
      all_goals cases hLead
    · obtain ⟨bits, rfl⟩ := Nat.exists_eq_add_of_le' (Nat.le_trans (by decide : 0xC0 ≤ 0xC2) hLeast)
      rw [lead?_two (by omega) (by omega)] at hLead
      cases hLead
      exact .inr (.inl ⟨rfl, by omega, by omega, rfl⟩)
  rcases Nat.lt_or_ge n 0xF0 with hThree | hLarge
  · obtain ⟨bits, rfl⟩ := Nat.exists_eq_add_of_le' hMore
    rw [lead?_three (by omega)] at hLead
    cases hLead
    exact .inr (.inr (.inl ⟨rfl, by omega, rfl⟩))
  obtain ⟨bits, rfl⟩ := Nat.exists_eq_add_of_le' hLarge
  rcases Nat.lt_or_ge bits 5 with hFour | hNone
  · rw [lead?_four hFour] at hLead
    cases hLead
    exact .inr (.inr (.inr ⟨rfl, hFour, rfl⟩))
  · have hMost : bits < 16 := by omega
    interval_cases bits
    all_goals cases hLead

/-! ### One character -/

/-- The bytes of a character are a lead byte and what it asks for. -/
theorem takeTail_utf8EncodeChar (c : Char) : ∃ b bytes point spans,
    String.utf8EncodeChar c = b :: bytes ∧ lead? b = some (point, spans) ∧
      ∀ rest, takeTail point spans (bytes ++ rest) = (some c.toNat, rest) := by
  have hRange : c.toNat < 0xD800 ∨ 0xDFFF < c.toNat ∧ c.toNat < 0x110000 := c.valid
  have hValue : c.val.toNat = c.toNat := rfl
  simp only [String.utf8EncodeChar, hValue]
  split_ifs with hOne hTwo hThree
  · exact ⟨_, _, _, _, rfl, lead?_one (by omega), fun _ => rfl⟩
  · refine ⟨_, _, _, _, rfl, lead?_two (by omega) (by omega), fun rest => ?_⟩
    simp only [List.cons_append, List.nil_append]
    rw [takeTail_ofNat (tail_holds_iff.mpr (by omega)), takeTail]
    exact congrArg (some · , rest) (by omega)
  · refine ⟨_, _, _, _, rfl, lead?_three (by omega), fun rest => ?_⟩
    simp only [List.cons_append, List.nil_append]
    rw [takeTail_ofNat (secondOfThree_holds_iff.mpr (by omega)),
      takeTail_ofNat (tail_holds_iff.mpr (by omega)), takeTail]
    exact congrArg (some · , rest) (by omega)
  · refine ⟨_, _, _, _, rfl, lead?_four (by omega), fun rest => ?_⟩
    simp only [List.cons_append, List.nil_append]
    rw [takeTail_ofNat ((secondOfFour_holds_iff (by omega)).mpr (by omega)),
      takeTail_ofNat (tail_holds_iff.mpr (by omega)),
      takeTail_ofNat (tail_holds_iff.mpr (by omega)), takeTail]
    exact congrArg (some · , rest) (by omega)

theorem toNat_ofNat {n : Nat} (hValid : n < 0xD800 ∨ 0xDFFF < n ∧ n < 0x110000) :
    (Char.ofNat n).val.toNat = n := by
  rw [Char.ofNat, dif_pos hValid]
  rfl

/-- The two bytes of a character, by the bits in them. -/
theorem utf8EncodeChar_two {point bits : Nat} (hLeast : 2 ≤ point) (hMost : point < 0x20)
    (hBits : tail.Holds bits) : String.utf8EncodeChar (Char.ofNat (point * 64 + bits)) =
      [UInt8.ofNat (point + 0xC0), UInt8.ofNat (bits + 0x80)] := by
  rw [tail_holds_iff] at hBits
  rw [String.utf8EncodeChar, toNat_ofNat (by omega), if_neg (by omega), if_pos (by omega)]
  have hFirst : (point * 64 + bits) / 64 % 32 = point := by omega
  have hSecond : (point * 64 + bits) % 64 = bits := by omega
  rw [hFirst, hSecond]

/-- The three bytes of a character. -/
theorem utf8EncodeChar_three {point high low : Nat} (hMost : point < 0x10)
    (hHigh : (secondOfThree point).Holds high) (hLow : tail.Holds low) :
    String.utf8EncodeChar (Char.ofNat ((point * 64 + high) * 64 + low)) =
      [UInt8.ofNat (point + 0xE0), UInt8.ofNat (high + 0x80), UInt8.ofNat (low + 0x80)] := by
  rw [secondOfThree_holds_iff] at hHigh
  rw [tail_holds_iff] at hLow
  rw [String.utf8EncodeChar, toNat_ofNat (by omega), if_neg (by omega), if_neg (by omega),
    if_pos (by omega)]
  have hFirst : ((point * 64 + high) * 64 + low) / 4096 % 16 = point := by omega
  have hSecond : ((point * 64 + high) * 64 + low) / 64 % 64 = high := by omega
  have hThird : ((point * 64 + high) * 64 + low) % 64 = low := by omega
  rw [hFirst, hSecond, hThird]

/-- The four bytes of a character. -/
theorem utf8EncodeChar_four {point high middle low : Nat} (hMost : point < 5)
    (hHigh : (secondOfFour point).Holds high) (hMiddle : tail.Holds middle)
    (hLow : tail.Holds low) :
    String.utf8EncodeChar (Char.ofNat (((point * 64 + high) * 64 + middle) * 64 + low)) =
      [UInt8.ofNat (point + 0xF0), UInt8.ofNat (high + 0x80), UInt8.ofNat (middle + 0x80),
        UInt8.ofNat (low + 0x80)] := by
  rw [secondOfFour_holds_iff hMost] at hHigh
  rw [tail_holds_iff] at hMiddle hLow
  rw [String.utf8EncodeChar, toNat_ofNat (by omega), if_neg (by omega), if_neg (by omega),
    if_neg (by omega)]
  have hFirst : (((point * 64 + high) * 64 + middle) * 64 + low) / 262144 % 8 = point := by omega
  have hSecond : (((point * 64 + high) * 64 + middle) * 64 + low) / 4096 % 64 = high := by omega
  have hThird : (((point * 64 + high) * 64 + middle) * 64 + low) / 64 % 64 = middle := by omega
  have hFourth : (((point * 64 + high) * 64 + middle) * 64 + low) % 64 = low := by omega
  rw [hFirst, hSecond, hThird, hFourth]

/-- A lead byte with what it asked for behind it is the form of a character. -/
theorem utf8EncodeChar_of_takeTail {b : UInt8} {point value : Nat} {spans : List Span}
    {bytes rest : List UInt8} (hLead : lead? b = some (point, spans))
    (hTaken : takeTail point spans bytes = (some value, rest)) :
    b :: bytes = String.utf8EncodeChar (Char.ofNat value) ++ rest := by
  rcases lead?_cases hLead with ⟨rfl, hMost, rfl⟩ | ⟨rfl, hLeast, hMost, rfl⟩ | ⟨rfl, hMost, rfl⟩ |
    ⟨rfl, hMost, rfl⟩
  · cases hTaken
    rw [String.utf8EncodeChar, toNat_ofNat (by omega), if_pos (by omega)]
    rfl
  · obtain ⟨bits, bytes, rfl, hBits, hTaken⟩ := takeTail_cons_some (by decide) hTaken
    cases hTaken
    rw [utf8EncodeChar_two hLeast hMost hBits]
    rfl
  · obtain ⟨high, bytes, rfl, hHigh, hTaken⟩ :=
      takeTail_cons_some (first_secondOfThree point) hTaken
    obtain ⟨low, bytes, rfl, hLow, hTaken⟩ := takeTail_cons_some (by decide) hTaken
    cases hTaken
    rw [utf8EncodeChar_three hMost hHigh hLow]
    rfl
  · obtain ⟨high, bytes, rfl, hHigh, hTaken⟩ :=
      takeTail_cons_some (first_secondOfFour point) hTaken
    obtain ⟨middle, bytes, rfl, hMiddle, hTaken⟩ := takeTail_cons_some (by decide) hTaken
    obtain ⟨low, bytes, rfl, hLow, hTaken⟩ := takeTail_cons_some (by decide) hTaken
    cases hTaken
    rw [utf8EncodeChar_four hMost hHigh hMiddle hLow]
    rfl

/-- Only the character NUL has a zero in it. -/
theorem eq_nul_of_mem_utf8EncodeChar {c : Char} (hZero : 0 ∈ String.utf8EncodeChar c) :
    c = '\x00' := by
  rw [← Char.toNat_inj]
  change c.val.toNat = 0
  simp only [String.utf8EncodeChar] at hZero
  split_ifs at hZero
  all_goals
    simp only [List.mem_cons, List.not_mem_nil, or_false, ← UInt8.toNat_inj, UInt8.toNat_ofNat',
      UInt8.toNat_zero] at hZero
    omega

/-! ### Whole texts -/

theorem encode_cons (c : Char) (text : List Char) :
    encode (c :: text) = String.utf8EncodeChar c ++ encode text := List.flatMap_cons

/-- The bytes of a character are read as that character, whatever follows. -/
theorem decode_utf8EncodeChar_append (c : Char) (rest : List UInt8) :
    decode (String.utf8EncodeChar c ++ rest) = c :: decode rest := by
  obtain ⟨b, bytes, point, spans, hBytes, hLead, hTaken⟩ := takeTail_utf8EncodeChar c
  rw [hBytes, List.cons_append, decode]
  simp only [hLead, hTaken, Option.map_some, Option.getD_some, Char.ofNat_toNat]

/-- The bytes of a text are read as that text, whatever follows. -/
theorem decode_encode_append (text : List Char) (rest : List UInt8) :
    decode (encode text ++ rest) = text ++ decode rest := by
  induction text with
  | nil => rfl
  | cons c text ih =>
      rw [encode_cons, List.append_assoc, decode_utf8EncodeChar_append, ih, List.cons_append]

theorem decode_encode (text : List Char) : decode (encode text) = text := by
  have hAlone := decode_encode_append text []
  rwa [decode.eq_1, List.append_nil, List.append_nil] at hAlone

theorem zero_not_mem_encode {text : List Char} (hNul : '\x00' ∉ text) : 0 ∉ encode text := by
  intro hZero
  obtain ⟨c, hMember, hByte⟩ := List.mem_flatMap.mp hZero
  exact hNul (eq_nul_of_mem_utf8EncodeChar hByte ▸ hMember)

/-- Bytes that were all read are those of the text that was read. -/
theorem encode_decode {bytes : List UInt8} (hAll : replacement ∉ decode bytes) :
    encode (decode bytes) = bytes := by
  induction bytes using decode.induct with
  | case1 =>
      rw [decode]
      rfl
  | case2 b bytes hLead ih =>
      rw [decode, hLead] at hAll
      exact absurd List.mem_cons_self hAll
  | case3 b bytes point spans hLead ih =>
      rw [decode] at hAll ⊢
      simp only [hLead] at hAll ⊢
      rcases hTaken : takeTail point spans bytes with ⟨_ | value, rest⟩
      · rw [hTaken] at hAll
        exact absurd List.mem_cons_self hAll
      · rw [hTaken] at hAll ih
        have hRest := ih fun hMember => hAll (List.mem_cons_of_mem _ hMember)
        rw [utf8EncodeChar_of_takeTail hLead hTaken, Option.map_some, Option.getD_some,
          encode_cons, hRest]

end Shapefile.Text.Utf8
