import Mathlib.Algebra.GroupWithZero.Nat
import Mathlib.Data.List.TakeWhile
import Shapefile.Text.Blank
import Shapefile.Text.Utf8

/-! The bytes that characters take in UTF-8. Neither trimming nor lower case
makes a text longer. -/
namespace Shapefile.Text

/-- The size of a text in UTF-8. -/
def utf8Length (text : List Char) : Nat := (text.map Char.utf8Size).sum

theorem utf8Length_cons (c : Char) (text : List Char) :
    utf8Length (c :: text) = c.utf8Size + utf8Length text := by
  rw [utf8Length, List.map_cons, List.sum_cons, utf8Length]

theorem utf8Length_append (text more : List Char) :
    utf8Length (text ++ more) = utf8Length text + utf8Length more := by
  rw [utf8Length, List.map_append, List.sum_append, utf8Length, utf8Length]

theorem eq_nil_of_utf8Length_eq_zero {text : List Char} (hNone : utf8Length text = 0) :
    text = [] := by
  cases text with
  | nil => rfl
  | cons c text =>
      have hPositive := c.utf8Size_pos
      rw [utf8Length_cons] at hNone
      omega

/-- The size of a string is that of its characters. -/
theorem utf8ByteSize_ofList (text : List Char) :
    (String.ofList text).utf8ByteSize = utf8Length text := by
  rw [← String.size_toByteArray, String.toByteArray_ofList, List.utf8Encode,
    List.size_toByteArray, List.length_flatMap, utf8Length]
  simp only [String.length_utf8EncodeChar]

/-- The byte of an ASCII character. -/
theorem asciiByte {c : Char} (hAscii : c.toNat < 0x80) :
    (UInt8.ofNat c.toNat).toNat = c.toNat ∧ UInt8.ofNat c.toNat < 0x80 := by
  have hSame : (UInt8.ofNat c.toNat).toNat = c.toNat := by
    rw [UInt8.toNat_ofNat']
    omega
  refine ⟨hSame, ?_⟩
  rw [UInt8.lt_iff_toNat_lt, hSame]
  exact hAscii

theorem utf8Size_eq_one_iff {c : Char} : c.utf8Size = 1 ↔ c.toNat < 0x80 := by
  rw [Char.utf8Size_eq_one_iff, UInt32.le_iff_toNat_le]
  exact Nat.lt_succ_iff.symm

theorem two_le_utf8Size {c : Char} (hHigh : 0x80 ≤ c.toNat) : 2 ≤ c.utf8Size := by
  have hPositive := c.utf8Size_pos
  have hMore : c.utf8Size ≠ 1 := fun hOne => Nat.not_lt_of_le hHigh (utf8Size_eq_one_iff.mp hOne)
  omega

/-! ### Trimming -/

/-- Trimming takes characters of the class from both ends, and nothing else. -/
theorem trimBy_split (drop : Char → Bool) (text : List Char) :
    ∃ front back, text = front ++ (trimBy drop text ++ back) ∧ (∀ c ∈ front, drop c) ∧
      ∀ c ∈ back, drop c := by
  let rest := (text.dropWhile drop).reverse
  refine ⟨text.takeWhile drop, (rest.takeWhile drop).reverse, ?_, ?_, ?_⟩
  · have hBack : trimBy drop text ++ (rest.takeWhile drop).reverse = text.dropWhile drop := by
      rw [trimBy, ← List.reverse_append, List.takeWhile_append_dropWhile, List.reverse_reverse]
    rw [hBack, List.takeWhile_append_dropWhile]
  · intro c hFront
    exact List.mem_takeWhile_imp hFront
  · intro c hBack
    exact List.mem_takeWhile_imp (List.mem_reverse.mp hBack)

theorem utf8Length_trim_le (text : List Char) : utf8Length (trim text) ≤ utf8Length text := by
  obtain ⟨front, back, hText, _, _⟩ := trimBy_split isBlank text
  have hLength := congrArg utf8Length hText
  rw [utf8Length_append, utf8Length_append] at hLength
  rw [hLength, trim]
  omega

/-- Only a text without blanks around it keeps its size. -/
theorem trim_eq_of_utf8Length_le {text : List Char}
    (hSize : utf8Length text ≤ utf8Length (trim text)) : trim text = text := by
  obtain ⟨front, back, hText, _, _⟩ := trimBy_split isBlank text
  have hLength := congrArg utf8Length hText
  rw [utf8Length_append, utf8Length_append, ← trim] at hLength
  have hFront : front = [] := eq_nil_of_utf8Length_eq_zero (by omega)
  have hBack : back = [] := eq_nil_of_utf8Length_eq_zero (by omega)
  rw [hFront, hBack, List.append_nil, List.nil_append] at hText
  exact hText.symm

/-- What is no blank stays. -/
theorem mem_trim_of_mem {text : List Char} {c : Char} (hMember : c ∈ text)
    (hSeen : isBlank c = false) : c ∈ trim text := by
  obtain ⟨front, back, hText, hFront, hBack⟩ := trimBy_split isBlank text
  rw [hText] at hMember
  rcases List.mem_append.mp hMember with hBefore | hRest
  · exact absurd (hFront c hBefore) (by simp [hSeen])
  · rcases List.mem_append.mp hRest with hKept | hBehind
    · exact hKept
    · exact absurd (hBack c hBehind) (by simp [hSeen])

/-! ### Lower case -/

/-- Only ASCII letters have another one in lower case, which is ASCII too. -/
theorem toLower_cases (c : Char) : c.toLower = c ∨ c.toNat < 0x80 ∧ c.toLower.toNat < 0x80 := by
  unfold Char.toLower
  split
  next hUpper =>
    have hCode : c.toNat ≤ 90 := UInt32.le_iff_toNat_le.mp hUpper.2
    have hLower : (c.val + ('a'.val - 'A'.val)).toNat = (c.toNat + 32) % 2 ^ 32 :=
      UInt32.toNat_add _ _
    refine .inr ⟨by omega, ?_⟩
    change (c.val + ('a'.val - 'A'.val)).toNat < 0x80
    omega
  next => exact .inl rfl

/-- A character outside ASCII that is in a text in lower case is in the text. -/
theorem mem_of_mem_map_toLower {text : List Char} {c : Char} (hHigh : 0x80 ≤ c.toNat)
    (hLower : c ∈ text.map Char.toLower) : c ∈ text := by
  obtain ⟨other, hOther, rfl⟩ := List.mem_map.mp hLower
  rcases toLower_cases other with hSame | ⟨_, hAscii⟩
  · rwa [hSame]
  · exact absurd hAscii (Nat.not_lt_of_le hHigh)

theorem utf8Size_toLower (c : Char) : c.toLower.utf8Size = c.utf8Size := by
  rcases toLower_cases c with hSame | ⟨hAscii, hLower⟩
  · rw [hSame]
  · rw [utf8Size_eq_one_iff.mpr hAscii, utf8Size_eq_one_iff.mpr hLower]

theorem utf8Length_map_toLower (text : List Char) :
    utf8Length (text.map Char.toLower) = utf8Length text := by
  rw [utf8Length, List.map_map, utf8Length]
  exact congrArg List.sum (List.map_congr_left fun c _ => utf8Size_toLower c)

/-! ### UTF-8 -/

namespace Utf8

theorem length_encode (text : List Char) : (encode text).length = utf8Length text := by
  rw [encode, List.length_flatMap, utf8Length]
  simp only [String.length_utf8EncodeChar]

/-- An ASCII character is one byte. -/
theorem utf8EncodeChar_ascii {c : Char} (hAscii : c.toNat < 0x80) :
    String.utf8EncodeChar c = [UInt8.ofNat c.toNat] := if_pos (Nat.le_of_lt_succ hAscii)

/-- An ASCII byte stands for the character of its number. -/
theorem decode_cons_ascii {b : UInt8} (hAscii : b < 0x80) (bytes : List UInt8) :
    decode (b :: bytes) = Char.ofNat b.toNat :: decode bytes := by
  have hLead : lead? b = some (b.toNat, []) := by
    rw [lead?, if_pos hAscii]
  rw [decode]
  simp only [hLead, takeTail, Option.map_some, Option.getD_some]

end Utf8

end Shapefile.Text
