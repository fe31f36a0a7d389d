import Shapefile.Proofs.Decimal.NumeralForm
import Shapefile.Proofs.Text.CharacterSizes
import Shapefile.Table.Cell

/-! The text in a cell. Numbers and dates are printable ASCII, which is its own
UTF-8, and blanks in front of it are trimmed, so what is read from a cell is
what was put into it. -/
namespace Shapefile

namespace Field

theorem ascii_append (text more : List Char) : ascii (text ++ more) = ascii text ++ ascii more :=
  List.map_append

theorem ascii_replicate (count : Nat) (c : Char) :
    ascii (List.replicate count c) = List.replicate count (UInt8.ofNat c.toNat) :=
  List.map_replicate

/-- ASCII is read as it was written. -/
theorem decode_ascii {text : List Char} (hAscii : ∀ c ∈ text, c.toNat < 0x80) :
    Text.Utf8.decode (ascii text) = text := by
  induction text with
  | nil => rw [ascii, List.map_nil, Text.Utf8.decode]
  | cons c text ih =>
      obtain ⟨hByte, hLow⟩ := Text.asciiByte (hAscii c List.mem_cons_self)
      rw [ascii, List.map_cons, Text.Utf8.decode_cons_ascii hLow, hByte, Char.ofNat_toNat]
      exact congrArg (c :: ·) (ih fun other hOther => hAscii other (List.mem_cons_of_mem c hOther))

/-- A character that can be seen. -/
def IsPrintable (c : Char) : Prop := 0x20 < c.toNat ∧ c.toNat < 0x7F

instance (c : Char) : Decidable (IsPrintable c) := inferInstanceAs (Decidable (_ ∧ _))

theorem isPrintable_of_isDigit {c : Char} (hDigit : c.isDigit) : IsPrintable c := by
  obtain ⟨hFirst, hLast⟩ := Char.isDigit_iff_toNat.mp hDigit
  have hLow : 48 ≤ c.toNat := hFirst
  have hHigh : c.toNat ≤ 57 := hLast
  exact ⟨by omega, by omega⟩

/-- The characters of a numeral can be seen, and none of them is a star. -/
theorem isPrintable_of_mem_numeral {text : List Char} (hText : Decimal.IsNumeral text) {c : Char}
    (hMem : c ∈ text) : IsPrintable c ∧ c ≠ '*' := by
  rcases hText.mem hMem with rfl | rfl | hDigit
  · decide
  · decide
  · refine ⟨isPrintable_of_isDigit hDigit, ?_⟩
    rintro rfl
    exact absurd hDigit (by decide)

theorem isPrintable_of_mem_fixed {places : Nat} {x : Float} {c : Char}
    (hMem : c ∈ Decimal.fixed places x) : IsPrintable c ∧ c ≠ '*' := by
  rcases Decimal.fixed_cases places x with ⟨_, hText⟩ | ⟨_, hName⟩
  · exact isPrintable_of_mem_numeral hText hMem
  · generalize Decimal.fixed places x = text at hMem hName
    cases hName with
    | notANumber | infinity =>
        simp only [List.mem_cons, List.not_mem_nil, or_false] at hMem
        rcases hMem with rfl | rfl | rfl
        all_goals decide
    | minusInfinity =>
        simp only [List.mem_cons, List.not_mem_nil, or_false] at hMem
        rcases hMem with rfl | rfl | rfl | rfl
        all_goals decide

theorem not_isPadding_of_isPrintable {c : Char} (hPrintable : IsPrintable c) :
    isPadding c = false := by
  obtain ⟨hLow, hHigh⟩ := hPrintable
  have hZero : (c == '\x00') = false := by
    rw [beq_eq_false_iff_ne]
    rintro rfl
    exact absurd hLow (by decide)
  simp only [isPadding, hZero, Text.isBlank, Bool.false_or, Bool.or_eq_false_iff,
    Bool.and_eq_false_iff, decide_eq_false_iff_not, beq_eq_false_iff_ne]
  omega

theorem dropWhile_isPadding {text : List Char} (hPrintable : ∀ c ∈ text, IsPrintable c) :
    text.dropWhile isPadding = text := by
  cases text with
  | nil => rfl
  | cons c text =>
      have hKept := not_isPadding_of_isPrintable (hPrintable c List.mem_cons_self)
      rw [List.dropWhile_cons_of_neg (by simp [hKept])]

/-- Trimming takes the blanks in front of printable text, and nothing else. -/
theorem trim_blanks {text : List Char} (hPrintable : ∀ c ∈ text, IsPrintable c) (blanks : Nat) :
    trim (List.replicate blanks ' ' ++ text) = text := by
  have hFront : (List.replicate blanks ' ' ++ text).dropWhile isPadding = text := by
    rw [List.dropWhile_append_of_pos, dropWhile_isPadding hPrintable]
    intro c hBlank
    rw [List.eq_of_mem_replicate hBlank]
    rfl
  have hBehind : text.reverse.dropWhile isPadding = text.reverse :=
    dropWhile_isPadding fun c hMem => hPrintable c (List.mem_reverse.mp hMem)
  rw [trim, Text.trimBy, hFront, hBehind, List.reverse_reverse]

/-- The text that is read from a cell. -/
def cellText (bytes : List UInt8) : List Char := trim (Text.Utf8.decode bytes)

theorem cellText_blanks {text : List Char} (hPrintable : ∀ c ∈ text, IsPrintable c)
    (blanks : Nat) : cellText (List.replicate blanks 0x20 ++ ascii text) = text := by
  have hBytes : List.replicate blanks 0x20 ++ ascii text =
      ascii (List.replicate blanks ' ' ++ text) := by
    rw [ascii_append, ascii_replicate]
    rfl
  have hAscii : ∀ c ∈ List.replicate blanks ' ' ++ text, c.toNat < 0x80 := by
    intro c hMem
    rcases List.mem_append.mp hMem with hBlank | hText
    · rw [List.eq_of_mem_replicate hBlank]
      decide
    · exact Nat.lt_succ_of_lt (hPrintable c hText).2
  rw [cellText, hBytes, decode_ascii hAscii, trim_blanks hPrintable]

theorem cellText_ascii {text : List Char} (hPrintable : ∀ c ∈ text, IsPrintable c) :
    cellText (ascii text) = text := cellText_blanks hPrintable 0

/-- A cell filled with one character is read as that. -/
theorem cellText_replicate {c : Char} (hPrintable : IsPrintable c) (count : Nat) :
    cellText (List.replicate count (UInt8.ofNat c.toNat)) = List.replicate count c := by
  rw [← ascii_replicate]
  refine cellText_ascii fun other hMem => ?_
  rw [List.eq_of_mem_replicate hMem]
  exact hPrintable

/-- A number that fits its field is read as it was written. -/
theorem cellText_fitNumber {f : Field} {text : List Char} (hFits : text.length ≤ f.length)
    (hPrintable : ∀ c ∈ text, IsPrintable c) : cellText (f.fitNumber text) = text := by
  rw [fitNumber, if_pos hFits, cellText_blanks hPrintable]

end Field

end Shapefile
