import Shapefile.Calendar.Date
import Shapefile.Proofs.Decimal.IntegerText

/-! The compact text of a date. For years of four digits it has eight of them,
and they are read back as the date; they are never all zeros. -/
namespace Shapefile

namespace Date

open Decimal

theorem daysInMonth_le (year : Int) (month : Nat) : daysInMonth year month ≤ 31 := by
  unfold daysInMonth
  split
  case h_12 => split <;> decide
  all_goals decide

/-- Only the twelve months have days. -/
theorem daysInMonth_eq_zero {year : Int} {month : Nat} (hNone : month = 0 ∨ 12 < month) :
    daysInMonth year month = 0 := by
  unfold daysInMonth
  split
  all_goals omega

theorem month_bounds (d : Date) : 1 ≤ d.month ∧ d.month ≤ 12 := by
  obtain ⟨_, _, hDay, hDays⟩ := d.isDate
  refine Decidable.byContradiction fun hOutside => ?_
  have hNone : daysInMonth d.year d.month = 0 := daysInMonth_eq_zero (by omega)
  omega

theorem day_le (d : Date) : d.day ≤ 31 := by
  obtain ⟨_, _, _, hDays⟩ := d.isDate
  exact Nat.le_trans hDays (daysInMonth_le d.year d.month)

theorem compact_eq {d : Date} (hFirst : 0 ≤ d.year) (hLast : d.year ≤ 9999) :
    d.compact = padded 4 d.year.toNat ++ padded 2 d.month ++ padded 2 d.day := by
  rw [compact, yearText, if_pos ⟨hFirst, hLast⟩]

/-- A day of a year of four digits takes eight characters. -/
theorem length_compact {d : Date} (hFirst : 0 ≤ d.year) (hLast : d.year ≤ 9999) :
    d.compact.length = 8 := by
  have hMonth := d.month_bounds
  have hDay := d.day_le
  rw [compact_eq hFirst hLast, List.length_append, List.length_append,
    length_padded (by decide) (by omega : d.year.toNat < 10 ^ 4),
    length_padded (by decide) (by omega : d.month < 10 ^ 2),
    length_padded (by decide) (by omega : d.day < 10 ^ 2)]

theorem isDigit_of_mem_compact {d : Date} (hFirst : 0 ≤ d.year) (hLast : d.year ≤ 9999) {c : Char}
    (hMem : c ∈ d.compact) : c.isDigit = true := by
  rw [compact_eq hFirst hLast, List.mem_append, List.mem_append] at hMem
  rcases hMem with (hYear | hMonth) | hDay
  · exact isDigit_of_mem_padded hYear
  · exact isDigit_of_mem_padded hMonth
  · exact isDigit_of_mem_padded hDay

/-- There is no month zero, so the text is not made of zeros alone. -/
theorem compact_not_zeros {d : Date} (hFirst : 0 ≤ d.year) (hLast : d.year ≤ 9999) :
    d.compact.all (· == '0') = false := by
  rw [Bool.eq_false_iff]
  intro hZeros
  have hMonth : padded 2 d.month = List.replicate (padded 2 d.month).length '0' := by
    refine List.eq_replicate_of_mem fun c hMem => ?_
    have hHere : c ∈ d.compact := by simp [compact_eq hFirst hLast, hMem]
    exact beq_iff_eq.mp (List.all_eq_true.mp hZeros c hHere)
  have hValue := ofDigitChars_padded 2 d.month
  rw [hMonth, Nat.ofDigitChars_replicate_zero, Nat.mul_zero] at hValue
  exact absurd d.month_bounds.1 (by omega)

theorem not_isBlank_of_isDigit {c : Char} (hDigit : c.isDigit = true) :
    Text.isBlank c = false := by
  obtain ⟨hFirst, hLast⟩ := Char.isDigit_iff_toNat.mp hDigit
  have hLow : 48 ≤ c.toNat := hFirst
  have hHigh : c.toNat ≤ 57 := hLast
  simp only [Text.isBlank, Bool.or_eq_false_iff, Bool.and_eq_false_iff, decide_eq_false_iff_not,
    beq_eq_false_iff_ne]
  omega

/-- There are no blanks in front of a digit. -/
theorem dropWhile_isBlank {digits : List Char} (hSome : digits ≠ [])
    (hDigits : ∀ c ∈ digits, c.isDigit = true) (rest : List Char) :
    (digits ++ rest).dropWhile Text.isBlank = digits ++ rest := by
  cases digits with
  | nil => exact absurd rfl hSome
  | cons c digits =>
      have hFirst := not_isBlank_of_isDigit (hDigits c List.mem_cons_self)
      rw [List.cons_append, List.dropWhile_cons_of_neg (by simp [hFirst])]

/-- A number filled up to the width it is read with, whatever stands behind it. -/
theorem readNumber?_padded {width n : Nat} (hWidth : 0 < width) (hSmall : n < 10 ^ width)
    (rest : List Char) : readNumber? width (padded width n ++ rest) = some (n, rest) := by
  have hDigits : ∀ c ∈ padded width n, c.isDigit = true := fun _ => isDigit_of_mem_padded
  have hTaken : ((padded width n ++ rest).takeWhile Char.isDigit).take width = padded width n := by
    rw [List.takeWhile_append_of_pos hDigits, List.take_left' (length_padded hWidth hSmall)]
  rw [readNumber?]
  simp only [dropWhile_isBlank (padded_ne_nil width n) hDigits, hTaken,
    readNatural?_padded, Option.map_some, List.drop_left]

/-- A year of four digits has no sign. -/
theorem readYear?_padded {n : Nat} (hSmall : n < 10 ^ 4) (rest : List Char) :
    readYear? (padded 4 n ++ rest) = some ((n : Int), rest) := by
  have hDigits : ∀ c ∈ padded 4 n, c.isDigit = true := fun _ => isDigit_of_mem_padded
  -- The reader looks for a sign first, and the first of the digits is none.
  have hSigned {sign : Char} {behind : List Char} (hText : padded 4 n ++ rest = sign :: behind) :
      sign.isDigit = true := by
    obtain ⟨c, digits, hCons⟩ := List.exists_cons_of_ne_nil (padded_ne_nil 4 n)
    rw [hCons, List.cons_append, List.cons.injEq] at hText
    rw [← hText.1]
    exact hDigits c (hCons ▸ List.mem_cons_self)
  rw [readYear?, dropWhile_isBlank (padded_ne_nil 4 n) hDigits]
  split
  next hText => exact absurd (hSigned hText) (by decide)
  next hText => exact absurd (hSigned hText) (by decide)
  next => rw [readNumber?_padded (by decide) hSmall, Option.map_some]

/-- A date of a year of four digits is read back. -/
theorem ofCompact?_compact {d : Date} (hFirst : 0 ≤ d.year) (hLast : d.year ≤ 9999) :
    ofCompact? d.compact = some d := by
  have hMonth := d.month_bounds
  have hDay := d.day_le
  have hYear : (d.year.toNat : Int) = d.year := Int.toNat_of_nonneg hFirst
  have hDate : of? d.year d.month d.day = some d := by rw [of?, dif_pos d.isDate]
  have hLastNumber := readNumber?_padded (by decide) (by omega : d.day < 10 ^ 2) []
  rw [List.append_nil] at hLastNumber
  rw [compact_eq hFirst hLast, List.append_assoc, ofCompact?,
    readYear?_padded (by omega : d.year.toNat < 10 ^ 4)]
  simp [readNumber?_padded (by decide) (by omega : d.month < 10 ^ 2), hLastNumber, hYear, hDate]

end Date

end Shapefile
