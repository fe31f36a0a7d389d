import Mathlib.Algebra.GroupWithZero.Nat
import Shapefile.Decimal.Numeral

/-! The numerals of integers are read back, and their length is the number of
digits of the magnitude with a place for the minus sign. Zeros in front, up to
a width, leave the value as it is. -/
namespace Shapefile.Decimal

/-- A run of digits is read as their value. -/
theorem readNatural?_of_isDigit {text : List Char} (hSome : text ≠ [])
    (hDigits : ∀ c ∈ text, c.isDigit = true) :
    readNatural? text = some (Nat.ofDigitChars 10 text 0) := by
  rw [readNatural?, if_pos ⟨hSome, List.all_eq_true.mpr hDigits⟩]

/-- Without a sign in front there is nothing to split off. -/
theorem splitSign_of_isDigit {text : List Char} (hDigits : ∀ c ∈ text, c.isDigit = true) :
    splitSign text = (false, text) := by
  unfold splitSign
  split
  next rest => exact absurd (hDigits '-' List.mem_cons_self) (by decide)
  next rest => exact absurd (hDigits '+' List.mem_cons_self) (by decide)
  next => rfl

theorem readInteger?_integer (n : Int) : readInteger? (integer n) = some n := by
  have hDigits : ∀ c ∈ natural n.natAbs, c.isDigit = true := fun _ => isDigit_of_mem_natural
  rw [integer]
  split
  next hNegative =>
    have hValue : -(n.natAbs : Int) = n := by omega
    rw [readInteger?, splitSign]
    simp only [readNatural?_natural]
    exact congrArg some hValue
  next hPositive =>
    have hValue : (n.natAbs : Int) = n := by omega
    rw [readInteger?, splitSign_of_isDigit hDigits]
    simp only [readNatural?_natural]
    exact congrArg some hValue

/-- The numerals with at most so many characters are those of an interval, one
digit shorter below zero. -/
theorem length_integer_le_iff {n : Int} {width : Nat} :
    (integer n).length ≤ width + 1 ↔ -(10 ^ width : Nat) < n ∧ n < (10 ^ (width + 1) : Nat) := by
  have hPower : 0 < 10 ^ width := Nat.pow_pos (by decide)
  have hDigits {m count : Nat} (hCount : 0 < count) :
      (natural m).length ≤ count ↔ m < 10 ^ count :=
    Nat.length_toDigits_le_iff (by decide) hCount
  rw [integer]
  split
  next hNegative =>
    have hBelow : n < (10 ^ (width + 1) : Nat) := by omega
    rw [List.length_cons, Nat.add_le_add_iff_right]
    -- The sign takes the place of a digit, so one character alone holds nothing below zero.
    cases width with
    | zero =>
        have hSome := List.length_pos_iff.mpr (natural_ne_nil n.natAbs)
        omega
    | succ width =>
        rw [hDigits (Nat.succ_pos width)]
        omega
  next hPositive =>
    rw [hDigits (Nat.succ_pos width)]
    omega

theorem readInt32?_integer {n : Int} (hLow : Int32.minValue.toInt ≤ n)
    (hHigh : n ≤ Int32.maxValue.toInt) : readInt32? (integer n) = some (Int32.ofInt n) := by
  rw [readInt32?, readInteger?_integer, Option.bind_some, if_pos ⟨hLow, hHigh⟩]

theorem readInt64?_integer {n : Int} (hLow : Int64.minValue.toInt ≤ n)
    (hHigh : n ≤ Int64.maxValue.toInt) : readInt64? (integer n) = some (Int64.ofInt n) := by
  rw [readInt64?, readInteger?_integer, Option.bind_some, if_pos ⟨hLow, hHigh⟩]

/-- Digits alone are read as a word of 32 bits, if they are the numeral of one. -/
theorem readInt32?_of_isDigit {text : List Char} (hSome : text ≠ [])
    (hDigits : ∀ c ∈ text, c.isDigit = true) :
    readInt32? text =
      if Nat.ofDigitChars 10 text 0 ≤ 2147483647 then
        some (Int32.ofNat (Nat.ofDigitChars 10 text 0))
      else none := by
  have hNatural := readNatural?_of_isDigit hSome hDigits
  generalize Nat.ofDigitChars 10 text 0 = value at *
  have hRange : Int32.minValue.toInt ≤ (value : Int) ∧ (value : Int) ≤ Int32.maxValue.toInt ↔
      value ≤ 2147483647 := by
    rw [Int32.toInt_minValue, Int32.toInt_maxValue]
    omega
  rw [readInt32?, readInteger?, splitSign_of_isDigit hDigits]
  simp only [hNatural]
  by_cases hSmall : value ≤ 2147483647
  · rw [if_pos hSmall]
    exact (if_pos (hRange.mpr hSmall)).trans (congrArg some Int32.ofInt_eq_ofNat)
  · rw [if_neg hSmall]
    exact if_neg fun hBoth => hSmall (hRange.mp hBoth)

/-- A number with few enough digits is filled up to the width. -/
theorem length_padded {width n : Nat} (hWidth : 0 < width) (hSmall : n < 10 ^ width) :
    (padded width n).length = width := by
  have hDigits : (natural n).length ≤ width :=
    (Nat.length_toDigits_le_iff (by decide) hWidth).mpr hSmall
  rw [padded, List.length_append, List.length_replicate]
  omega

theorem isDigit_of_mem_padded {width n : Nat} {c : Char} (hMem : c ∈ padded width n) :
    c.isDigit = true := by
  rcases List.mem_append.mp hMem with hZero | hDigit
  · rw [List.eq_of_mem_replicate hZero]
    rfl
  · exact isDigit_of_mem_natural hDigit

/-- The zeros in front do not change the value. -/
theorem ofDigitChars_padded (width n : Nat) : Nat.ofDigitChars 10 (padded width n) 0 = n := by
  rw [padded, Nat.ofDigitChars_append, Nat.ofDigitChars_replicate_zero, Nat.mul_zero, natural,
    Nat.ofDigitChars_ten_toDigits]

theorem padded_ne_nil (width n : Nat) : padded width n ≠ [] := by
  simp [padded, natural_ne_nil]

theorem readNatural?_padded (width n : Nat) : readNatural? (padded width n) = some n := by
  rw [readNatural?_of_isDigit (padded_ne_nil width n) fun _ => isDigit_of_mem_padded,
    ofDigitChars_padded]

end Shapefile.Decimal
