/-!
Decimal numerals for natural numbers and integers, and positional notation for a whole number of
tenths, hundredths and so on. Reading a numeral gives back the number it was written for.
-/

namespace Shapefile.Decimal

/-- The shortest numeral of `n`. -/
def natural (n : Nat) : List Char := Nat.toDigits 10 n

/-- The numeral of an integer, with a minus sign if it is negative. -/
def integer (n : Int) : List Char :=
  if n < 0 then '-' :: natural n.natAbs else natural n.natAbs

/-- The numeral of `n` with zeros in front up to `width` digits. -/
def padded (width n : Nat) : List Char :=
  List.replicate (width - (natural n).length) '0' ++ natural n

/-- The value of a non-empty run of ASCII digits. -/
def readNatural? (text : List Char) : Option Nat :=
  if text ≠ [] ∧ text.all Char.isDigit then some (Nat.ofDigitChars 10 text 0) else none

/-- An optional sign, as whether it is a minus, and the text after it. -/
def splitSign : List Char → Bool × List Char
  | '-' :: rest => (true, rest)
  | '+' :: rest => (false, rest)
  | text => (false, text)

/-- The value of an optional sign followed by ASCII digits. -/
def readInteger? (text : List Char) : Option Int :=
  let (negative, digits) := splitSign text
  (readNatural? digits).map fun n => if negative then -(n : Int) else n

/-- An integer in the range of 32-bit words. -/
def readInt32? (text : List Char) : Option Int32 :=
  (readInteger? text).bind fun n =>
    if Int32.minValue.toInt ≤ n ∧ n ≤ Int32.maxValue.toInt then some (Int32.ofInt n) else none

/-- An integer in the range of 64-bit words. -/
def readInt64? (text : List Char) : Option Int64 :=
  (readInteger? text).bind fun n =>
    if Int64.minValue.toInt ≤ n ∧ n ≤ Int64.maxValue.toInt then some (Int64.ofInt n) else none

/-- The number `n / 10 ^ places` with exactly `places` digits after the point, and without a point
if there are none. -/
def withPlaces (n places : Nat) : List Char :=
  let digits := padded (places + 1) n
  let whole := digits.take (digits.length - places)
  if places = 0 then whole else whole ++ '.' :: digits.drop (digits.length - places)

/-- The number `n * 10 ^ exponent`, never with an exponent in the text. -/
def positional (n : Nat) (exponent : Int) : List Char :=
  if exponent < 0 then withPlaces n exponent.natAbs
  else natural n ++ List.replicate exponent.natAbs '0'

theorem natural_ne_nil (n : Nat) : natural n ≠ [] := Nat.toDigits_ne_nil

theorem isDigit_of_mem_natural {n : Nat} {c : Char} (h : c ∈ natural n) : c.isDigit :=
  Nat.isDigit_of_mem_toDigits (by decide) (by decide) h

theorem readNatural?_natural (n : Nat) : readNatural? (natural n) = some n := by
  have all : (natural n).all Char.isDigit :=
    List.all_eq_true.mpr fun _ h => isDigit_of_mem_natural h
  rw [readNatural?, if_pos ⟨natural_ne_nil n, all⟩, natural,
    Nat.ofDigitChars_toDigits (by decide) (by decide)]

end Shapefile.Decimal
