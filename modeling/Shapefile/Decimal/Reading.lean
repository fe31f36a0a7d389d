import Shapefile.Decimal.Numeral

/-!
Doubles from decimal text: an optional sign, then a name of a non-finite value, or digits with at
most one point among them and an optional exponent. The nearest double is taken; what is too large
becomes an infinity and what is too small a zero. Blanks and separators are refused.
-/

namespace Shapefile.Decimal

/-- The double nearest to `n * 10 ^ exponent`. Values beyond every double are decided from the
magnitude alone, so that a long exponent costs nothing. -/
def nearestFloat (n : Nat) (exponent : Int) : Float :=
  let magnitude : Int := (natural n).length + exponent
  if n = 0 ∨ magnitude < -330 then 0
  else if 310 < magnitude then 1 / 0
  else Float.ofScientific n (exponent < 0) exponent.natAbs

/-- The exponent at the end of a numeral: nothing, or `e` and an integer. -/
def readExponent? : List Char → Option Int
  | [] => some 0
  | e :: rest => if e = 'e' ∨ e = 'E' then readInteger? rest else none

/-- Digits with at most one point, then an exponent. -/
def readUnsignedFloat? (text : List Char) : Option Float :=
  let whole := text.takeWhile Char.isDigit
  let afterWhole := text.dropWhile Char.isDigit
  let afterPoint := match afterWhole with
    | '.' :: rest => rest
    | rest => rest
  let hasPoint := afterPoint.length < afterWhole.length
  let places := if hasPoint then afterPoint.takeWhile Char.isDigit else []
  let tail := if hasPoint then afterPoint.dropWhile Char.isDigit else afterPoint
  if whole ++ places = [] then none
  else
    (readExponent? tail).map fun exponent =>
      nearestFloat (Nat.ofDigitChars 10 (whole ++ places) 0) (exponent - places.length)

/-- A double from its decimal text. -/
def readFloat? (text : List Char) : Option Float :=
  let (negative, magnitude) := splitSign text
  let name := String.ofList (magnitude.map Char.toLower)
  let value :=
    if name = "inf" ∨ name = "infinity" then some (1 / 0)
    else if name = "nan" then some (0 / 0)
    else readUnsignedFloat? magnitude
  value.map fun x => if negative then -x else x

end Shapefile.Decimal
