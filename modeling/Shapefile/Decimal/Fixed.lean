import Shapefile.Decimal.Numeral

/-!
Doubles with a fixed number of decimal places: the exact value rounded to that many places, and an
exact tie to the even neighbour. The sign stays even if nothing else does.
-/

namespace Shapefile.Decimal

open Float.Model (UnpackedFloat)

/-- The whole number nearest to `numerator / denominator`; a tie goes to the even one. -/
def roundHalfEven (numerator denominator : Nat) : Nat :=
  let whole := numerator / denominator
  let twice := 2 * (numerator % denominator)
  if twice < denominator ∨ (twice = denominator ∧ whole % 2 = 0) then whole else whole + 1

/-- The text of a double with `places` decimal places. -/
def fixed (places : Nat) (x : Float) : List Char :=
  match x.toModel.unpack with
  | .notANumber => ['N', 'a', 'N']
  | .infinity .positive => ['i', 'n', 'f']
  | .infinity .negative => ['-', 'i', 'n', 'f']
  | .zero .positive => withPlaces 0 places
  | .zero .negative => '-' :: withPlaces 0 places
  | .finite sign m q _ =>
    let n := roundHalfEven (m * Nat.pow 2 q.toNat * Nat.pow 10 places) (Nat.pow 2 (-q).toNat)
    match sign with
    | .positive => withPlaces n places
    | .negative => '-' :: withPlaces n places

end Shapefile.Decimal
