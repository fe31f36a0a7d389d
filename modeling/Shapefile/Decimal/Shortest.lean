import Shapefile.Decimal.Numeral

/-!
The text of a double: the shortest decimal that reads back as the same double, in positional
notation. A finite positive double is `m * 2 ^ q`. The decimals that read back as it fill an
interval around it, whose ends belong to it exactly if `m` is even. The decimal grids are tried from
coarse to fine; the first grid that has a point in the interval has the fewest digits, and one of
the two grid points next to the double is such a point.
-/

namespace Shapefile.Decimal

open Float.Model (UnpackedFloat)

/-- The reals that round to a double, in quarters of its last place: `value * 2 ^ exponent` is the
double and `low * 2 ^ exponent`, `high * 2 ^ exponent` are the ends. -/
structure RoundingInterval where
  low : Nat
  value : Nat
  high : Nat
  exponent : Int
  /-- The ends themselves round to the double. -/
  closed : Bool

/-- The interval of the double `m * 2 ^ q`. Below a power of two the doubles are twice as dense,
unless they are subnormal. -/
def RoundingInterval.of (m : Nat) (q : Int) : RoundingInterval where
  low := if m = Nat.pow 2 52 ∧ -1074 < q then 4 * m - 1 else 4 * m - 2
  value := 4 * m
  high := 4 * m + 2
  exponent := q - 2
  closed := m % 2 = 0

/-- A point of the grid of multiples of `10 ^ grid` inside the interval, nearest to the double, as a
multiple; of two points equally near the upper one. -/
def RoundingInterval.onGrid? (r : RoundingInterval) (grid : Int) : Option Nat :=
  let up := Nat.pow 2 r.exponent.toNat * Nat.pow 10 (-grid).toNat
  let down := Nat.pow 2 (-r.exponent).toNat * Nat.pow 10 grid.toNat
  let below := r.value * up / down
  let above := below + 1
  let inside (point : Nat) : Bool :=
    let scaled := point * down
    if r.closed then r.low * up ≤ scaled && scaled ≤ r.high * up
    else r.low * up < scaled && scaled < r.high * up
  match inside below, inside above with
  | true, true => some (if 2 * (r.value * up) < (below + above) * down then below else above)
  | true, false => some below
  | false, true => some above
  | false, false => none

/-- The coarsest of the grids `grid`, `grid - 1`, … with a point in the interval. -/
def RoundingInterval.search (r : RoundingInterval) : Nat → Int → Nat × Int
  | 0, grid => (r.value, grid)
  | fuel + 1, grid =>
    match r.onGrid? grid with
    | some point => (point, grid)
    | none => r.search fuel (grid - 1)

/-- Digits and exponent of the shortest decimal that rounds to `m * 2 ^ q`. The search starts above
the double and has met it by the grid of its last binary place. -/
def shortestDigits (m : Nat) (q : Int) : Nat × Int :=
  let top : Int := (m.log2 + 1 + q) * 30103 / 100000 + 2
  (RoundingInterval.of m q).search (top - min q 0 + 3).toNat top

/-- The text of a double. -/
def shortest (x : Float) : List Char :=
  match x.toModel.unpack with
  | .notANumber => ['N', 'a', 'N']
  | .infinity .positive => ['i', 'n', 'f']
  | .infinity .negative => ['-', 'i', 'n', 'f']
  | .zero .positive => ['0']
  | .zero .negative => ['-', '0']
  | .finite sign m q _ =>
    let (digits, exponent) := shortestDigits m q
    match sign with
    | .positive => positional digits exponent
    | .negative => '-' :: positional digits exponent

end Shapefile.Decimal
