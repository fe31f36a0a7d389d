import Shapefile.Decimal.Numeral
import Shapefile.Text.Blank

/-!
Days of the proleptic Gregorian calendar and their texts. The separated text has dashes; the compact
text is read with blanks allowed before each of its three numbers. A year outside 0 to 9999 is
written with its sign.
-/

namespace Shapefile

/-- A leap year of the Gregorian calendar, before its introduction too. -/
def IsLeapYear (year : Int) : Prop := year % 4 = 0 ∧ (year % 100 ≠ 0 ∨ year % 400 = 0)

instance (year : Int) : Decidable (IsLeapYear year) := inferInstanceAs (Decidable (_ ∧ _))

/-- Days in a month counted from 1; none in a month that does not exist. -/
def daysInMonth (year : Int) (month : Nat) : Nat :=
  match month with
  | 1 | 3 | 5 | 7 | 8 | 10 | 12 => 31
  | 4 | 6 | 9 | 11 => 30
  | 2 => if IsLeapYear year then 29 else 28
  | _ => 0

/-- The day exists and its year is in the supported range. -/
def IsDate (year : Int) (month day : Nat) : Prop :=
  -262143 ≤ year ∧ year ≤ 262142 ∧ 1 ≤ day ∧ day ≤ daysInMonth year month

instance (year : Int) (month day : Nat) : Decidable (IsDate year month day) :=
  inferInstanceAs (Decidable (_ ∧ _))

/-- A day of the calendar. -/
structure Date where
  year : Int
  month : Nat
  day : Nat
  isDate : IsDate year month day
deriving DecidableEq

namespace Date

def of? (year : Int) (month day : Nat) : Option Date :=
  if h : IsDate year month day then some ⟨year, month, day, h⟩ else none

/-- The first day of the year 2000. -/
def epoch : Date := ⟨2000, 1, 1, by decide⟩

instance : Inhabited Date := ⟨epoch⟩

/-- Four digits for the years 0 to 9999, otherwise a sign and at least four digits. -/
def yearText (year : Int) : List Char :=
  if 0 ≤ year ∧ year ≤ 9999 then Decimal.padded 4 year.toNat
  else (if year < 0 then '-' else '+') :: Decimal.padded 4 year.natAbs

/-- Year, month and day with dashes. -/
def text (d : Date) : List Char :=
  yearText d.year ++ '-' :: Decimal.padded 2 d.month ++ '-' :: Decimal.padded 2 d.day

/-- Year, month and day without separators. -/
def compact (d : Date) : List Char :=
  yearText d.year ++ Decimal.padded 2 d.month ++ Decimal.padded 2 d.day

/-- A number of one to `limit` digits after blanks, and the text behind it. -/
def readNumber? (limit : Nat) (text : List Char) : Option (Nat × List Char) :=
  let text := text.dropWhile Text.isBlank
  let digits := (text.takeWhile Char.isDigit).take limit
  (Decimal.readNatural? digits).map fun n => (n, text.drop digits.length)

/-- The year: up to four digits, or after a sign all digits that follow it. -/
def readYear? (text : List Char) : Option (Int × List Char) :=
  let text := text.dropWhile Text.isBlank
  match text with
  | '-' :: rest => signed rest fun n => -n
  | '+' :: rest => signed rest id
  | _ => (readNumber? 4 text).map fun (n, rest) => ((n : Int), rest)
where
  signed (text : List Char) (sign : Int → Int) : Option (Int × List Char) :=
    let digits := text.takeWhile Char.isDigit
    (Decimal.readNatural? digits).map fun n => (sign n, text.dropWhile Char.isDigit)

/-- A date from its compact text; nothing may follow it. -/
def ofCompact? (text : List Char) : Option Date := do
  let (year, rest) ← readYear? text
  let (month, rest) ← readNumber? 2 rest
  let (day, rest) ← readNumber? 2 rest
  if rest.isEmpty then of? year month day else none

end Date

end Shapefile
