import Shapefile.Dataset.Reading
import Shapefile.Text.SampleSets

/-!
A cursor that scans the rows of a dataset, all of them or those of a range. It starts before the
first row of its range, stops on the last one, and never goes back behind the first once it was on
it.
-/

namespace Shapefile

structure Scan where
  /-- The row the cursor is on. -/
  position : Int
  /-- First row of the range. -/
  first : Int
  /-- Last row of the range; before the first one if the range is empty. -/
  last : Int
deriving DecidableEq, Repr

namespace Scan

/-- A number of 64 bits as the cursor keeps it: with a sign. -/
def signed (n : Nat) : Int := (Int64.ofNat n).toInt

/-- A cursor before the rows `first` to `last` of a dataset, as far as it has them. -/
def ofRange (rows first last : Nat) : Scan where
  position := signed first - 1
  first := signed first
  last := min (signed last) (rows - 1)

/-- A cursor before all rows of a dataset. -/
def ofAll (rows : Nat) : Scan := ⟨-1, 0, rows - 1⟩

/-- The cursor is on a row of its range. -/
def OnRow (s : Scan) : Prop := s.first ≤ s.position ∧ s.position ≤ s.last

instance (s : Scan) : Decidable s.OnRow := inferInstanceAs (Decidable (_ ∧ _))

/-- The cursor one row further, unless it is on the last row. -/
def next? (s : Scan) : Option Scan :=
  if s.last ≤ s.position then none else some { s with position := s.position + 1 }

/-- The cursor one row back, unless it is on the first row or before it. -/
def previous? (s : Scan) : Option Scan :=
  if s.position ≤ s.first then none else some { s with position := s.position - 1 }

/-- The cursor on the first row, unless the range is empty. -/
def toFirst? (s : Scan) : Option Scan :=
  if s.last < s.first then none else some { s with position := s.first }

/-- The cursor on the last row, unless the range is empty. -/
def toLast? (s : Scan) : Option Scan :=
  if s.last < s.first then none else some { s with position := s.last }

/-- The number of the row that the cursor is on: its position without a sign, in 64 bits if it is
below zero. -/
def rowNumber (s : Scan) : Nat :=
  (if s.position < 0 then s.position + 0x10000000000000000 else s.position).toNat

/-- The row that the cursor is on. -/
def row [Host] (s : Scan) (disk : Disk) : Dataset.Query (List Value) :=
  if s.OnRow then Dataset.row disk s.rowNumber else throw (.state (.offRow s.position))

end Scan

end Shapefile
