import Shapefile.Decimal.Numeral
import Shapefile.Text.Blank
import Shapefile.Text.DecimalDigit

/-!
The spatial reference identifier in a projection text. An authority clause names a registry and an
entry in it, and only clauses of the EPSG registry count. Clauses are taken from left to right, each
search going on behind the clause found last. Clauses of inner parts of a system come before the
clause of the system itself, so the last clause wins.
-/

namespace Shapefile.Projection

/-- The text after `lead`, if it starts with it. -/
def after? (lead : List Char) (text : List Char) : Option (List Char) :=
  if lead.isPrefixOf text then some (text.drop lead.length) else none

def skipBlanks (text : List Char) : List Char := text.dropWhile Text.isBlank

/-- The text after a double quote, or all of it if there is none. -/
def skipQuote : List Char → List Char
  | '"' :: rest => rest
  | text => text

/-- The digits of an authority clause that starts here, and the text behind it: `AUTHORITY`, an
opening bracket, `"EPSG"`, a comma, digits in quotes or without, and a closing bracket, with blanks
between them. -/
def clauseAt? (text : List Char) : Option (List Char × List Char) := do
  let text ← after? "AUTHORITY[".toList text
  let text ← after? "\"EPSG\"".toList (skipBlanks text)
  let text ← after? [','] (skipBlanks text)
  let text := skipQuote (skipBlanks text)
  let digits := text.takeWhile Text.isDecimalDigit
  let behind ← after? [']'] (skipBlanks (skipQuote (text.dropWhile Text.isDecimalDigit)))
  if digits.isEmpty then none else some (digits, behind)

theorem eq_append_of_after? {lead text rest : List Char} (h : after? lead text = some rest) :
    text = lead ++ rest := by
  unfold after? at h
  split at h
  next starts =>
    obtain ⟨tail, rfl⟩ := List.isPrefixOf_iff_prefix.mp starts
    cases h
    simp
  · cases h

/-- The digits of every clause from left to right, behind the first `skip` characters. -/
def clausesBehind : Nat → List Char → List (List Char)
  | _, [] => []
  | skip + 1, _ :: rest => clausesBehind skip rest
  | 0, c :: rest =>
    match clauseAt? (c :: rest) with
    | some (digits, behind) => digits :: clausesBehind (rest.length - behind.length) rest
    | none => clausesBehind 0 rest

theorem clausesBehind_eq_drop (skip : Nat) (text : List Char) :
    clausesBehind skip text = clausesBehind 0 (text.drop skip) := by
  induction skip generalizing text with
  | zero => rfl
  | succ skip ih =>
    cases text with
    | nil => simp [clausesBehind]
    | cons c rest => rw [clausesBehind, ih, List.drop_succ_cons]

/-- The identifier that a projection text gives: the number in its last clause, if that is a 32-bit
number in ASCII digits. -/
def srid? (text : List Char) : Option Int32 :=
  (clausesBehind 0 text).getLast?.bind Decimal.readInt32?

end Shapefile.Projection
