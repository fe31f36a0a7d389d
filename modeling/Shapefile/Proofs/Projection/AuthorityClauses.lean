import Mathlib.Data.List.Infix
import Shapefile.Projection
import Shapefile.Proofs.Decimal.IntegerText

/-! Authority clauses of a projection text. A clause is found wherever it stands
in a text, because no clause starts inside another one; so the clause that is
found last is the one that starts last, and its digits give the identifier,
whatever else is in the text. -/
namespace Shapefile.Projection

open Shapefile.Text

/-! ### Clauses as they are written -/

/-- A double quote, or nothing. -/
def quoteIf (quoted : Bool) : List Char := if quoted then ['"'] else []

/-- What an authority clause is written with: blanks between its parts, quotes
around its digits or only on one side or none, and the digits. -/
structure Clause where
  /-- Behind the opening bracket. -/
  opening : List Char
  beforeComma : List Char
  behindComma : List Char
  quotedBefore : Bool
  digits : List Char
  quotedBehind : Bool
  /-- Before the closing bracket. -/
  closing : List Char
  opening_blank : ∀ c ∈ opening, isBlank c = true
  beforeComma_blank : ∀ c ∈ beforeComma, isBlank c = true
  behindComma_blank : ∀ c ∈ behindComma, isBlank c = true
  digits_ne_nil : digits ≠ []
  digits_decimal : ∀ c ∈ digits, isDecimalDigit c = true
  closing_blank : ∀ c ∈ closing, isBlank c = true

namespace Clause

/-- The clause behind its digits. -/
def ending (clause : Clause) : List Char :=
  quoteIf clause.quotedBehind ++ (clause.closing ++ [']'])

/-- The clause as it is written. -/
def text (clause : Clause) : List Char :=
  "AUTHORITY[".toList ++ (clause.opening ++ ("\"EPSG\"".toList ++ (clause.beforeComma ++
    (',' :: (clause.behindComma ++ (quoteIf clause.quotedBefore ++
      (clause.digits ++ clause.ending)))))))

/-- The number in a clause, if its digits are those of ASCII and it is a number
of 32 bits. -/
def number? (clause : Clause) : Option Int32 :=
  let value := Nat.ofDigitChars 10 clause.digits 0
  if clause.digits.all Char.isDigit = true ∧ value ≤ 2147483647 then some (Int32.ofNat value)
  else none

end Clause

/-! ### Classes of characters -/

theorem blank_digits : ∀ first ∈ digitZeros, ∀ offset < 10,
    isBlank (Char.ofNat (first + offset)) = false := by
  decide +kernel

/-- No digit of any script is a blank. -/
theorem not_isBlank_of_isDecimalDigit {c : Char} (hDigit : isDecimalDigit c = true) :
    isBlank c = false := by
  obtain ⟨first, hFirst, hInside⟩ := List.any_eq_true.mp hDigit
  simp only [Bool.and_eq_true, decide_eq_true_eq] at hInside
  have hCode : c = Char.ofNat (first + (c.toNat - first)) := by
    rw [Nat.add_sub_cancel' hInside.1, Char.ofNat_toNat]
  rw [hCode]
  exact blank_digits first hFirst _ (by omega)

/-- A character outside a class is none of the characters in it. -/
theorem ne_of_class {p : Char → Bool} {c other : Char} (hMember : p c = true)
    (hOther : p other = false) : c ≠ other := by
  rintro rfl
  rw [hMember] at hOther
  cases hOther

/-! ### One clause -/

theorem after?_append (lead rest : List Char) : after? lead (lead ++ rest) = some rest := by
  rw [after?, if_pos (List.isPrefixOf_iff_prefix.mpr (List.prefix_append lead rest)),
    List.drop_left]

theorem skipBlanks_append {blanks : List Char} (hBlanks : ∀ c ∈ blanks, isBlank c = true)
    {c : Char} (hFirst : isBlank c = false) (rest : List Char) :
    skipBlanks (blanks ++ c :: rest) = c :: rest := by
  rw [skipBlanks, List.dropWhile_append_of_pos hBlanks,
    List.dropWhile_cons_of_neg (by simp [hFirst])]

theorem skipQuote_quoteIf (quoted : Bool) {c : Char} (hOther : c ≠ '"') (rest : List Char) :
    skipQuote (quoteIf quoted ++ c :: rest) = c :: rest := by
  cases quoted with
  | true => rfl
  | false =>
      rw [quoteIf, if_neg (by decide), List.nil_append, skipQuote]
      rintro other hSame
      exact hOther (List.cons.inj hSame).1

/-- Behind the digits of a clause there is no further digit, and behind a quote
and blanks there is the closing bracket. -/
theorem Clause.ending_append (clause : Clause) (behind : List Char) :
    (∃ c rest, clause.ending ++ behind = c :: rest ∧ isDecimalDigit c = false) ∧
      skipBlanks (skipQuote (clause.ending ++ behind)) = ']' :: behind := by
  obtain ⟨c, rest, hRest, hFirst⟩ : ∃ c rest, clause.closing ++ ']' :: behind = c :: rest ∧
      (isBlank c = true ∨ c = ']') := by
    cases hClosing : clause.closing with
    | nil => exact ⟨']', behind, rfl, Or.inr rfl⟩
    | cons c closing =>
        refine ⟨c, closing ++ ']' :: behind, rfl, Or.inl (clause.closing_blank c ?_)⟩
        rw [hClosing]
        exact List.mem_cons_self
  have hEnding : clause.ending ++ behind = quoteIf clause.quotedBehind ++ c :: rest := by
    rw [ending, List.append_assoc, List.append_assoc, List.singleton_append, hRest]
  have hOther : c ≠ '"' ∧ isDecimalDigit c = false := by
    rcases hFirst with hBlank | rfl
    · refine ⟨ne_of_class hBlank (by decide), Bool.eq_false_iff.mpr fun hDigit => ?_⟩
      rw [not_isBlank_of_isDecimalDigit hDigit] at hBlank
      cases hBlank
    · decide
  rw [hEnding]
  constructor
  · cases clause.quotedBehind with
    | true => exact ⟨'"', c :: rest, rfl, by decide⟩
    | false => exact ⟨c, rest, rfl, hOther.2⟩
  · rw [skipQuote_quoteIf _ hOther.1, ← hRest, skipBlanks_append clause.closing_blank (by decide)]

/-- The digits of a clause are all that follow its quote. -/
theorem Clause.digits_append (clause : Clause) (behind : List Char) :
    (clause.digits ++ (clause.ending ++ behind)).takeWhile isDecimalDigit = clause.digits ∧
      (clause.digits ++ (clause.ending ++ behind)).dropWhile isDecimalDigit =
        clause.ending ++ behind := by
  obtain ⟨⟨c, rest, hRest, hOther⟩, _⟩ := clause.ending_append behind
  have hStop : ¬isDecimalDigit c = true := by simp [hOther]
  rw [hRest, List.takeWhile_append_of_pos clause.digits_decimal,
    List.dropWhile_append_of_pos clause.digits_decimal, List.takeWhile_cons_of_neg hStop,
    List.dropWhile_cons_of_neg hStop, List.append_nil]
  exact ⟨rfl, rfl⟩

/-- Before the digits of a clause, blanks and a quote are passed over. -/
theorem Clause.skip_to_digits (clause : Clause) (rest : List Char) :
    skipQuote (skipBlanks (clause.behindComma ++ (quoteIf clause.quotedBefore ++
      (clause.digits ++ rest)))) = clause.digits ++ rest := by
  obtain ⟨c, more, hDigits⟩ := List.exists_cons_of_ne_nil clause.digits_ne_nil
  have hDigit : isDecimalDigit c = true := by
    refine clause.digits_decimal c ?_
    rw [hDigits]
    exact List.mem_cons_self
  have hQuote : c ≠ '"' := ne_of_class hDigit (by decide)
  rw [hDigits, List.cons_append]
  cases clause.quotedBefore with
  | true =>
      have hBlanks := skipBlanks_append clause.behindComma_blank (c := '"') (by decide)
      exact congrArg skipQuote (hBlanks (c :: (more ++ rest)))
  | false =>
      have hBlanks := skipBlanks_append clause.behindComma_blank
        (not_isBlank_of_isDecimalDigit hDigit)
      rw [quoteIf, if_neg (by decide), List.nil_append, hBlanks]
      exact skipQuote_quoteIf false hQuote (more ++ rest)

/-- A clause is read wherever it is written, and the text behind it is left. -/
theorem clauseAt?_text (clause : Clause) (behind : List Char) :
    clauseAt? (clause.text ++ behind) = some (clause.digits, behind) := by
  obtain ⟨_, hBracket⟩ := clause.ending_append behind
  obtain ⟨hDigits, hRest⟩ := clause.digits_append behind
  have hName (rest : List Char) : "\"EPSG\"".toList ++ rest = '"' :: ("EPSG\"".toList ++ rest) :=
    rfl
  have hSign (c : Char) (rest : List Char) : after? [c] (c :: rest) = some rest :=
    after?_append [c] rest
  unfold Clause.text
  simp only [clauseAt?, List.append_assoc, List.cons_append, after?_append, Option.bind_eq_bind,
    Option.bind_some]
  rw [hName, skipBlanks_append clause.opening_blank (by decide), ← hName, after?_append,
    Option.bind_some, skipBlanks_append clause.beforeComma_blank (by decide), hSign,
    Option.bind_some, clause.skip_to_digits, hDigits, hRest, hBracket, hSign, Option.bind_some,
    if_neg (by simpa using clause.digits_ne_nil)]

theorem exists_blanks (text : List Char) :
    ∃ blanks, (∀ c ∈ blanks, isBlank c = true) ∧ text = blanks ++ skipBlanks text :=
  ⟨text.takeWhile isBlank, List.all_eq_true.mp List.all_takeWhile,
    List.takeWhile_append_dropWhile.symm⟩

theorem exists_quoteIf (text : List Char) : ∃ quoted, text = quoteIf quoted ++ skipQuote text := by
  unfold skipQuote
  split
  · exact ⟨true, rfl⟩
  · exact ⟨false, rfl⟩

/-- What is read as a clause is written as one. -/
theorem exists_clause_of_clauseAt? {text digits behind : List Char}
    (hClause : clauseAt? text = some (digits, behind)) :
    ∃ clause : Clause, clause.digits = digits ∧ text = clause.text ++ behind := by
  simp only [clauseAt?, Option.bind_eq_bind, Option.bind_eq_some_iff] at hClause
  obtain ⟨inside, hLead, behindName, hName, behindComma, hComma, rest, hClosing, hDigits⟩ := hClause
  split at hDigits
  next => cases hDigits
  next hSome =>
    cases hDigits
    obtain ⟨opening, hOpening, hInside⟩ := exists_blanks inside
    obtain ⟨beforeComma, hBefore, hBehindName⟩ := exists_blanks behindName
    obtain ⟨blanks, hBlanks, hBehindComma⟩ := exists_blanks behindComma
    obtain ⟨quotedBefore, hQuoted⟩ := exists_quoteIf (skipBlanks behindComma)
    generalize skipQuote (skipBlanks behindComma) = number at *
    obtain ⟨quotedBehind, hEnding⟩ := exists_quoteIf (number.dropWhile isDecimalDigit)
    obtain ⟨closing, hClosingBlank, hBracket⟩ :=
      exists_blanks (skipQuote (number.dropWhile isDecimalDigit))
    have hNumber : number = number.takeWhile isDecimalDigit ++
        (quoteIf quotedBehind ++ (closing ++ ([']'] ++ behind))) := by
      rw [← eq_append_of_after? hClosing, ← hBracket, ← hEnding,
        List.takeWhile_append_dropWhile]
    have hDecimal : ∀ c ∈ number.takeWhile isDecimalDigit, isDecimalDigit c = true :=
      List.all_eq_true.mp List.all_takeWhile
    generalize number.takeWhile isDecimalDigit = digits at *
    refine ⟨⟨opening, beforeComma, blanks, quotedBefore, digits, quotedBehind, closing, hOpening,
      hBefore, hBlanks, by simpa using hSome, hDecimal, hClosingBlank⟩, rfl, ?_⟩
    -- each part that was passed over is put back in front of what was left
    rw [eq_append_of_after? hLead, hInside, eq_append_of_after? hName, hBehindName,
      eq_append_of_after? hComma, hBehindComma, hQuoted, hNumber]
    unfold Clause.text Clause.ending
    simp only [List.append_assoc, List.cons_append, List.nil_append]

/-! ### Clauses anywhere in a text -/

theorem eq_of_mem_quoteIf {quoted : Bool} {c : Char} (hMember : c ∈ quoteIf quoted) : c = '"' := by
  cases quoted with
  | true => exact List.mem_singleton.mp hMember
  | false => cases hMember

/-- A clause starts with the letter A, and there is no other one in it. -/
theorem Clause.text_eq (clause : Clause) :
    ∃ tail, clause.text = 'A' :: tail ∧ ∀ c ∈ tail, c ≠ 'A' := by
  refine ⟨"UTHORITY[".toList ++ (clause.opening ++ ("\"EPSG\"".toList ++ (clause.beforeComma ++
    (',' :: (clause.behindComma ++ (quoteIf clause.quotedBefore ++
      (clause.digits ++ clause.ending))))))), rfl, fun c hMember => ?_⟩
  have hBlank (hMember : isBlank c = true) : c ≠ 'A' := ne_of_class hMember (by decide)
  have hQuote {quoted : Bool} (hMember : c ∈ quoteIf quoted) : c ≠ 'A' := by
    rw [eq_of_mem_quoteIf hMember]
    decide
  have hOther {letters : List Char} (hNone : 'A' ∉ letters) (hMember : c ∈ letters) : c ≠ 'A' := by
    rintro rfl
    exact hNone hMember
  rw [Clause.ending] at hMember
  simp only [List.mem_append, List.mem_cons, List.not_mem_nil, or_false] at hMember
  rcases hMember with h | h | h | h | rfl | h | h | h | h | h | rfl
  · exact hOther (by decide) h
  · exact hBlank (clause.opening_blank c h)
  · exact hOther (by decide) h
  · exact hBlank (clause.beforeComma_blank c h)
  · decide
  · exact hBlank (clause.behindComma_blank c h)
  · exact hQuote h
  · exact ne_of_class (clause.digits_decimal c h) (by decide)
  · exact hQuote h
  · exact hBlank (clause.closing_blank c h)
  · decide

/-- The digits of every clause, wherever it starts. -/
def clausesAnywhere (text : List Char) : List (List Char) :=
  text.tails.filterMap fun rest => (clauseAt? rest).map Prod.fst

theorem clausesAnywhere_cons (c : Char) (rest : List Char) :
    clausesAnywhere (c :: rest) =
      ((clauseAt? (c :: rest)).map Prod.fst).toList ++ clausesAnywhere rest := by
  rw [clausesAnywhere, List.tails_cons, List.filterMap_cons]
  cases clauseAt? (c :: rest) with
  | none => rfl
  | some found => rfl

/-- No clause starts before the next letter A. -/
theorem clausesAnywhere_append {front : List Char} (hFront : ∀ c ∈ front, c ≠ 'A')
    (rest : List Char) : clausesAnywhere (front ++ rest) = clausesAnywhere rest := by
  induction front with
  | nil => rfl
  | cons c front ih =>
      have hNone : clauseAt? (c :: (front ++ rest)) = none := by
        rw [Option.eq_none_iff_forall_ne_some]
        rintro ⟨digits, behind⟩ hClause
        obtain ⟨clause, _, hText⟩ := exists_clause_of_clauseAt? hClause
        obtain ⟨tail, hTail, _⟩ := clause.text_eq
        rw [hTail, List.cons_append] at hText
        exact hFront c List.mem_cons_self (List.cons.inj hText).1
      rw [List.cons_append, clausesAnywhere_cons, hNone]
      exact ih fun other hOther => hFront other (List.mem_cons_of_mem c hOther)

/-- Going on behind each clause passes over no other one. -/
theorem clausesBehind_eq (skip : Nat) (text : List Char) :
    clausesBehind skip text = clausesAnywhere (text.drop skip) := by
  induction text generalizing skip with
  | nil => cases skip <;> rfl
  | cons c rest ih =>
      cases skip with
      | succ skip => exact ih skip
      | zero =>
          rw [clausesBehind, List.drop_zero, clausesAnywhere_cons]
          cases hClause : clauseAt? (c :: rest) with
          | none => exact ih 0
          | some found =>
              obtain ⟨digits, behind⟩ := found
              obtain ⟨clause, _, hText⟩ := exists_clause_of_clauseAt? hClause
              obtain ⟨tail, hTail, hOnce⟩ := clause.text_eq
              rw [hTail, List.cons_append] at hText
              have hRest : rest = tail ++ behind := (List.cons.inj hText).2
              have hSkip : rest.drop (rest.length - behind.length) = behind := by
                rw [hRest, List.length_append, Nat.add_sub_cancel, List.drop_left]
              have hOthers : clausesAnywhere rest = clausesAnywhere behind := by
                rw [hRest, clausesAnywhere_append hOnce]
              simp only [ih, hSkip, hOthers]
              rfl

/-! ### The clause that starts last -/

/-- A clause stands in a text, behind these characters. -/
def Stands (text before : List Char) (clause : Clause) : Prop :=
  ∃ behind, text = before ++ (clause.text ++ behind)

/-- A clause stands in a text, and none starts later. -/
structure StartsLast (text before : List Char) (clause : Clause) : Prop where
  stands : Stands text before clause
  last {other : List Char} {later : Clause} (hStands : Stands text other later) :
    other.length ≤ before.length

theorem clausesAnywhere_eq_nil_iff {text : List Char} :
    clausesAnywhere text = [] ↔ ∀ before clause, ¬Stands text before clause := by
  rw [clausesAnywhere, List.filterMap_eq_nil_iff]
  constructor
  · rintro hNone before clause ⟨behind, rfl⟩
    have hClause := hNone (clause.text ++ behind)
      ((List.mem_tails _ _).mpr (List.suffix_append _ _))
    rw [clauseAt?_text] at hClause
    cases hClause
  · rintro hNone rest hRest
    obtain ⟨before, rfl⟩ := (List.mem_tails _ _).mp hRest
    rw [Option.map_eq_none_iff, Option.eq_none_iff_forall_ne_some]
    rintro ⟨digits, behind⟩ hClause
    obtain ⟨clause, _, rfl⟩ := exists_clause_of_clauseAt? hClause
    exact hNone before clause ⟨behind, rfl⟩

/-- A clause starts last if there is none behind its first letter. -/
theorem startsLast_of_tail {before behind : List Char} {clause : Clause}
    (hNone : clausesAnywhere (clause.text ++ behind).tail = []) :
    StartsLast (before ++ (clause.text ++ behind)) before clause := by
  refine ⟨⟨behind, rfl⟩, ?_⟩
  rintro other later ⟨rest, hSame⟩
  rcases List.append_eq_append_iff.mp hSame with ⟨between, rfl, hBetween⟩ | ⟨between, rfl, _⟩
  · cases between with
    | nil => rw [List.append_nil]
    | cons c between =>
        rw [hBetween] at hNone
        exact absurd ⟨rest, rfl⟩ (clausesAnywhere_eq_nil_iff.mp hNone between later)
  · rw [List.length_append]
    exact Nat.le_add_right _ _

theorem Stands.cons {text before : List Char} {clause : Clause} (h : Stands text before clause)
    (c : Char) : Stands (c :: text) (c :: before) clause := by
  obtain ⟨behind, rfl⟩ := h
  exact ⟨behind, rfl⟩

theorem exists_startsLast {text : List Char} (hSome : ∃ before clause, Stands text before clause) :
    ∃ before clause, StartsLast text before clause := by
  induction text with
  | nil =>
      obtain ⟨before, clause, behind, hText⟩ := hSome
      obtain ⟨tail, hTail, _⟩ := clause.text_eq
      rw [hTail] at hText
      simp at hText
  | cons c rest ih =>
      by_cases hLater : ∃ before clause, Stands rest before clause
      · obtain ⟨before, clause, hLast⟩ := ih hLater
        refine ⟨c :: before, clause, hLast.stands.cons c, ?_⟩
        rintro other later ⟨behind, hSame⟩
        cases other with
        | nil => exact Nat.zero_le _
        | cons first other =>
            exact Nat.succ_le_succ (hLast.last ⟨behind, (List.cons.inj hSame).2⟩)
      · obtain ⟨before, clause, behind, hText⟩ := hSome
        cases before with
        | cons first before =>
            exact absurd ⟨before, clause, behind, (List.cons.inj hText).2⟩ hLater
        | nil =>
            refine ⟨[], clause, ?_⟩
            rw [hText]
            refine startsLast_of_tail
              (clausesAnywhere_eq_nil_iff.mpr fun before other hStands => ?_)
            rw [List.nil_append] at hText
            rw [← hText] at hStands
            exact hLater ⟨before, other, hStands⟩

/-- Behind anything, the clauses of a text are found last. -/
theorem exists_clausesAnywhere_append (before rest : List Char) :
    ∃ earlier, clausesAnywhere (before ++ rest) = earlier ++ clausesAnywhere rest := by
  induction before with
  | nil => exact ⟨[], rfl⟩
  | cons c before ih =>
      obtain ⟨earlier, hEarlier⟩ := ih
      rw [List.cons_append, clausesAnywhere_cons, hEarlier, ← List.append_assoc]
      exact ⟨_, rfl⟩

theorem StartsLast.getLast?_eq {text before : List Char} {clause : Clause}
    (h : StartsLast text before clause) :
    (clausesAnywhere text).getLast? = some clause.digits := by
  obtain ⟨behind, rfl⟩ := h.stands
  obtain ⟨earlier, hEarlier⟩ := exists_clausesAnywhere_append before (clause.text ++ behind)
  obtain ⟨tail, hTail, _⟩ := clause.text_eq
  have hNone : clausesAnywhere (tail ++ behind) = [] := by
    refine clausesAnywhere_eq_nil_iff.mpr fun other later hStands => ?_
    obtain ⟨rest, hRest⟩ := hStands.cons 'A'
    have hWhole : before ++ (clause.text ++ behind) =
        (before ++ 'A' :: other) ++ (later.text ++ rest) := by
      rw [hTail, List.cons_append, hRest, List.append_assoc]
    have hLater := h.last ⟨rest, hWhole⟩
    rw [List.length_append, List.length_cons] at hLater
    omega
  have hClause := clauseAt?_text clause behind
  rw [hEarlier, hTail, List.cons_append, clausesAnywhere_cons, hNone, ← List.cons_append, ← hTail,
    hClause]
  simp

/-! ### The number -/

/-- The digits of a clause are read as its number. -/
theorem readInt32?_digits (clause : Clause) :
    Decimal.readInt32? clause.digits = clause.number? := by
  by_cases hAscii : clause.digits.all Char.isDigit = true
  · rw [Decimal.readInt32?_of_isDigit clause.digits_ne_nil (List.all_eq_true.mp hAscii)]
    exact (if_congr (and_iff_right hAscii) rfl rfl).symm
  · have hUnsigned : Decimal.splitSign clause.digits = (false, clause.digits) := by
      unfold Decimal.splitSign
      split
      next rest hDigits =>
        exact absurd (clause.digits_decimal '-' (hDigits ▸ List.mem_cons_self)) (by decide)
      next rest hDigits =>
        exact absurd (clause.digits_decimal '+' (hDigits ▸ List.mem_cons_self)) (by decide)
      next => rfl
    have hNone : Decimal.readNatural? clause.digits = none :=
      if_neg fun hBoth => hAscii hBoth.2
    rw [Decimal.readInt32?, Decimal.readInteger?, hUnsigned, Clause.number?,
      if_neg fun hBoth => hAscii hBoth.1]
    simp only [hNone]
    rfl

/-- The last clause gives the identifier. Without a clause there is none; else
one of them starts last, and whatever stands before it, between the clauses and
behind it, the identifier is the number in that clause, if its digits are those
of ASCII and the number has 32 bits. -/
theorem srid?_of_last_clause (text : List Char) :
    ((∀ before clause, ¬Stands text before clause) → srid? text = none) ∧
      ((∃ before clause, Stands text before clause) →
        ∃ before clause, StartsLast text before clause) ∧
      ∀ before clause, StartsLast text before clause → srid? text = clause.number? := by
  have hClauses : clausesBehind 0 text = clausesAnywhere text := clausesBehind_eq 0 text
  refine ⟨fun hNone => ?_, exists_startsLast, fun before clause hLast => ?_⟩
  · rw [srid?, hClauses, clausesAnywhere_eq_nil_iff.mpr hNone]
    rfl
  · rw [srid?, hClauses, hLast.getLast?_eq]
    exact readInt32?_digits clause

/-- A clause with blanks and a quote on one side. -/
def lambertClause : Clause where
  opening := [' ']
  beforeComma := []
  behindComma := ['\t', ' ']
  quotedBefore := true
  digits := "2154".toList
  quotedBehind := false
  closing := ['\u00a0']
  opening_blank := List.all_eq_true.mp (by decide)
  beforeComma_blank := List.all_eq_true.mp (by decide)
  behindComma_blank := List.all_eq_true.mp (by decide)
  digits_ne_nil := by decide
  digits_decimal := List.all_eq_true.mp (by decide)
  closing_blank := List.all_eq_true.mp (by decide)

/-- A system with a clause for its spheroid and one for itself, behind which
stand a clause of another registry and one that is not finished. -/
theorem srid?_of_lambert_clause :
    let before := "PROJCS[\"RGF93\",SPHEROID[\"GRS 1980\",AUTHORITY[\"EPSG\",\"7019\"]],".toList
    let behind := ",AUTHORITY[\"ESRI\",\"102110\"],AUTHORITY[\"EPSG\",\"9".toList
    StartsLast (before ++ (lambertClause.text ++ behind)) before lambertClause ∧
      srid? (before ++ (lambertClause.text ++ behind)) = some 2154 := by
  intro before behind
  have hLast : StartsLast (before ++ (lambertClause.text ++ behind)) before lambertClause :=
    startsLast_of_tail (by decide +kernel)
  obtain ⟨_, _, hNumber⟩ := srid?_of_last_clause (before ++ (lambertClause.text ++ behind))
  exact ⟨hLast, (hNumber before lambertClause hLast).trans (by decide +kernel)⟩

end Shapefile.Projection
