import Shapefile.Dataset.Scan
import Shapefile.Proofs.Dataset.FieldAccess

/-! A cursor over any sequence of calls. Each move that is not refused leads
from a place before the rows of the range, or on one of them, to another such
place, so every row that the cursor is asked for is one that the dataset has.
The bounds of a range are kept as numbers of 64 bits with a sign; a greater one
comes out below zero, and the range with it. -/
namespace Shapefile

namespace Dataset

variable {d : Dataset} {disk : Disk} {row : Nat}

/-! ### Reading a row -/

/-- A dataset with as many rows and columns as another, and at the same stage. -/
structure Alike (d other : Dataset) : Prop where
  stage_eq : other.state.stage = d.state.stage
  rowCount_eq : other.rowCount = d.rowCount
  fieldCount_eq : other.fieldCount = d.fieldCount
  geometryIndex_eq : other.geometryIndex = d.geometryIndex

theorem Alike.refl (d : Dataset) : d.Alike d := ⟨rfl, rfl, rfl, rfl⟩

theorem Alike.trans {middle last : Dataset} (h : d.Alike middle) (h' : middle.Alike last) :
    d.Alike last :=
  ⟨h'.stage_eq.trans h.stage_eq, h'.rowCount_eq.trans h.rowCount_eq,
    h'.fieldCount_eq.trans h.fieldCount_eq, h'.geometryIndex_eq.trans h.geometryIndex_eq⟩

/-- What is kept of the files may be anything, as long as the header stays. -/
theorem alike_of_header {r later : DatasetReader} (hState : d.state = .reading r)
    (hHeader : later.table.reader.header = r.table.reader.header) :
    d.Alike { d with state := .reading later } := by
  refine ⟨?_, ?_, ?_, rfl⟩
  · rw [hState]
    rfl
  · simp only [rowCount, hState, hHeader]
  · simp only [fieldCount, tableHeader?, hState, hHeader]

/-- Reading a row, or failing to, leaves the rows and columns as they are. -/
theorem alike_row [Host] (d : Dataset) (disk : Disk) (row : Nat) :
    d.Alike (runOn (Dataset.row disk row) d).2 := by
  by_cases hReading : ∃ r, d.state = .reading r
  · obtain ⟨r, hState⟩ := hReading
    rw [Dataset.row, runOn_bind, runOn_checkRow hState]
    split_ifs
    · exact .refl d
    · exact .refl d
    · have hGeometry := congrArg (·.reader.header) (r.table_geometry disk row)
      simp only [runOn_bind, runOn_readGeometry hState]
      cases (r.geometry disk row).1 with
      | error e => exact alike_of_header hState hGeometry
      | ok geometry =>
          simp only [Except.map]
          rw [runOn_readAttributes rfl]
          cases ((r.geometry disk row).2.table.row disk row).1 with
          | error e => exact alike_of_header hState hGeometry
          | ok attributes => exact alike_of_header hState hGeometry
  · rw [Dataset.row, runOn_of_checkRow (not_exists.mp hReading)]
    exact .refl d

end Dataset

/-- A geometry that is not found is missing in index or shape file. -/
theorem DatasetReader.geometry_error {r : DatasetReader} {disk : Disk} {row : Nat}
    {e : DatasetError} (hError : (r.geometry disk row).1 = .error e) :
    ∃ cause, e = .shape cause := by
  rw [DatasetReader.geometry] at hError
  split at hError
  next cause _ _ =>
    cases hError
    exact ⟨cause, rfl⟩
  next => exact mapError_error hError

namespace Dataset

variable {d : Dataset} {disk : Disk} {row : Nat}

/-- A dataset that can be asked for rows. -/
structure CanRead (d : Dataset) : Prop where
  stage_eq : d.state.stage = .reading
  index_lt : d.geometryIndex < d.fieldCount

/-- A row that is counted is there; only its files can fail it, or a dataset
that cannot be asked for rows. -/
theorem row_error [Host] {e : DatasetError} (hRow : row < d.rowCount)
    (hError : (runOn (Dataset.row disk row) d).1 = .error e) :
    (∃ fault, ¬d.CanRead ∧ e = .state fault) ∨
      d.CanRead ∧ ((∃ cause, e = .shape cause) ∨ ∃ cause, e = .table cause) := by
  by_cases hReading : ∃ r, d.state = .reading r
  · obtain ⟨r, hState⟩ := hReading
    rw [Dataset.row, runOn_bind, runOn_checkRow hState, if_neg (Nat.not_le_of_lt hRow)] at hError
    by_cases hIndex : d.fieldCount ≤ d.geometryIndex
    · rw [if_pos hIndex] at hError
      cases hError
      exact Or.inl ⟨_, fun hCan => absurd hCan.index_lt (Nat.not_lt_of_le hIndex), rfl⟩
    · have hStage : d.state.stage = .reading := by
        rw [hState]
        rfl
      rw [if_neg hIndex] at hError
      refine Or.inr ⟨⟨hStage, Nat.lt_of_not_le hIndex⟩, ?_⟩
      rcases runOn_bind_error (Prod.ext hError rfl) with hGeometry | ⟨value, middle, hOk, hRest⟩
      · rw [runOn_readGeometry hState] at hGeometry
        obtain ⟨hFirst, _⟩ := Prod.mk.inj hGeometry
        cases hFound : (r.geometry disk row).1 with
        | error cause =>
            rw [hFound] at hFirst
            cases hFirst
            exact Or.inl (DatasetReader.geometry_error hFound)
        | ok geometry =>
            rw [hFound] at hFirst
            cases hFirst
      · rw [runOn_readGeometry hState] at hOk
        obtain ⟨_, rfl⟩ := Prod.mk.inj hOk
        rcases runOn_bind_error hRest with hAttributes | ⟨attributes, last, _, hDone⟩
        · rw [runOn_readAttributes rfl] at hAttributes
          exact Or.inr (mapError_error (Prod.mk.inj hAttributes).1)
        · cases hDone
  · rw [Dataset.row, runOn_of_checkRow (not_exists.mp hReading)] at hError
    cases hError
    refine Or.inl ⟨_, fun hCan => hReading (stage_eq_reading hCan.stage_eq), rfl⟩

/-- A dataset that cannot be asked for rows refuses each one that is counted. -/
theorem row_refused [Host] (hRow : row < d.rowCount) (hCannot : ¬d.CanRead) :
    ∃ fault, (runOn (Dataset.row disk row) d).1 = .error (.state fault) := by
  by_cases hReading : ∃ r, d.state = .reading r
  · obtain ⟨r, hState⟩ := hReading
    have hStage : d.state.stage = .reading := by
      rw [hState]
      rfl
    have hIndex : d.fieldCount ≤ d.geometryIndex :=
      Nat.le_of_not_lt fun hIndex => hCannot ⟨hStage, hIndex⟩
    rw [Dataset.row, runOn_bind, runOn_checkRow hState, if_neg (Nat.not_le_of_lt hRow),
      if_pos hIndex]
    exact ⟨_, rfl⟩
  · rw [Dataset.row, runOn_of_checkRow (not_exists.mp hReading)]
    exact ⟨_, rfl⟩

end Dataset

namespace Scan

/-! ### Moves -/

/-- The moves of a cursor. -/
inductive Move where
  | next
  | previous
  | first
  | last
deriving DecidableEq

/-- The cursor that a move leads to, if it is not refused. -/
def moved? (s : Scan) : Move → Option Scan
  | .next => s.next?
  | .previous => s.previous?
  | .first => s.toFirst?
  | .last => s.toLast?

variable {s next : Scan} {b e : Int} {m : Move}

/-- Where a move leads, and what lets it. -/
theorem moved?_cases (hMoved : s.moved? m = some next) :
    (m = .next ∧ s.position < s.last ∧ next = { s with position := s.position + 1 }) ∨
    (m = .previous ∧ s.first < s.position ∧ next = { s with position := s.position - 1 }) ∨
    (m = .first ∧ s.first ≤ s.last ∧ next = { s with position := s.first }) ∨
    (m = .last ∧ s.first ≤ s.last ∧ next = { s with position := s.last }) := by
  cases m with
  | next =>
      rw [moved?, next?, Option.ite_none_left_eq_some, Option.some.injEq] at hMoved
      exact .inl ⟨rfl, by omega, hMoved.2.symm⟩
  | previous =>
      rw [moved?, previous?, Option.ite_none_left_eq_some, Option.some.injEq] at hMoved
      exact .inr (.inl ⟨rfl, by omega, hMoved.2.symm⟩)
  | first =>
      rw [moved?, toFirst?, Option.ite_none_left_eq_some, Option.some.injEq] at hMoved
      exact .inr (.inr (.inl ⟨rfl, by omega, hMoved.2.symm⟩))
  | last =>
      rw [moved?, toLast?, Option.ite_none_left_eq_some, Option.some.injEq] at hMoved
      exact .inr (.inr (.inr ⟨rfl, by omega, hMoved.2.symm⟩))

/-- The cursor keeps bounds with the same rows between them, and is before these
rows or on one of them. -/
structure Over (s : Scan) (b e : Int) : Prop where
  first_eq : s.first = b
  last_eq : s.last = e ∨ s.last < b ∧ e < b
  position : s.position = b - 1 ∨ b ≤ s.position ∧ s.position ≤ e

theorem Over.onRow_iff (h : s.Over b e) : s.OnRow ↔ b ≤ s.position ∧ s.position ≤ e := by
  obtain ⟨hFirst, hLast, _⟩ := h
  rw [OnRow]
  omega

theorem Over.moved (h : s.Over b e) (hMoved : s.moved? m = some next) : next.Over b e := by
  obtain ⟨hFirst, hLast, hPosition⟩ := h
  rcases moved?_cases hMoved with ⟨_, hMay, rfl⟩ | ⟨_, hMay, rfl⟩ | ⟨_, hMay, rfl⟩ | ⟨_, hMay, rfl⟩
  all_goals exact ⟨hFirst, hLast, by simp only; omega⟩

/-! ### Moving on -/

/-- What a move answers each time that it is made, and where the cursor is then. -/
def trace (m : Move) : Nat → Scan → List (Bool × Int)
  | 0, _ => []
  | n + 1, s =>
    match s.moved? m with
    | some next => (true, next.position) :: trace m n next
    | none => (false, s.position) :: trace m n s

/-- The cursor goes on up to its last row and stays there; behind it, it stays
where it is. -/
theorem trace_next (s : Scan) (n : Nat) :
    trace .next n s = (List.range n).map fun (i : Nat) =>
      if s.position + 1 + i ≤ s.last then (true, s.position + 1 + i)
      else (false, max s.position s.last) := by
  induction n generalizing s with
  | zero => rfl
  | succ n ih =>
      rw [trace, List.range_succ_eq_map, List.map_cons, List.map_map]
      by_cases hEnd : s.last ≤ s.position
      · have hMoved : s.moved? .next = none := if_pos hEnd
        simp only [hMoved]
        rw [if_neg (by omega), ih s]
        refine congrArg₂ List.cons (Prod.ext rfl (by simp only; omega))
          (List.map_congr_left fun i _ => ?_)
        simp only [Function.comp_apply]
        rw [if_neg (by omega), if_neg (by omega)]
      · have hMoved : s.moved? .next = some { s with position := s.position + 1 } := if_neg hEnd
        simp only [hMoved]
        rw [if_pos (by omega), ih]
        refine congrArg₂ List.cons (Prod.ext rfl (by simp))
          (List.map_congr_left fun i _ => ?_)
        simp only [Function.comp_apply, Nat.succ_eq_add_one, Int.natCast_add, Int.cast_ofNat_Int]
        have hSame : s.position + 1 + (i + 1) = s.position + 1 + 1 + i := by omega
        have hMax : max (s.position + 1) s.last = max s.position s.last := by omega
        rw [hSame, hMax]

/-- The cursor seen in a mirror, where the way back is the way on. -/
def mirrored (s : Scan) : Scan := ⟨-s.position, -s.last, -s.first⟩

@[simp] theorem position_mirrored (s : Scan) : s.mirrored.position = -s.position := rfl

@[simp] theorem last_mirrored (s : Scan) : s.mirrored.last = -s.first := rfl

theorem moved?_mirrored (s : Scan) :
    s.moved? .previous = (s.mirrored.moved? .next).map mirrored := by
  by_cases hEnd : s.position ≤ s.first
  · have hMoved : s.moved? .previous = none := if_pos hEnd
    have hMirrored : s.mirrored.moved? .next = none := if_pos (Int.neg_le_neg hEnd)
    rw [hMoved, hMirrored]
    rfl
  · have hMoved : s.moved? .previous = some { s with position := s.position - 1 } := if_neg hEnd
    have hMirrored : s.mirrored.moved? .next =
        some { s.mirrored with position := s.mirrored.position + 1 } :=
      if_neg (mt Int.le_of_neg_le_neg hEnd)
    rw [hMoved, hMirrored, Option.map_some, Option.some.injEq]
    simp only [mirrored, Scan.mk.injEq]
    omega

theorem trace_mirrored (s : Scan) (n : Nat) :
    trace .previous n s = (trace .next n s.mirrored).map fun step => (step.1, -step.2) := by
  induction n generalizing s with
  | zero => rfl
  | succ n ih =>
      rw [trace, trace, moved?_mirrored]
      cases s.mirrored.moved? .next with
      | none =>
          simp only [Option.map_none, List.map_cons, ih, mirrored, Int.neg_neg]
      | some next =>
          simp only [Option.map_some, List.map_cons, ih, mirrored, Int.neg_neg]

/-- The cursor goes back to its first row and stays there; before it, it stays
where it is. -/
theorem trace_previous (s : Scan) (n : Nat) :
    trace .previous n s = (List.range n).map fun (i : Nat) =>
      if s.first ≤ s.position - 1 - i then (true, s.position - 1 - i)
      else (false, min s.position s.first) := by
  rw [trace_mirrored, trace_next, List.map_map]
  refine List.map_congr_left fun i _ => ?_
  have hThere : s.mirrored.position + 1 + i ≤ s.mirrored.last ↔ s.first ≤ s.position - 1 - i := by
    rw [position_mirrored, last_mirrored]
    omega
  rw [Function.comp_apply]
  by_cases hRow : s.first ≤ s.position - 1 - i
  · rw [if_pos hRow, if_pos (hThere.mpr hRow)]
    exact Prod.ext rfl (by simp only [position_mirrored]; omega)
  · rw [if_neg hRow, if_neg (mt hThere.mp hRow)]
    exact Prod.ext rfl (by simp only [position_mirrored, last_mirrored]; omega)

/-! ### Any calls -/

/-- A call on a cursor: a move, or a look at the row that it is on. -/
inductive Call where
  | move (m : Move)
  | get (disk : Disk)

/-- Cursor and dataset behind a call; a move that is refused leaves the cursor
where it is. -/
def after [Host] (s : Scan) (d : Dataset) : Call → Scan × Dataset
  | .move m => ((s.moved? m).getD s, d)
  | .get disk => (s, (runOn (s.row disk) d).2)

def afterCalls [Host] (s : Scan) (d : Dataset) (calls : List Call) : Scan × Dataset :=
  calls.foldl (fun (s, d) call => s.after d call) (s, d)

/-- What a cursor on the rows `b` to `e` does when it is asked for its row. Off
these rows that is an error; on one, it is the row that the dataset gives, which
is one of those counted. -/
structure Gets [Host] (s : Scan) (d : Dataset) (b e : Int) (disk : Disk) : Prop where
  off_row (hOff : ¬(b ≤ s.position ∧ s.position ≤ e)) :
    runOn (s.row disk) d = (.error (.state (.offRow s.position)), d)
  on_row (hOn : b ≤ s.position ∧ s.position ≤ e) : ∃ row : Nat, s.position = row ∧
    row < d.rowCount ∧ runOn (s.row disk) d = runOn (Dataset.row disk row) d
  counted (row count : Nat) : (runOn (s.row disk) d).1 ≠ .error (.rowOutOfRange row count)
  state_iff : (∃ fault, (runOn (s.row disk) d).1 = .error (.state fault)) ↔
    ¬(b ≤ s.position ∧ s.position ≤ e) ∨ ¬d.CanRead

/-- What is promised of a new cursor on the rows `b` to `e` of a dataset: where
it starts, what holds behind any calls, and which rows it visits. -/
structure Walks [Host] (s : Scan) (d : Dataset) (b e : Int) : Prop where
  start : s.position = b - 1
  position (calls : List Call) : (s.afterCalls d calls).1.position = b - 1 ∨
    b ≤ (s.afterCalls d calls).1.position ∧ (s.afterCalls d calls).1.position ≤ e
  refused (calls : List Call) (m : Move) (hRefused : (s.afterCalls d calls).1.moved? m = none) :
    s.afterCalls d (calls ++ [.move m]) = s.afterCalls d calls
  alike (calls : List Call) : d.Alike (s.afterCalls d calls).2
  gets (calls : List Call) (disk : Disk) :
    (s.afterCalls d calls).1.Gets (s.afterCalls d calls).2 b e disk
  forwards (n : Nat) : trace .next n s = (List.range n).map fun (i : Nat) =>
    if b + i ≤ e then (true, b + i) else (false, max (b - 1) e)
  backwards (calls : List Call) (hRow : b ≤ e)
    (hLast : (s.afterCalls d calls).1.position = e) (n : Nat) :
    trace .previous n (s.afterCalls d calls).1 = (List.range n).map fun (i : Nat) =>
      if b ≤ e - 1 - i then (true, e - 1 - i) else (false, b)

section Calls

variable {d : Dataset}

theorem alike_of_row [Host] (s : Scan) (d : Dataset) (disk : Disk) :
    d.Alike (runOn (s.row disk) d).2 := by
  rw [row]
  split
  · exact Dataset.alike_row d disk s.rowNumber
  · exact .refl d

theorem Over.after [Host] (h : s.Over b e) (d : Dataset) (call : Call) :
    (s.after d call).1.Over b e ∧ d.Alike (s.after d call).2 := by
  cases call with
  | move m =>
      refine ⟨?_, .refl d⟩
      rw [Scan.after]
      cases hMoved : s.moved? m with
      | none => exact h
      | some next => exact h.moved hMoved
  | get disk => exact ⟨h, s.alike_of_row d disk⟩

theorem Over.afterCalls [Host] (h : s.Over b e) (d : Dataset) (calls : List Call) :
    (s.afterCalls d calls).1.Over b e ∧ d.Alike (s.afterCalls d calls).2 := by
  induction calls generalizing s d with
  | nil => exact ⟨h, .refl d⟩
  | cons call calls ih =>
      obtain ⟨hNext, hAlike⟩ := h.after d call
      obtain ⟨hLast, hRest⟩ := ih hNext (s.after d call).2
      exact ⟨hLast, hAlike.trans hRest⟩

theorem Over.gets [Host] (h : s.Over b e) (hFirst : 0 ≤ b) (hLast : e < d.rowCount) (disk : Disk) :
    s.Gets d b e disk := by
  by_cases hOn : b ≤ s.position ∧ s.position ≤ e
  · have hNumber : s.rowNumber = s.position.toNat := by
      rw [rowNumber, if_neg (by omega)]
    have hRow : runOn (s.row disk) d = runOn (Dataset.row disk s.position.toNat) d := by
      rw [row, if_pos (h.onRow_iff.mpr hOn), hNumber]
    have hCounted : s.position.toNat < d.rowCount := by omega
    refine ⟨fun hOff => absurd hOn hOff, fun _ => ⟨_, by omega, hCounted, hRow⟩,
      fun row count hError => ?_, ?_⟩
    · rw [hRow] at hError
      rcases Dataset.row_error hCounted hError with ⟨_, _, hFault⟩ | ⟨_, ⟨_, hFault⟩ | ⟨_, hFault⟩⟩
      all_goals cases hFault
    · rw [hRow]
      constructor
      · rintro ⟨fault, hError⟩
        rcases Dataset.row_error hCounted hError with
          ⟨_, hCannot, _⟩ | ⟨_, ⟨_, hFault⟩ | ⟨_, hFault⟩⟩
        · exact Or.inr hCannot
        all_goals cases hFault
      · rintro (hOff | hCannot)
        · exact absurd hOn hOff
        · exact Dataset.row_refused hCounted hCannot
  · have hRow : runOn (s.row disk) d = (.error (.state (.offRow s.position)), d) := by
      rw [row, if_neg (mt h.onRow_iff.mp hOn)]
      rfl
    refine ⟨fun _ => hRow, fun hRowThere => absurd hRowThere hOn, fun row count => ?_, ?_⟩
    · rw [hRow]
      nofun
    · rw [hRow]
      exact ⟨fun _ => Or.inl hOn, fun _ => ⟨_, rfl⟩⟩

theorem afterCalls_concat [Host] (s : Scan) (d : Dataset) (calls : List Call) (call : Call) :
    s.afterCalls d (calls ++ [call]) =
      (s.afterCalls d calls).1.after (s.afterCalls d calls).2 call := by
  rw [afterCalls, List.foldl_append]
  rfl

/-- A cursor before the rows that it is on does what is promised, if they are
rows of the dataset. -/
theorem Over.walks [Host] (h : s.Over b e) (hStart : s.position = b - 1) (hFirst : 0 ≤ b)
    (hLast : e < d.rowCount) : s.Walks d b e where
  start := hStart
  position calls := (h.afterCalls d calls).1.position
  refused calls m hRefused := by
    rw [afterCalls_concat, Scan.after, hRefused]
    rfl
  alike calls := (h.afterCalls d calls).2
  gets calls disk := by
    obtain ⟨hOver, hAlike⟩ := h.afterCalls d calls
    exact hOver.gets hFirst (hAlike.rowCount_eq ▸ hLast) disk
  forwards n := by
    have hBound := h.last_eq
    rw [trace_next, hStart]
    refine List.map_congr_left fun i _ => ?_
    rw [show b - 1 + 1 + (i : Int) = b + i by omega]
    by_cases hThere : b + i ≤ e
    · rw [if_pos hThere, if_pos (by omega)]
    · rw [if_neg hThere, if_neg (by omega)]
      exact Prod.ext rfl (by simp only; omega)
  backwards calls hRow hAt n := by
    rw [trace_previous, hAt, (h.afterCalls d calls).1.first_eq, Int.min_eq_right hRow]

end Calls

/-! ### Bounds -/

theorem signed_eq {n : Nat} (hWord : n < 2 ^ 64) :
    signed n = if n < 2 ^ 63 then (n : Int) else n - 2 ^ 64 := by
  have hSize : Int64.size = 2 ^ 64 := rfl
  rw [signed, Int64.toInt_ofNat', Int.bmod_def, hSize]
  split <;> split <;> omega

/-- A new cursor does what is promised: on all rows of any dataset, and on a
range of them exactly if the range starts at a number of 63 bits, and ends at
one unless it starts behind all rows. -/
theorem walks_iff [Host] (d : Dataset) (first last : UInt64) :
    (ofAll d.rowCount).Walks d 0 (d.rowCount - 1) ∧
      ((ofRange d.rowCount first.toNat last.toNat).Walks d first.toNat
          (min last.toNat (d.rowCount - 1)) ↔
        first.toNat < 2 ^ 63 ∧ (last.toNat < 2 ^ 63 ∨ d.rowCount ≤ first.toNat)) := by
  have hFirst := signed_eq first.toNat_lt
  have hLast := signed_eq last.toNat_lt
  have hFirstWord := first.toNat_lt
  have hLastWord := last.toNat_lt
  refine ⟨?_, fun hWalks => ?_, fun ⟨hSmall, hEnd⟩ => ?_⟩
  · have hOver : (ofAll d.rowCount).Over 0 (d.rowCount - 1) := ⟨rfl, .inl rfl, .inl rfl⟩
    exact hOver.walks rfl (by omega) (by omega)
  · have hSmall : first.toNat < 2 ^ 63 := by
      have hStart := hWalks.start
      simp only [ofRange] at hStart
      split at hFirst <;> omega
    refine ⟨hSmall, ?_⟩
    by_contra hWrapped
    rw [not_or, Nat.not_lt, Nat.not_le] at hWrapped
    rw [if_pos hSmall] at hFirst
    rw [if_neg (Nat.not_lt_of_le hWrapped.1)] at hLast
    -- the range that is kept ends below zero, so the first row is not visited
    have hVisited := hWalks.forwards 1
    rw [trace_next] at hVisited
    simp only [List.range_one, List.map_cons, List.map_nil, ofRange, hFirst, hLast] at hVisited
    rw [if_neg (by omega), if_pos (by omega)] at hVisited
    cases hVisited
  · rw [if_pos hSmall] at hFirst
    have hOver : (ofRange d.rowCount first.toNat last.toNat).Over first.toNat
        (min last.toNat (d.rowCount - 1)) := by
      refine ⟨hFirst, ?_, .inl (by simp only [ofRange, hFirst])⟩
      simp only [ofRange]
      split at hLast <;> omega
    exact hOver.walks (by simp only [ofRange, hFirst]) (by omega) (by omega)

/-- Two towns, and a range from the first one to the end of all numbers: the
cursor finds no row to go to. -/
theorem walks_past_signed_bounds : ∃ opened,
    ({} : Dataset).openForReading Dataset.cutFolder Dataset.townsPath none = .ok opened ∧
    opened.rowCount = 2 ∧
    trace .next 2 (ofRange 2 0 (2 ^ 64 - 1)) = [(false, -1), (false, -1)] ∧
    (ofRange 2 0 (2 ^ 64 - 1)).toLast? = none ∧
    ¬(ofRange 2 0 (2 ^ 64 - 1)).Walks opened 0 (min (2 ^ 64 - 1) (2 - 1)) := by
  have hAnswer : (({} : Dataset).openForReading Dataset.cutFolder Dataset.townsPath none).map
      Dataset.rowCount = .ok 2 := by
    decide +kernel
  obtain ⟨opened, hOpen, hCount⟩ := map_eq_ok hAnswer
  have hTrace : trace .next 2 (ofRange 2 0 (2 ^ 64 - 1)) = [(false, -1), (false, -1)] := by
    decide +kernel
  refine ⟨opened, hOpen, hCount, hTrace, by decide +kernel, fun hWalks => ?_⟩
  have hVisited := hWalks.forwards 2
  rw [hTrace] at hVisited
  exact absurd hVisited (by decide +kernel)

end Scan

end Shapefile
