import Shapefile.Proofs.Shape.MultiPartReading

/-! Programs under watch. A watched program ends as soon as it makes room for
a list that the rest of the channel cannot fill, or asks a list for elements
that it does not have. It comes to no mishap if it gives the same as the plain
program on the same channel. -/
namespace Shapefile

/-- How a watched program ends if it gives no value. -/
inductive Ending where
  /-- It ended with an error of its own. -/
  | refused (e : ShapeError)
  /-- It made room for more bytes than remain. -/
  | oversized (needed remaining : Nat)
  /-- It asked for elements that a list of this length does not have. -/
  | outOfRange (first last length : Nat)
deriving DecidableEq, Repr

instance : OfStorage Ending where
  ofStorage e := .refused (.storage e)

namespace Reading

variable {α β : Type}

/-- The program as a part of a watched one that has nothing to watch. Its errors
are taken over. -/
def watched : Reading ShapeError α → Reading Ending α
  | done value => done value
  | fail e => fail (.refused e)
  | fetch position length next => fetch position length fun bytes => (next bytes).watched
  | inspect next => inspect fun cursor size => (next cursor size).watched
  | place cursor next => place cursor next.watched

/-- The watched program comes to no end but those of the plain one. -/
def NoMishap (watching : Reading Ending α) (plain : Reading ShapeError α) (channel : Bytes)
    (cursor : Cursor) : Prop :=
  watching.onBytes channel cursor =
    ((plain.onBytes channel cursor).1.mapError .refused, (plain.onBytes channel cursor).2)

namespace NoMishap

variable {channel : Bytes} {cursor : Cursor}

theorem watched (program : Reading ShapeError α) (channel : Bytes) (cursor : Cursor) :
    NoMishap program.watched program channel cursor := by
  unfold NoMishap
  induction program generalizing cursor with
  | done value => rfl
  | fail e => rfl
  | fetch position length next ih =>
      simp only [Reading.watched, onBytes]
      by_cases hFits : position + length ≤ channel.size
      · simp only [if_pos hFits, ih]
      · simp only [if_neg hFits]
        rfl
  | inspect next ih => simp only [Reading.watched, onBytes, ih]
  | place target next ih => simp only [Reading.watched, onBytes, ih]

theorem ofExcept {watching : Except Ending α} {plain : Except ShapeError α}
    (hSame : watching = plain.mapError .refused) :
    NoMishap (Reading.ofExcept watching) (Reading.ofExcept plain) channel cursor := by
  rw [hSame]
  cases plain with
  | error e => rfl
  | ok value => rfl

/-- A step of the watched program that reads nothing and succeeds. -/
theorem computed {watching : Except Ending α} {value : α} {next : α → Reading Ending β}
    {plain : Reading ShapeError β} (hValue : watching = .ok value)
    (hNext : NoMishap (next value) plain channel cursor) :
    NoMishap ((Reading.ofExcept watching).bind next) plain channel cursor := by
  rw [hValue]
  exact hNext

theorem bind {watching : Reading Ending α} {plain : Reading ShapeError α}
    {next : α → Reading Ending β} {plainNext : α → Reading ShapeError β}
    (hFirst : NoMishap watching plain channel cursor)
    (hNext : ∀ value middle, plain.onBytes channel cursor = (.ok value, middle) →
      NoMishap (next value) (plainNext value) channel middle) :
    NoMishap (watching.bind next) (plain.bind plainNext) channel cursor := by
  unfold NoMishap at hFirst ⊢
  rw [onBytes_bind, onBytes_bind, hFirst]
  rcases hPlain : plain.onBytes channel cursor with ⟨e | value, middle⟩
  · rfl
  · exact hNext value middle hPlain

end NoMishap

end Reading

namespace Watched

open Reading

variable {α : Type} {channel : Bytes} {cursor : Cursor}

/-- Make room for a list of items of this size. -/
def reserve (items size : Nat) : Reading Ending Unit := do
  let remaining ← Reading.remaining
  if remaining < items * size then
    .fail (.oversized (items * size) remaining)

/-- The element at an index. -/
def element (items : List α) (i : Nat) : Except Ending α :=
  match items[i]? with
  | some item => .ok item
  | none => .error (.outOfRange i (i + 1) items.length)

/-- The elements in a range. -/
def elements (items : List α) (range : Nat × Nat) : Except Ending (List α) :=
  if range.1 ≤ range.2 ∧ range.2 ≤ items.length then .ok (Block.slice items range)
  else .error (.outOfRange range.1 range.2 items.length)

theorem element_of_getElem? {items : List α} {i : Nat} {item : α} (hItem : items[i]? = some item) :
    element items i = .ok item := by
  rw [element, hItem]

theorem element_cons {first : α} {items : List α} {i : Nat} (hThere : i < items.length) :
    element (first :: items) (i + 1) = element items i := by
  have hItem : items[i]? = some items[i] := List.getElem?_eq_getElem hThere
  rw [element_of_getElem? hItem]
  exact element_of_getElem? hItem

/-- After a count was checked, there is room for the list. -/
theorem noMishap_reserve {watching : Reading Ending α} {plain : Reading ShapeError α}
    (item : RecordItem) {items size : Nat} (hNext : NoMishap watching plain channel cursor) :
    NoMishap ((Block.ensureFits item items size).watched.bind fun _ =>
        (reserve items size).bind fun _ => watching)
      ((Block.ensureFits item items size).bind fun _ => plain) channel cursor := by
  refine (NoMishap.watched _ channel cursor).bind fun _ middle hChecked => ?_
  have hRoom : ¬channel.size - cursor.position < items * size ∧ middle = cursor := by
    rw [Block.onBytes_ensureFits] at hChecked
    split at hChecked
    next => cases hChecked
    next hRoom =>
      cases hChecked
      exact ⟨hRoom, rfl⟩
  obtain ⟨hRoom, rfl⟩ := hRoom
  have hReserved : (reserve items size).onBytes channel middle = (.ok (), middle) := by
    simp only [reserve, Reading.remaining, bind_eq, Reading.bind, onBytes]
    rw [if_neg hRoom]
    rfl
  unfold NoMishap at hNext ⊢
  rw [onBytes_bind, hReserved]
  exact hNext

end Watched

end Shapefile
