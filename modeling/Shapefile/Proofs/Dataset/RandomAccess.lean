import Shapefile.Proofs.Shape.WrittenFiles
import Shapefile.Proofs.Table.WriterRun

/-! Records, rows and cells can be asked for in any order. An answer depends
on the content of the file and on what is asked for. Neither the size of the
window nor the calls before it matter, whether these gave something or failed
half way. -/
namespace Shapefile

namespace Reading

variable {ε α β : Type} [OfStorage ε]

/-- What the program gives does not depend on where the cursor was left, nor on
the byte order. -/
def CursorFree (program : Reading ε α) : Prop :=
  ∀ (channel : Bytes) (first second : Cursor),
    (program.onBytes channel first).1 = (program.onBytes channel second).1

namespace CursorFree

theorem done (value : α) : CursorFree (.done value : Reading ε α) := fun _ _ _ => rfl

theorem fail (error : ε) : CursorFree (.fail error : Reading ε α) := fun _ _ _ => rfl

theorem ofExcept (result : Except ε α) : CursorFree (Reading.ofExcept result) := by
  cases result with
  | ok value => exact done value
  | error e => exact fail e

/-- A read at an offset says itself where it reads. -/
theorem bytesAt (position length : Nat) :
    CursorFree (Reading.bytesAt position length : Reading ε Bytes) := by
  intro channel first second
  simp only [Reading.bytesAt, onBytes]
  split
  · rfl
  · rfl

/-- One after the other, both need to be free of the cursor: the first one may
leave it anywhere. -/
theorem bind {program : Reading ε α} {next : α → Reading ε β} (hProgram : program.CursorFree)
    (hNext : ∀ value, (next value).CursorFree) : (program.bind next).CursorFree := by
  intro channel first second
  have hSame := hProgram channel first second
  rw [onBytes_bind, onBytes_bind]
  generalize program.onBytes channel first = firstEnd at *
  generalize program.onBytes channel second = secondEnd at *
  obtain ⟨result, firstCursor⟩ := firstEnd
  obtain ⟨other, secondCursor⟩ := secondEnd
  obtain rfl : result = other := hSame
  cases result with
  | error e => rfl
  | ok value => exact hNext value channel firstCursor secondCursor

/-- A program that starts by setting position and byte order. -/
theorem seekAnd (position : Nat) (order : ByteOrder) (length : Nat) (next : Reading ε α) :
    CursorFree ((Reading.seek position).bind fun _ => (Reading.skip length).bind fun _ =>
      (Reading.setOrder order).bind fun _ => next) :=
  fun _ _ _ => rfl

end CursorFree

end Reading

namespace Window

variable {ε α : Type} [OfStorage ε] {channel : Bytes}

/-- Through any window on the content, a program that does not look at the
cursor gives what it gives on the whole content. -/
theorem Views.run_free {w : Window} (h : w.Views channel) {program : Reading ε α}
    (hFree : program.CursorFree) :
    (w.run channel program).1 = (program.onBytes channel {}).1 ∧
      (w.run channel program).2.Views channel := by
  obtain ⟨hResult, _, hViews⟩ := h.run_eq program
  exact ⟨hResult.trans (hFree channel _ _), hViews⟩

end Window

namespace ShapeReader

theorem readRecord_cursorFree (fileType : ShapeType) (format : RecordFormat) (offset : Nat) :
    (readRecord fileType format offset).CursorFree :=
  Reading.CursorFree.seekAnd offset .little recordHeaderSize _

/-- The header and the format of a file, from its whole content. -/
def headerOf (channel : Bytes) : Except ShapeError (ShapeHeader × RecordFormat) :=
  (readHeader.onBytes channel {}).1

/-- The record at an offset of a file, from its whole content. -/
def recordAt (channel : Bytes) (offset : Nat) : Except ShapeError (Option Geometry) := do
  let (header, format) ← headerOf channel
  ((readRecord header.shapeType format offset).onBytes channel {}).1

/-- The reader stands for the file. -/
structure OpenOn (r : ShapeReader) (channel : Bytes) : Prop where
  header_eq : headerOf channel = .ok (r.header, r.format)
  views : r.window.Views channel

/-- Opening tells the header of the file, or why it has none. -/
theorem onChannel_cases (channel : Bytes) (capacity : Nat) :
    (∃ r, onChannel channel capacity = .ok r ∧ r.OpenOn channel) ∨
      ∃ e, onChannel channel capacity = .error e ∧ headerOf channel = .error e := by
  obtain ⟨hResult, hViews⟩ := Window.run_onChannel channel capacity readHeader
  rw [onChannel]
  generalize (Window.onChannel channel capacity).run channel readHeader = opened at *
  obtain ⟨result, window⟩ := opened
  cases result with
  | ok found => exact Or.inl ⟨⟨found.1, found.2, window⟩, rfl, hResult.symm, hViews⟩
  | error e => exact Or.inr ⟨e, rfl, hResult.symm⟩

/-- A call answers from the content of the file and leaves the reader open on
it, whatever it gave. -/
theorem OpenOn.geometryAt {r : ShapeReader} {channel : Bytes} (h : r.OpenOn channel)
    (offset : Nat) :
    (r.geometryAt channel offset).1 = recordAt channel offset ∧
      (r.geometryAt channel offset).2.OpenOn channel := by
  obtain ⟨hResult, hViews⟩ :=
    h.views.run_free (readRecord_cursorFree r.header.shapeType r.format offset)
  rw [recordAt, h.header_eq]
  exact ⟨hResult, h.header_eq, hViews⟩

theorem OpenOn.afterReads {r : ShapeReader} {channel : Bytes} (h : r.OpenOn channel)
    (earlier : List Nat) : (r.afterReads channel earlier).OpenOn channel := by
  induction earlier generalizing r with
  | nil => exact h
  | cons offset earlier ih => exact ih (h.geometryAt offset).2

end ShapeReader

namespace TableHeader

theorem readRow_cursorFree [Host] (h : TableHeader) (row : Nat) : (h.readRow row).CursorFree :=
  (Reading.CursorFree.ofExcept _).bind fun _ =>
    (Reading.CursorFree.bytesAt _ _).bind fun _ => Reading.CursorFree.ofExcept _

theorem readCell_cursorFree [Host] (h : TableHeader) (row column : Nat) :
    (h.readCell row column).CursorFree := by
  refine (Reading.CursorFree.ofExcept _).bind fun _ => ?_
  cases h.fields[column]? with
  | none => exact Reading.CursorFree.fail _
  | some field =>
      exact (Reading.CursorFree.bytesAt _ _).bind fun _ => Reading.CursorFree.ofExcept _

end TableHeader

namespace TableReader

/-- The header of a table, from its whole content. -/
def headerOf (channel : Bytes) (forced : Option Text.CodePage) : Except TableError TableHeader :=
  ((TableHeader.read forced).onBytes channel {}).1

/-- A row of a table, from its whole content. -/
def rowAt [Host] (channel : Bytes) (forced : Option Text.CodePage) (row : Nat) :
    Except TableError (List Value) := do
  let header ← headerOf channel forced
  ((header.readRow row).onBytes channel {}).1

/-- A cell of a table, from its whole content. -/
def cellAt [Host] (channel : Bytes) (forced : Option Text.CodePage) (row column : Nat) :
    Except TableError Value := do
  let header ← headerOf channel forced
  ((header.readCell row column).onBytes channel {}).1

/-- The reader stands for the table. -/
structure OpenOn (r : TableReader) (channel : Bytes) (forced : Option Text.CodePage) : Prop where
  header_eq : headerOf channel forced = .ok r.header
  views : r.window.Views channel

/-- Opening tells the header of the table, or why it has none. -/
theorem onChannel_cases (channel : Bytes) (capacity : Nat) (forced : Option Text.CodePage) :
    (∃ r, onChannel channel capacity forced = .ok r ∧ r.OpenOn channel forced) ∨
      ∃ e, onChannel channel capacity forced = .error e ∧ headerOf channel forced = .error e := by
  obtain ⟨hResult, hViews⟩ := Window.run_onChannel channel capacity (TableHeader.read forced)
  rw [onChannel]
  generalize (Window.onChannel channel capacity).run channel (TableHeader.read forced) =
    opened at *
  obtain ⟨result, window⟩ := opened
  cases result with
  | ok header => exact Or.inl ⟨⟨header, window⟩, rfl, hResult.symm, hViews⟩
  | error e => exact Or.inr ⟨e, rfl, hResult.symm⟩

section OpenOn

variable {r : TableReader} {channel : Bytes} {forced : Option Text.CodePage}

theorem OpenOn.row [Host] (h : r.OpenOn channel forced) (row : Nat) :
    (r.row channel row).1 = rowAt channel forced row ∧
      (r.row channel row).2.OpenOn channel forced := by
  obtain ⟨hResult, hViews⟩ := h.views.run_free (r.header.readRow_cursorFree row)
  rw [rowAt, h.header_eq]
  exact ⟨hResult, h.header_eq, hViews⟩

theorem OpenOn.cell [Host] (h : r.OpenOn channel forced) (row column : Nat) :
    (r.cell channel row column).1 = cellAt channel forced row column ∧
      (r.cell channel row column).2.OpenOn channel forced := by
  obtain ⟨hResult, hViews⟩ := h.views.run_free (r.header.readCell_cursorFree row column)
  rw [cellAt, h.header_eq]
  exact ⟨hResult, h.header_eq, hViews⟩

theorem OpenOn.afterQueries [Host] (h : r.OpenOn channel forced) (earlier : List Query) :
    (r.afterQueries channel earlier).OpenOn channel forced := by
  induction earlier generalizing r with
  | nil => exact h
  | cons query earlier ih =>
      cases query with
      | row row => exact ih (h.row row).2
      | cell row column => exact ih (h.cell row column).2

end OpenOn

variable (channel : Bytes) (forced : Option Text.CodePage) (capacity : Nat) (earlier : List Query)

end TableReader

end Shapefile
