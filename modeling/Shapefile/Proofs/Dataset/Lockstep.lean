import Shapefile.Proofs.Dataset.Insert
import Shapefile.Proofs.Dataset.Stage
import Shapefile.Proofs.Shape.StoredWords

/-! Sequences of calls on one dataset. A call answers, and leaves a dataset and
a disk for the next one whether or not it failed. Along any sequence the
stores of a dataset that is being written count the same rows. -/
namespace Shapefile.Dataset

/-- The calls that can be made on a dataset. -/
inductive Call where
  | create (path : Path) (shapeType : ShapeType) (header : TableHeader)
  | openForReading (path : Path) (label : Option String)
  | insert (values : List Value)
  | row (row : Nat)
  | field (row column : Nat)
  | rowSize (row : Nat)
  | setGeometryIndex (index : Nat)
  | setSrid (srid : Int32)
  | close

/-- The dataset that an operation on the disk gives, or the one before. -/
def replaceBy (d : Dataset) (result : Except DatasetError Dataset × Disk) :
    Except DatasetError Unit × Dataset × Disk :=
  match result with
  | (.ok next, disk) => (.ok (), next, disk)
  | (.error e, disk) => (.error e, d, disk)

/-- What a query answers is left out here; what it changed in the dataset stays. -/
def afterQuery {α : Type} (disk : Disk) (result : Except DatasetError α × Dataset) :
    Except DatasetError Unit × Dataset × Disk :=
  (result.1.map fun _ => (), result.2, disk)

/-- Whether a call succeeds, and what it leaves. -/
def perform [Host] (d : Dataset) (disk : Disk) : Call → Except DatasetError Unit × Dataset × Disk
  | .create path shapeType header => d.replaceBy (runOn (d.create path shapeType header) disk)
  | .openForReading path label => d.replaceBy (d.openForReading disk path label, disk)
  | .insert values => d.insert disk values
  | .row row => afterQuery disk (runOn (Dataset.row disk row) d)
  | .field row column => afterQuery disk (runOn (Dataset.field disk row column) d)
  | .rowSize row => afterQuery disk (runOn (Dataset.rowSize disk row) d)
  | .setGeometryIndex index => (.ok (), d.setGeometryIndex index, disk)
  | .setSrid srid => (.ok (), d.setSrid srid, disk)
  | .close => d.replaceBy (runOn d.close disk)

/-- Rows that a call has inserted, by what it answered. -/
def Call.inserted (result : Except DatasetError Unit) : Call → Nat
  | .insert _ => if result.isOk then 1 else 0
  | _ => 0

/-- How many insertions succeed along a sequence of calls, and what it leaves. -/
def run [Host] (d : Dataset) (disk : Disk) : List Call → Nat × Dataset × Disk
  | [] => (0, d, disk)
  | call :: calls =>
    let (result, next, nextDisk) := d.perform disk call
    let (count, last) := next.run nextDisk calls
    (call.inserted result + count, last)

/-- Both stores of a dataset that is being written hold `count` rows, and an
unopened dataset has none. -/
def Counts (d : Dataset) (count : Nat) : Prop :=
  match d.state with
  | .unopened => count = 0
  | .writing w => (∃ f records, w.shapes.writer.Tallies f records ∧ records.length = count) ∧
      w.table.writer.written = count
  | .reading _ | .closed => True

/-! ### One call -/

theorem counts_of_reading {d : Dataset} {r : DatasetReader} (hState : d.state = .reading r)
    (count : Nat) : d.Counts count := by
  rw [Counts, hState]
  exact True.intro

/-- A dataset counts its rows by its state alone. -/
theorem counts_congr {d next : Dataset} (hState : next.state = d.state) {count : Nat}
    (h : d.Counts count) : next.Counts count := by
  rw [Counts, hState]
  exact h

/-- A dataset opened from an unopened one has no rows yet. -/
theorem count_of_unopened {d : Dataset} (hState : d.state = .unopened) {count : Nat}
    (h : d.Counts count) : count = 0 := by
  rw [Counts, hState] at h
  exact h

theorem Counts.zero_add {d : Dataset} {count : Nat} (h : d.Counts count) :
    d.Counts (0 + count) := by
  rw [Nat.zero_add]
  exact h

theorem Counts.replaceBy {d : Dataset} {count : Nat} (h : d.Counts count)
    {result : Except DatasetError Dataset × Disk}
    (hNext : ∀ next disk, result = (.ok next, disk) → next.Counts count) :
    (d.replaceBy result).2.1.Counts count := by
  obtain ⟨_ | next, disk⟩ := result
  · exact h
  · exact hNext next disk rfl

/-- A query changes the count of no dataset: one that is being read has none,
and in another stage the query is refused. -/
theorem Counts.query {α : Type} {d : Dataset} {count : Nat} (h : d.Counts count) (row : Nat)
    (rest : Nat → Query α) (hConfined : Confined (checkRow row >>= rest)) :
    (runOn (checkRow row >>= rest) d).2.Counts count := by
  cases hState : d.state with
  | reading r =>
      obtain ⟨later, hLater⟩ := hConfined d r hState
      exact counts_of_reading hLater count
  | _ =>
      have hOther : ∀ r, d.state ≠ .reading r := by
        intro r hReading
        rw [hState] at hReading
        cases hReading
      rw [runOn_of_checkRow hOther]
      exact h

/-- Inserting a row counts it in both stores or in none. -/
theorem Counts.insert [Host] {d : Dataset} {count : Nat} (h : d.Counts count) (disk : Disk)
    (values : List Value) :
    (d.insert disk values).2.1.Counts
      (Call.inserted (d.insert disk values).1 (.insert values) + count) := by
  rcases d.insert_cases disk values with
    ⟨e, hRefused⟩ | ⟨w, g, attributes, record, payload, hState, _, _, hCheck, _, hPayload, hAdded⟩
  · rw [hRefused]
    exact h.zero_add
  · rw [hAdded]
    rw [Counts, hState] at h
    obtain ⟨⟨f, records, hShapes, rfl⟩, hTable⟩ := h
    have hTakes := ShapeWriter.takes_of_check hCheck
    rw [hShapes.format_eq] at hTakes hPayload
    refine ⟨⟨f, records ++ [some g], (hShapes.add hTakes hPayload).collect, ?_⟩, ?_⟩
    · rw [List.length_append]
      exact Nat.add_comm _ 1
    · exact (congrArg (· + 1) hTable).trans (Nat.add_comm _ 1)

/-- A call adds to the count of both stores what it has inserted. -/
theorem Counts.perform [Host] {d : Dataset} {count : Nat} (h : d.Counts count) (disk : Disk)
    (call : Call) :
    (d.perform disk call).2.1.Counts (call.inserted (d.perform disk call).1 + count) := by
  cases call with
  | insert values => exact h.insert disk values
  | create path shapeType header =>
      refine (h.replaceBy fun next last hCreate => ?_).zero_add
      obtain ⟨hUnopened, w, hState, ⟨f, hShapes⟩, hTable⟩ := create_ok hCreate
      rw [count_of_unopened hUnopened h, Counts, hState]
      exact ⟨⟨f, [], hShapes, rfl⟩, hTable⟩
  | openForReading path label =>
      refine (h.replaceBy fun next last hOpen => ?_).zero_add
      obtain ⟨_, _, _, r, _, _, _, hState⟩ := openForReading_ok (congrArg Prod.fst hOpen)
      exact counts_of_reading hState count
  | row row =>
      exact (h.query row _ (Confined.row disk row)).zero_add
  | field row column =>
      exact (h.query row _ (Confined.field disk row column)).zero_add
  | rowSize row =>
      exact (h.query row _ (Confined.rowSize disk row)).zero_add
  | setGeometryIndex index =>
      exact (counts_congr rfl h).zero_add
  | setSrid srid =>
      exact (counts_congr rfl h).zero_add
  | close =>
      refine (h.replaceBy fun next last hClose => ?_).zero_add
      rw [Counts, close_ok hClose]
      exact True.intro

/-! ### Any sequence of calls -/

theorem Counts.run [Host] {d : Dataset} {count : Nat} (h : d.Counts count) (disk : Disk)
    (calls : List Call) :
    (d.run disk calls).2.1.Counts ((d.run disk calls).1 + count) := by
  induction calls generalizing d disk count with
  | nil => exact h.zero_add
  | cons call calls ih =>
      have hLast := ih (h.perform disk call) (d.perform disk call).2.2
      rw [← Nat.add_assoc, Nat.add_comm _ (call.inserted _)] at hLast
      exact hLast

/-- Records are counted without wrapping around while there are fewer than
2 ^ 31. -/
theorem toInt_recordCount {w : ShapeWriter} {f : RecordFormat} {records : List (Option Geometry)}
    (h : w.Tallies f records) (hFew : records.length < 2 ^ 31) :
    w.recordCount.toInt = records.length := by
  rw [h.count_eq]
  exact Int32.toInt_ofNat_of_lt hFew

/-- A shape file of less than 2 ^ 31 words has no room for more. -/
theorem length_lt_of_written {w : ShapeWriter} {f : RecordFormat}
    {records : List (Option Geometry)} (h : w.Tallies f records)
    (hSmall : w.shapes.written < 2 ^ 32) : records.length < 2 ^ 31 := by
  have hRoom : records.length * 4 + 50 ≤ f.wordOffset records :=
    RecordFormat.length_mul_le_wordOffset 4 fun record _ => Nat.le_add_left _ _
  rw [h.written_eq] at hSmall
  omega

/-- In such a file the next record is counted as one more. -/
theorem toInt_recordCount_add {w : ShapeWriter} {f : RecordFormat}
    {records : List (Option Geometry)} (h : w.Tallies f records) {record : Option Geometry}
    (hTakes : f.Takes record) {payload : List (List UInt8)}
    (hPayload : payload.flatten = f.recordPayload record)
    (hSmall : (w.add record payload).shapes.written < 2 ^ 32) :
    (w.add record payload).recordCount.toInt = w.recordCount.toInt + 1 := by
  have hNext := h.add hTakes hPayload
  have hFew := length_lt_of_written hNext hSmall
  rw [toInt_recordCount hNext hFew]
  rw [List.length_append] at hFew ⊢
  rw [toInt_recordCount h (Nat.lt_of_le_of_lt (Nat.le_add_right _ _) hFew)]
  rfl

/-- The offset of the next record does not wrap around either. -/
theorem toInt_offset_add {w : ShapeWriter} {f : RecordFormat} {records : List (Option Geometry)}
    (h : w.Tallies f records) {record : Option Geometry} (hTakes : f.Takes record)
    {payload : List (List UInt8)} (hPayload : payload.flatten = f.recordPayload record)
    (hSmall : (w.add record payload).shapes.written < 2 ^ 32) :
    (w.add record payload).offset.toInt = w.offset.toInt + ((f.storedWords record).toInt + 4) := by
  have hNext := h.add hTakes hPayload
  have hConcat := f.wordOffset_concat records record
  rw [hNext.written_eq] at hSmall
  rw [hNext.offset_eq, h.offset_eq,
    RecordFormat.toInt_storedOffset_eq_sum hNext.takes (by omega),
    RecordFormat.toInt_storedOffset_eq_sum h.takes (by omega), RecordFormat.offsetSum_concat]

/-- Inserting is all or nothing, after any sequence of calls on a new dataset
and for any values. A refused row changes neither the dataset nor the disk.
Shape file and table always count as many rows as insertions have succeeded,
because a geometry that passed its check is written and a row that could be
encoded is taken by the table. The shape file counts them in a signed word, which
is their number while there are fewer than 2 ^ 31. As long as the shape file
stays under 2 ^ 31 words there are, and neither the count nor the offset of the
next record wraps around in an insertion. -/
theorem insert_all_or_nothing [Host] (options : DatasetOptions) (disk : Disk) (calls : List Call)
    (values : List Value) :
    let (inserted, d, last) := ({ options } : Dataset).run disk calls
    (∀ e, (d.insert last values).1 = .error e → d.insert last values = (.error e, d, last)) ∧
    ∀ w, d.state = .writing w →
      let shapes := w.shapes.writer
      shapes.recordCount = Int32.ofNat inserted ∧
      (inserted < 2 ^ 31 → shapes.recordCount.toInt = inserted) ∧
      (shapes.shapes.written < 2 ^ 32 → inserted < 2 ^ 31) ∧
      w.table.writer.written = inserted ∧ d.rowCount = inserted ∧
      ∀ g attributes record, shapes.check g = .ok () →
        w.table.writer.header.encodeRow attributes = .ok record →
        let (result, written, after) := w.shapes.write last g
        result = .ok () ∧
        (∃ table disk, w.table.writeRecord after record = .ok (table, disk)) ∧
        (written.writer.shapes.written < 2 ^ 32 →
          written.writer.recordCount.toInt = shapes.recordCount.toInt + 1 ∧
          written.writer.offset.toInt =
            shapes.offset.toInt + ((shapes.format.storedWords (some g)).toInt + 4)) := by
  rcases hRun : ({ options } : Dataset).run disk calls with ⟨inserted, d, last⟩
  have hNew : ({ options } : Dataset).Counts 0 := rfl
  have hCounts : d.Counts inserted := by
    have hLast := hNew.run disk calls
    rw [hRun] at hLast
    exact hLast
  refine ⟨fun e hError => ?_, fun w hState => ?_⟩
  · rcases d.insert_cases last values with
      ⟨e', hRefused⟩ | ⟨_, _, _, _, _, _, _, _, _, _, _, hAdded⟩
    · rw [hRefused] at hError ⊢
      cases hError
      rfl
    · rw [hAdded] at hError
      cases hError
  · rw [Counts, hState] at hCounts
    obtain ⟨⟨f, records, hShapes, rfl⟩, hTable⟩ := hCounts
    refine ⟨hShapes.count_eq, toInt_recordCount hShapes, length_lt_of_written hShapes, hTable, ?_,
      fun g attributes record hCheck hEncode => ?_⟩
    · rw [rowCount, hState]
      exact hTable
    · obtain ⟨payload, hPayload, hWrite, hRecord, _⟩ :=
        DatasetWriter.insert_accepted hCheck hEncode last
      have hTakes := ShapeWriter.takes_of_check hCheck
      rw [hShapes.format_eq] at hTakes hPayload ⊢
      have hStored : w.shapes.write last g =
          (.ok (),
            { w.shapes with writer := w.shapes.writer.add (some g) payload }.settle last) := by
        rw [WritingShapes.write, hWrite]
      rw [hStored]
      refine ⟨rfl, ?_, fun hSmall => ⟨toInt_recordCount_add hShapes hTakes hPayload hSmall,
        toInt_offset_add hShapes hTakes hPayload hSmall⟩⟩
      rw [WritingTable.writeRecord, hRecord]
      exact ⟨_, _, rfl⟩

end Shapefile.Dataset
