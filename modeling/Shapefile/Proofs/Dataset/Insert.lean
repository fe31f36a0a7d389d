import Shapefile.Dataset.Writing
import Shapefile.Proofs.Shape.WriterRun
import Shapefile.Proofs.Table.WrittenTable

/-! Inserting a row. What is checked before anything is written settles
whether both stores take the row: a geometry with a length is written, and a
row that could be encoded has the length of a record. So a refused row leaves
no trace, and an inserted one is in both stores. -/
namespace Shapefile

namespace DatasetWriter

/-- The writer and the disk once a row is in both stores. -/
def added (w : DatasetWriter) (disk : Disk) (g : Geometry) (payload : List (List UInt8))
    (record : List UInt8) : DatasetWriter × Disk :=
  let shapes := { w.shapes with writer := w.shapes.writer.add (some g) payload }.settle disk
  let table := { w.table with writer := w.table.writer.add record }.settle shapes.2
  ({ shapes := shapes.1, table := table.1 }, table.2)

/-- After both checks neither store can refuse its half of the row. -/
theorem insert_accepted [Host] {w : DatasetWriter} {g : Geometry} {attributes : List Value}
    {record : List UInt8} (hCheck : w.shapes.writer.check g = .ok ())
    (hEncode : w.table.writer.header.encodeRow attributes = .ok record) (disk : Disk) :
    ∃ payload, payload.flatten = w.shapes.writer.format.recordPayload (some g) ∧
      w.shapes.writer.write g = (.ok (), w.shapes.writer.add (some g) payload) ∧
      w.table.writer.writeRecord record = .ok (w.table.writer.add record) ∧
      w.insert disk g attributes = (.ok (), w.added disk g payload record) := by
  obtain ⟨length, hLength⟩ := ShapeWriter.takes_of_check hCheck
  obtain ⟨payload, hPayload, hWrite⟩ := ShapeWriter.write_eq_add hLength
  have hRecord : w.table.writer.writeRecord record = .ok (w.table.writer.add record) :=
    TableWriter.writeRecord_eq_add (TableHeader.checkRecord_of_encodeRow hEncode)
  refine ⟨payload, hPayload, hWrite, hRecord, ?_⟩
  rw [insert, hCheck, hEncode]
  simp only [WritingShapes.write, hWrite, WritingTable.writeRecord, hRecord]
  rfl

/-- Without both checks nothing changes. -/
theorem insert_refused [Host] {w : DatasetWriter} {g : Geometry} {attributes : List Value}
    (hRefused : ∀ record, w.shapes.writer.check g = .ok () →
      w.table.writer.header.encodeRow attributes ≠ .ok record) (disk : Disk) :
    ∃ e, w.insert disk g attributes = (.error e, w, disk) := by
  cases hCheck : w.shapes.writer.check g with
  | error e =>
      refine ⟨.shape e, ?_⟩
      rw [insert, hCheck]
  | ok done =>
      cases hEncode : w.table.writer.header.encodeRow attributes with
      | error e =>
          refine ⟨.table e, ?_⟩
          rw [insert, hCheck, hEncode]
      | ok record => exact absurd hEncode (hRefused record hCheck)

end DatasetWriter

namespace Dataset

/-- Inserting a row with as many values as there are columns. -/
private theorem insert_of_count [Host] (d : Dataset) (disk : Disk) {values : List Value}
    {w : DatasetWriter} (hState : d.state = .writing w)
    (hCount : values.length = w.table.writer.header.fieldCount + 1) :
    d.insert disk values =
      match Row.split? values d.geometryIndex with
      | none =>
        (.error (.state (.geometryIndex d.geometryIndex
          (w.table.writer.header.fieldCount + 1))), d, disk)
      | some (.geometry geometry, attributes) =>
        let (result, w, disk) := w.insert disk geometry attributes
        (result, { d with state := .writing w }, disk)
      | some (.null, _) => (.error (.nullGeometry d.geometryIndex), d, disk)
      | some (value, _) => (.error (.notGeometry d.geometryIndex value.typeName), d, disk) := by
  rw [insert, hState]
  exact if_neg (not_not_intro hCount)

/-- A row that passes all checks is added to the writer. -/
theorem insert_taken [Host] {d : Dataset} {w : DatasetWriter} {values attributes : List Value}
    {g : Geometry} {record : List UInt8} (hState : d.state = .writing w)
    (hCount : values.length = w.table.writer.header.fieldCount + 1)
    (hSplit : Row.split? values d.geometryIndex = some (.geometry g, attributes))
    (hCheck : w.shapes.writer.check g = .ok ())
    (hEncode : w.table.writer.header.encodeRow attributes = .ok record) (disk : Disk) :
    ∃ payload, payload.flatten = w.shapes.writer.format.recordPayload (some g) ∧
      d.insert disk values =
        (.ok (), { d with state := .writing (w.added disk g payload record).1 },
          (w.added disk g payload record).2) := by
  obtain ⟨payload, hPayload, _, _, hAdded⟩ := DatasetWriter.insert_accepted hCheck hEncode disk
  refine ⟨payload, hPayload, ?_⟩
  rw [d.insert_of_count disk hState hCount, hSplit]
  simp only [hAdded]

/-- Inserting fails and changes nothing, or it adds the row to the writer. -/
theorem insert_cases [Host] (d : Dataset) (disk : Disk) (values : List Value) :
    (∃ e, d.insert disk values = (.error e, d, disk)) ∨
    ∃ w g attributes record payload, d.state = .writing w ∧
      values.length = w.table.writer.header.fieldCount + 1 ∧
      Row.split? values d.geometryIndex = some (.geometry g, attributes) ∧
      w.shapes.writer.check g = .ok () ∧
      w.table.writer.header.encodeRow attributes = .ok record ∧
      payload.flatten = w.shapes.writer.format.recordPayload (some g) ∧
      d.insert disk values =
        (.ok (), { d with state := .writing (w.added disk g payload record).1 },
          (w.added disk g payload record).2) := by
  cases hState : d.state with
  | writing w =>
      by_cases hCount : values.length = w.table.writer.header.fieldCount + 1
      · have hInsert := d.insert_of_count disk hState hCount
        cases hSplit : Row.split? values d.geometryIndex with
        | none =>
            rw [hSplit] at hInsert
            exact Or.inl ⟨_, hInsert⟩
        | some row =>
            obtain ⟨value, attributes⟩ := row
            rw [hSplit] at hInsert
            cases value with
            | geometry g =>
                by_cases hChecked : ∃ record, w.shapes.writer.check g = .ok () ∧
                    w.table.writer.header.encodeRow attributes = .ok record
                · obtain ⟨record, hCheck, hEncode⟩ := hChecked
                  obtain ⟨payload, hPayload, hAdded⟩ :=
                    insert_taken hState hCount hSplit hCheck hEncode disk
                  exact Or.inr ⟨w, g, attributes, record, payload, rfl, hCount, rfl, hCheck,
                    hEncode, hPayload, hAdded⟩
                · have hRefused : ∀ record, w.shapes.writer.check g = .ok () →
                      w.table.writer.header.encodeRow attributes ≠ .ok record :=
                    fun record hCheck hEncode => hChecked ⟨record, hCheck, hEncode⟩
                  obtain ⟨e, hStays⟩ := DatasetWriter.insert_refused hRefused disk
                  refine Or.inl ⟨e, ?_⟩
                  rw [hInsert]
                  simp only [hStays, ← hState]
            | _ => exact Or.inl ⟨_, hInsert⟩
      · refine Or.inl ⟨.fieldCount values.length (w.table.writer.header.fieldCount + 1), ?_⟩
        rw [insert, hState]
        exact if_pos hCount
  | _ =>
      refine Or.inl ⟨.state .notWriting, ?_⟩
      rw [insert, hState]

end Dataset

end Shapefile
