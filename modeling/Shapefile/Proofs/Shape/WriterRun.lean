import Shapefile.Proofs.Running
import Shapefile.Proofs.Shape.RecordLayout
import Shapefile.Proofs.Storage.StagingContent

/-! A shape writer over a whole run. What it has put into its two staging
areas is the layout of the records that it accepted, and its running offset,
count and box are those of that layout. A refused geometry changes nothing. -/
namespace Shapefile.ShapeWriter

/-- What the user of a writer does with it. -/
inductive Call where
  | write (g : Geometry)
  | check (g : Geometry)
  | writeNull

/-- The record that a call adds if it succeeds. -/
def Call.record? : Call → Option (Option Geometry)
  | write g => some (some g)
  | check _ => none
  | writeNull => some none

def perform (w : ShapeWriter) : Call → Except ShapeError Unit × ShapeWriter
  | .write g => w.write g
  | .check g => (w.check g, w)
  | .writeNull => (.ok (), w.writeNull)

/-- The records added by the calls that succeed, and the writer after all
calls. -/
def run (w : ShapeWriter) : List Call → List (Option Geometry) × ShapeWriter
  | [] => ([], w)
  | call :: calls =>
    match w.perform call with
    | (.ok (), w) => (call.record?.toList ++ (w.run calls).1, (w.run calls).2)
    | (.error _, w) => w.run calls

/-- The header that both files start with until they are closed. -/
def provisional (f : RecordFormat) : ShapeHeader :=
  ShapeHeader.of (.record f) (Int32.ofNat (ShapeHeader.size / 2)) .zero

/-- The running numbers of a writer are those of these records. -/
structure Tallies (w : ShapeWriter) (f : RecordFormat) (records : List (Option Geometry)) :
    Prop where
  format_eq : w.format = f
  takes : ∀ record ∈ records, f.Takes record
  count_eq : w.recordCount = Int32.ofNat records.length
  offset_eq : w.offset = f.storedOffset records
  written_eq : w.shapes.written = 2 * f.wordOffset records

/-- The writer has accepted exactly these records. The bytes already handed
over and those it still has make up both files, up to their headers. -/
structure Holds (w : ShapeWriter) (f : RecordFormat) (shapesSent indexSent : List UInt8)
    (records : List (Option Geometry)) : Prop extends Tallies w f records where
  bounds_eq : w.bounds = records.foldl RecordFormat.widen none
  shapes_eq : shapesSent ++ w.shapes.content.toList =
    (provisional f).bytes ++ f.recordsBytes records
  index_eq : indexSent ++ w.index.content.toList =
    (provisional f).bytes ++ f.entriesBytes records

/-- A new writer of a format has no records. -/
theorem create_tallies {shapeType : ShapeType} {capacity : Nat} {w : ShapeWriter}
    (hCreate : create shapeType capacity = .ok w) : ∃ f, w.Tallies f [] := by
  obtain ⟨f, _, hSame⟩ := bind_eq_ok hCreate
  cases hSame
  refine ⟨f, rfl, List.forall_mem_nil _, rfl, rfl, ?_⟩
  rw [Staging.putAll_written, ← ShapeHeader.bytes, ShapeHeader.length_bytes]
  rfl

/-- A new writer of a format holds no records. -/
theorem create_holds (f : RecordFormat) (capacity : Nat) :
    ∃ w, create (.record f) capacity = .ok w ∧ w.Holds f [] [] [] := by
  let start : Staging := ({ capacity } : Staging).putAll (provisional f).puts
  have hContent : start.content.toList = (provisional f).bytes := Staging.putAll_content _ _
  have hCreate : create (.record f) capacity =
      .ok { format := f, shapes := start, index := start } := rfl
  obtain ⟨_, hTallies⟩ := create_tallies hCreate
  cases hTallies.format_eq
  refine ⟨_, hCreate, hTallies, rfl, ?_, ?_⟩
  · rw [List.nil_append, hContent]
    exact (List.append_nil _).symm
  · rw [List.nil_append, hContent]
    exact (List.append_nil _).symm

/-- A geometry that passes its check can be written. -/
theorem takes_of_check {w : ShapeWriter} {g : Geometry} (hCheck : w.check g = .ok ()) :
    w.format.Takes (some g) := by
  obtain ⟨length, hLength, _⟩ := bind_eq_ok hCheck
  exact ⟨length, hLength⟩

/-- The writer with one more record: a wider box, the numbers in front of the
record with its index entry, and the payload. -/
def add (w : ShapeWriter) (record : Option Geometry) (payload : List (List UInt8)) : ShapeWriter :=
  let headed := { w with bounds := RecordFormat.widen w.bounds record }.writeRecordHeader
    (w.format.storedWords record) (w.format.recordType record)
  { headed with shapes := headed.shapes.putAll payload }

/-- A geometry with a length is written: the payload cannot be refused any
more. -/
theorem write_eq_add {w : ShapeWriter} {g : Geometry} {length : Nat}
    (hLength : w.format.length g = .ok length) :
    ∃ payload, payload.flatten = w.format.recordPayload (some g) ∧
      w.write g = (.ok (), w.add (some g) payload) := by
  obtain ⟨puts, hPuts, _⟩ := RecordFormat.puts_of_length hLength
  have hPayload : w.format.recordPayload (some g) = puts.flatten := by
    rw [RecordFormat.recordPayload, RecordFormat.payload, hPuts]
    rfl
  have hWords : w.format.storedWords (some g) = contentWords length := by
    rw [RecordFormat.storedWords, hLength]
    rfl
  refine ⟨puts, hPayload.symm, ?_⟩
  rw [write, hLength, add, hWords]
  simp only [writeRecordHeader, hPuts]
  rfl

theorem writeNull_eq_add (w : ShapeWriter) : w.writeNull = w.add none [] := by
  rw [add, Staging.putAll, List.foldl_nil]
  rfl

/-- One more record is counted. -/
theorem Tallies.add {w : ShapeWriter} {f : RecordFormat} {records : List (Option Geometry)}
    (h : w.Tallies f records) {record : Option Geometry} (hTakes : f.Takes record)
    {payload : List (List UInt8)} (hPayload : payload.flatten = f.recordPayload record) :
    (w.add record payload).Tallies f (records ++ [record]) := by
  have hFormat := h.format_eq
  subst hFormat
  have hRecord := RecordFormat.length_recordBytes hTakes (records.length + 1)
    (w.format.storedWords record)
  refine ⟨h.format_eq, ?_, ?_, ?_, ?_⟩
  · intro other hOther
    rcases List.mem_append.mp hOther with hBefore | hLast
    · exact h.takes other hBefore
    · rw [List.mem_singleton.mp hLast]
      exact hTakes
  · rw [List.length_append, List.length_singleton, Int32.ofNat_add, ← h.count_eq]
    rfl
  · rw [RecordFormat.storedOffset_concat, ← h.offset_eq]
    rfl
  · rw [RecordFormat.wordOffset_concat]
    rw [RecordFormat.recordBytes] at hRecord
    simp only [ShapeWriter.add, writeRecordHeader, Staging.putAll_written, h.written_eq, hPayload]
    simp only [List.length_append, List.flatten_cons, List.flatten_nil, List.length_nil,
      ByteOrder.length_int32] at hRecord ⊢
    omega

/-- One more record extends both layouts by what belongs to it. -/
theorem Holds.add {w : ShapeWriter} {f : RecordFormat} {shapesSent indexSent : List UInt8}
    {records : List (Option Geometry)} (h : w.Holds f shapesSent indexSent records)
    {record : Option Geometry} (hTakes : f.Takes record) {payload : List (List UInt8)}
    (hPayload : payload.flatten = f.recordPayload record) :
    (w.add record payload).Holds f shapesSent indexSent (records ++ [record]) := by
  have hTallies := h.toTallies.add hTakes hPayload
  have hFormat := h.format_eq
  subst hFormat
  have hNumber : w.recordCount + 1 = Int32.ofNat (records.length + 1) := by
    rw [h.count_eq, Int32.ofNat_add]
    rfl
  refine ⟨hTallies, ?_, ?_, ?_⟩
  · rw [List.foldl_append, ← h.bounds_eq]
    rfl
  · rw [RecordFormat.recordsBytes_concat, ← List.append_assoc, ← h.shapes_eq]
    simp only [ShapeWriter.add, writeRecordHeader, Staging.putAll_content, hPayload, hNumber,
      RecordFormat.recordBytes]
    simp
  · rw [RecordFormat.entriesBytes_concat, ← List.append_assoc, ← h.index_eq]
    simp only [ShapeWriter.add, writeRecordHeader, Staging.putAll_content, h.offset_eq,
      RecordFormat.entryBytes]
    simp

/-- What a writer hands over is not part of its numbers. -/
theorem Tallies.collect {w : ShapeWriter} {f : RecordFormat} {records : List (Option Geometry)}
    (h : w.Tallies f records) :
    ({ w with shapes := w.shapes.collect.2, index := w.index.collect.2 } : ShapeWriter).Tallies f
      records :=
  ⟨h.format_eq, h.takes, h.count_eq, h.offset_eq, h.written_eq⟩

/-- Handing over what was sent changes nothing about the files. -/
theorem Holds.collect {w : ShapeWriter} {f : RecordFormat} {shapesSent indexSent : List UInt8}
    {records : List (Option Geometry)} (h : w.Holds f shapesSent indexSent records) :
    ({ w with shapes := w.shapes.collect.2, index := w.index.collect.2 } : ShapeWriter).Holds f
      (shapesSent ++ w.shapes.collect.1.flatten.toList)
      (indexSent ++ w.index.collect.1.flatten.toList) records := by
  refine ⟨h.toTallies.collect, h.bounds_eq, ?_, ?_⟩
  · rw [← h.shapes_eq, ← w.shapes.collect_content, Array.toList_append, List.append_assoc]
  · rw [← h.index_eq, ← w.index.collect_content, Array.toList_append, List.append_assoc]

/-- A geometry that the format refuses leaves the writer alone. -/
theorem write_refused {w : ShapeWriter} {g : Geometry} {e : ShapeError}
    (hLength : w.format.length g = .error e) : w.write g = (.error e, w) := by
  rw [write, hLength]

/-- The record of a call, if the format takes it. -/
def acceptedBy (f : RecordFormat) : Call → Option (Option Geometry)
  | .write g => (f.length g).toOption.map fun _ => some g
  | .check _ => none
  | .writeNull => some none

/-- A call succeeds and adds its record, or fails and changes nothing. -/
theorem Holds.perform {w : ShapeWriter} {f : RecordFormat} {shapesSent indexSent : List UInt8}
    {records : List (Option Geometry)} (h : w.Holds f shapesSent indexSent records) (call : Call) :
    ((w.perform call).1 = .ok () ∧ acceptedBy f call = call.record? ∧
      (w.perform call).2.Holds f shapesSent indexSent (records ++ call.record?.toList)) ∨
    (∃ e, w.perform call = (.error e, w) ∧ acceptedBy f call = none) := by
  cases call with
  | write g =>
      cases hLength : f.length g with
      | error e =>
          rw [← h.format_eq] at hLength
          refine Or.inr ⟨e, write_refused hLength, ?_⟩
          rw [acceptedBy, ← h.format_eq, hLength]
          rfl
      | ok length =>
          have hTakes : f.Takes (some g) := ⟨length, hLength⟩
          rw [← h.format_eq] at hLength
          obtain ⟨payload, hPayload, hWrite⟩ := write_eq_add hLength
          rw [h.format_eq] at hPayload hLength
          refine Or.inl ⟨congrArg Prod.fst hWrite, ?_, ?_⟩
          · rw [acceptedBy, hLength]
            rfl
          · rw [ShapeWriter.perform, hWrite]
            exact h.add hTakes hPayload
  | check g =>
      cases hCheck : w.check g with
      | error e => exact Or.inr ⟨e, congrArg (·, w) hCheck, rfl⟩
      | ok done =>
          refine Or.inl ⟨hCheck, rfl, ?_⟩
          rw [Call.record?, Option.toList_none, List.append_nil]
          exact h
  | writeNull =>
      have hTakes : f.Takes none := True.intro
      refine Or.inl ⟨rfl, rfl, ?_⟩
      rw [ShapeWriter.perform, writeNull_eq_add]
      exact h.add hTakes rfl

/-- After any calls the writer holds what it held and the records of those
that succeeded, which are those that the format takes. -/
theorem Holds.run {w : ShapeWriter} {f : RecordFormat} {shapesSent indexSent : List UInt8}
    {records : List (Option Geometry)} (h : w.Holds f shapesSent indexSent records)
    (calls : List Call) :
    (w.run calls).1 = calls.filterMap (acceptedBy f) ∧
      (w.run calls).2.Holds f shapesSent indexSent (records ++ (w.run calls).1) := by
  induction calls generalizing w records with
  | nil =>
      refine ⟨rfl, ?_⟩
      rw [ShapeWriter.run, List.append_nil]
      exact h
  | cons call calls ih =>
      rcases h.perform call with ⟨hOk, hAccepted, hNext⟩ | ⟨e, hRefused, hAccepted⟩
      · have hResult : w.perform call = (.ok (), (w.perform call).2) := Prod.ext hOk rfl
        obtain ⟨hRecords, hLast⟩ := ih hNext
        have hRun : w.run (call :: calls) =
            (call.record?.toList ++ ((w.perform call).2.run calls).1,
              ((w.perform call).2.run calls).2) := by
          rw [ShapeWriter.run, hResult]
        rw [hRun]
        refine ⟨?_, ?_⟩
        · simp only [hRecords, List.filterMap_cons, hAccepted]
          cases call.record? <;> rfl
        · rw [← List.append_assoc]
          exact hLast
      · have hRun : w.run (call :: calls) = w.run calls := by
          rw [ShapeWriter.run, hRefused]
        rw [hRun, List.filterMap_cons, hAccepted]
        exact ih h

end Shapefile.ShapeWriter
