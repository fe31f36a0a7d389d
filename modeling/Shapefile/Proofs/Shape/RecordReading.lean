import Shapefile.Shape.Reader
import Shapefile.Proofs.Shape.RecordLayout
import Shapefile.Proofs.Shape.RecordRoundTrip
import Shapefile.Proofs.Storage.WindowView

/-! A reader opened on the shape file of some records gives each of them
back, in any order and any number of times, through a window of any size. -/
namespace Shapefile

namespace RecordFormat

/-- What reading gives on the bytes that writing gives, with nothing else in
the channel. -/
def readPayload (f : RecordFormat) (g : Geometry) : Except ShapeError (Option Geometry) := do
  let bytes ← f.payload g
  ((f.read (.record f)).onBytes bytes.toArray ⟨0, .little⟩).1

/-- What a reader of the file gives for a record. -/
def readRecord (f : RecordFormat) : Option Geometry → Except ShapeError (Option Geometry)
  | none => .ok none
  | some g => f.readPayload g

open Reading

theorem recordPayload_of_puts {f : RecordFormat} {g : Geometry} {puts : List (List UInt8)}
    (hPuts : f.puts g = .ok puts) : f.recordPayload (some g) = puts.flatten := by
  rw [recordPayload, payload, hPuts]
  rfl

theorem Takes.recordPayload_eq {f : RecordFormat} {g : Geometry} (hTakes : f.Takes (some g)) :
    ∃ puts, f.puts g = .ok puts ∧ f.recordPayload (some g) = puts.flatten := by
  obtain ⟨length, hTaken⟩ := hTakes
  obtain ⟨puts, hPuts, _⟩ := puts_of_length hTaken
  exact ⟨puts, hPuts, recordPayload_of_puts hPuts⟩

/-- A payload of few enough points and parts is read as the shape that the
format gives back for it. -/
theorem reads_puts {f : RecordFormat} {g : Geometry} {puts : List (List UInt8)}
    (hPuts : f.puts g = .ok puts) (hCounts : g.Countable) :
    Reads (f.read (.record f)) .little puts.flatten .little
      (some { shape := f.readBack g.shape }) := by
  have hRead : Reads (f.read (.record f)) .little (puts.flatten ++ []) .little
      (some { shape := f.readBack g.shape }) :=
    (reads_readShape hPuts hCounts).bind (Reads.done .little _)
  rwa [List.append_nil] at hRead

/-- So is one that fits a file. -/
theorem reads_payload {f : RecordFormat} {g : Geometry} (hTakes : f.Takes (some g))
    (hLength : (f.recordPayload (some g)).length < 2 ^ 32) :
    Reads (f.read (.record f)) .little (f.recordPayload (some g)) .little
      (some { shape := f.readBack g.shape }) := by
  obtain ⟨puts, hPuts, hPayload⟩ := hTakes.recordPayload_eq
  rw [hPayload] at hLength ⊢
  exact reads_puts hPuts (countable_of_puts hPuts hLength)

/-- Reading a payload on its own gives the shape, too. -/
theorem readPayload_of_countable {f : RecordFormat} {g : Geometry} {puts : List (List UInt8)}
    (hPuts : f.puts g = .ok puts) (hCounts : g.Countable) :
    f.readPayload g = .ok (some { shape := f.readBack g.shape }) := by
  have hPayload : f.payload g = .ok puts.flatten := by
    rw [payload, hPuts]
    rfl
  have hAlone : Bytes.HasAt puts.flatten.toArray 0 puts.flatten := List.prefix_refl _
  rw [readPayload, hPayload]
  exact congrArg Prod.fst (reads_puts hPuts hCounts _ 0 hAlone)

/-- Reading a payload on its own gives the same as reading it in a file. -/
theorem readPayload_eq {f : RecordFormat} {g : Geometry} (hTakes : f.Takes (some g))
    (hLength : (f.recordPayload (some g)).length < 2 ^ 32) :
    f.readPayload g = .ok (some { shape := f.readBack g.shape }) := by
  obtain ⟨puts, hPuts, hPayload⟩ := hTakes.recordPayload_eq
  rw [hPayload] at hLength
  exact readPayload_of_countable hPuts (countable_of_puts hPuts hLength)

/-- Reading a record behind its number and its length. -/
theorem reads_record {f : RecordFormat} {record : Option Geometry} (hTakes : f.Takes record)
    (hLength : (f.recordPayload record).length < 2 ^ 32) (order : ByteOrder)
    (number offset : Nat) (words : Int32) :
    Reads ((Reading.skip ShapeReader.recordHeaderSize).bind fun _ =>
        (Reading.setOrder .little).bind fun _ => Reading.int32.bind fun id =>
          match ShapeType.ofId? id with
          | none => .fail (.malformed (.recordType offset id))
          | some recordType =>
            if recordType ≠ .null ∧ recordType ≠ .record f then
              .fail (.malformed (.typeChanged (.record f) recordType))
            else f.read recordType)
      order (f.recordBytes number words record) .little
      (record.map fun g => { shape := f.readBack g.shape }) := by
  have hHeader : (ByteOrder.big.int32 (Int32.ofNat number) ++
      ByteOrder.big.int32 words).length = ShapeReader.recordHeaderSize := by
    simp [ShapeReader.recordHeaderSize]
  have hRead : Reads (f.read (f.recordType record)) .little (f.recordPayload record) .little
      (record.map fun g => { shape := f.readBack g.shape }) := by
    cases record with
    | none => exact Reads.done .little none
    | some g => exact reads_payload hTakes hLength
  have hSame : ¬(f.recordType record ≠ .null ∧ f.recordType record ≠ .record f) := by
    cases record with
    | none => simp [recordType]
    | some g => simp [recordType]
  have hBytes : f.recordBytes number words record =
      (ByteOrder.big.int32 (Int32.ofNat number) ++ ByteOrder.big.int32 words) ++
        ([] ++ (ByteOrder.little.int32 (Int32.ofNat (f.recordType record).id) ++
          f.recordPayload record)) := by
    rw [recordBytes, List.append_assoc, List.nil_append]
  rw [hBytes]
  refine (Reads.skip order hHeader).bind ((Reads.setOrder order .little).bind
    ((Reads.int32 .little _).bind ?_))
  rw [ShapeType.ofId?_id]
  simp only [if_neg hSame]
  exact hRead

end RecordFormat

namespace ShapeReader

open Reading

/-- The reader is open on a file of this format. -/
structure Shows (r : ShapeReader) (channel : Bytes) (f : RecordFormat) : Prop where
  type_eq : r.header.shapeType = .record f
  format_eq : r.format = f
  views : r.window.Views channel

/-- The shape file of records can be opened. -/
theorem onChannel_shows {f : RecordFormat} {records : List (Option Geometry)} {channel : Bytes}
    (hChannel : channel.toList = f.shapesFile records) (capacity : Nat) :
    ∃ r, onChannel channel capacity = .ok r ∧ r.Shows channel f := by
  have hHeader : channel.HasAt 0 (f.shapesHeader records).bytes := by
    rw [Bytes.HasAt, List.drop_zero, hChannel]
    exact List.prefix_append _ _
  have hProgram : Reads readHeader .big ((f.shapesHeader records).bytes ++ []) .big
      (f.shapesHeader records, f) :=
    (ShapeHeader.reads_read rfl .big).bind (Reads.done .big _)
  rw [List.append_nil] at hProgram
  have hOpened := hProgram channel 0 hHeader
  rw [← Window.cursor_onChannel channel capacity] at hOpened
  obtain ⟨window, hRun, _, hViews⟩ := (Window.views_onChannel channel capacity).run_ok hOpened
  refine ⟨⟨f.shapesHeader records, f, window⟩, ?_, rfl, rfl, hViews⟩
  rw [onChannel, hRun]

/-- Whatever was asked for, the reader stays open on the file. -/
theorem Shows.geometryAt_shows {r : ShapeReader} {channel : Bytes} {f : RecordFormat}
    (h : r.Shows channel f) (offset : Nat) : (r.geometryAt channel offset).2.Shows channel f :=
  ⟨h.type_eq, h.format_eq,
    (h.views.run_eq (readRecord r.header.shapeType r.format offset)).2.2⟩

/-- At its offset, a record is read as what the format gives back for it. -/
theorem Shows.geometryAt_eq {r : ShapeReader} {channel : Bytes} {f : RecordFormat}
    (h : r.Shows channel f) {before later : List (Option Geometry)} {record : Option Geometry}
    (hTakes : ∀ other ∈ before ++ record :: later, f.Takes other)
    (hChannel : channel.toList = f.shapesFile (before ++ record :: later))
    (hSize : channel.size < 2 ^ 32) :
    (r.geometryAt channel (2 * f.wordOffset before)).1 = f.readRecord record := by
  have hTaken : f.Takes record := hTakes record (by simp)
  have hBefore : ∀ other ∈ before, f.Takes other :=
    fun other hOther => hTakes other (List.mem_append_left _ hOther)
  have hPlace := RecordFormat.shapesFile_hasAt hBefore hChannel
  have hShort : (f.recordPayload record).length < 2 ^ 32 := by
    apply Nat.lt_of_le_of_lt (RecordFormat.length_recordPayload_le hTakes)
    rwa [← hChannel, Array.length_toList]
  have hValue : f.readRecord record =
      .ok (record.map fun g => { shape := f.readBack g.shape }) := by
    cases record with
    | none => rfl
    | some g => exact RecordFormat.readPayload_eq hTaken hShort
  have hReads := RecordFormat.reads_record hTaken hShort r.window.cursor.order (before.length + 1)
    (2 * f.wordOffset before) (f.storedWords record) channel _ hPlace
  have hResult := (h.views.run_eq
    (readRecord r.header.shapeType r.format (2 * f.wordOffset before))).1
  rw [hValue]
  apply hResult.trans
  rw [h.type_eq, h.format_eq]
  exact congrArg Prod.fst hReads

end ShapeReader

end Shapefile
