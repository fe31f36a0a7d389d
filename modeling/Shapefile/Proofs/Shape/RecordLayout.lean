import Mathlib.Data.List.Induction
import Shapefile.Shape.Index
import Shapefile.Shape.Writer
import Shapefile.Proofs.Shape.HeaderRoundTrip
import Shapefile.Proofs.Shape.RecordLength

/-! The bytes of a shape file and of its index, as functions of the records
alone. A record is a geometry, or nothing for a null record. Nothing here
mentions staging areas, offsets kept while writing, or windows. -/
namespace Shapefile.RecordFormat

/-- The format can write this record. -/
def Takes (f : RecordFormat) : Option Geometry → Prop
  | none => True
  | some g => ∃ length, f.length g = .ok length

/-- The words of a record behind its number and its length. -/
def recordWords (f : RecordFormat) : Option Geometry → Nat
  | none => ShapeWriter.nullWords
  | some g => (f.length g).toOption.getD 0 / 2

def recordType (f : RecordFormat) : Option Geometry → ShapeType
  | none => .null
  | some _ => .record f

def recordPayload (f : RecordFormat) : Option Geometry → List UInt8
  | none => []
  | some g => (f.payload g).toOption.getD []

/-- The words of a record as they are stored. -/
def storedWords (f : RecordFormat) : Option Geometry → Int32
  | none => Int32.ofNat ShapeWriter.nullWords
  | some g => ShapeWriter.contentWords ((f.length g).toOption.getD 0)

/-- A record with what stands in front of it. -/
def recordBytes (f : RecordFormat) (number : Nat) (words : Int32) (record : Option Geometry) :
    List UInt8 :=
  ByteOrder.big.int32 (Int32.ofNat number) ++ ByteOrder.big.int32 words ++
    ByteOrder.little.int32 (Int32.ofNat (f.recordType record).id) ++ f.recordPayload record

/-- Where a record behind these starts, in words. -/
def wordOffset (f : RecordFormat) (records : List (Option Geometry)) : Nat :=
  ShapeHeader.size / 2 +
    (records.map fun record => f.recordWords record + ShapeWriter.recordHeaderWords).sum

/-- Where a record behind these is stored to start. -/
def storedOffset (f : RecordFormat) (records : List (Option Geometry)) : Int32 :=
  records.foldl
    (fun offset record =>
      offset + (f.storedWords record + Int32.ofNat ShapeWriter.recordHeaderWords))
    (Int32.ofNat (ShapeHeader.size / 2))

/-- An index entry. -/
def entryBytes (offset words : Int32) : List UInt8 :=
  ByteOrder.big.int32 offset ++ ByteOrder.big.int32 words

/-- All records, numbered from one, with no gap between them. -/
def recordsBytes (f : RecordFormat) (records : List (Option Geometry)) : List UInt8 :=
  (records.mapIdx fun i record => f.recordBytes (i + 1) (f.storedWords record) record).flatten

/-- All index entries. -/
def entriesBytes (f : RecordFormat) (records : List (Option Geometry)) : List UInt8 :=
  (records.mapIdx fun i record =>
    entryBytes (f.storedOffset (records.take i)) (f.storedWords record)).flatten

/-- A box widened by the box of a record, if it has one. -/
def widen (bounds : Option Envelope) : Option Geometry → Option Envelope
  | none => bounds
  | some g => ShapeWriter.widened bounds g

/-- The box around all records; the zero box if none has one. -/
def boundsOf (records : List (Option Geometry)) : Envelope :=
  (records.foldl widen none).getD .zero

/-- The header of a file of these records that is stored to be this many words long. -/
def headerOf (f : RecordFormat) (words : Int32) (records : List (Option Geometry)) : ShapeHeader :=
  ShapeHeader.of (.record f) words (boundsOf records)

/-- Length of the index in bytes. -/
def indexBytes (records : List (Option Geometry)) : Nat :=
  ShapeHeader.size + records.length * ShapeWriter.entrySize

def shapesHeader (f : RecordFormat) (records : List (Option Geometry)) : ShapeHeader :=
  f.headerOf (Int32.ofNat (f.wordOffset records)) records

def indexHeader (f : RecordFormat) (records : List (Option Geometry)) : ShapeHeader :=
  f.headerOf (Int32.ofNat (indexBytes records) / 2) records

/-- The shape file of these records. -/
def shapesFile (f : RecordFormat) (records : List (Option Geometry)) : List UInt8 :=
  (f.shapesHeader records).bytes ++ f.recordsBytes records

/-- The index of these records. -/
def indexFile (f : RecordFormat) (records : List (Option Geometry)) : List UInt8 :=
  (f.indexHeader records).bytes ++ f.entriesBytes records

/-! ### Lengths and places -/

variable {f : RecordFormat}

/-- A record is as long as its words say. -/
theorem length_recordBytes {record : Option Geometry} (hTakes : f.Takes record) (number : Nat)
    (words : Int32) : (f.recordBytes number words record).length =
      2 * (f.recordWords record + ShapeWriter.recordHeaderWords) := by
  have hPayload : (f.recordPayload record).length + typeSize = 2 * f.recordWords record := by
    cases record with
    | none => rfl
    | some g =>
        obtain ⟨length, hLength⟩ := hTakes
        have hEven := length_mod_four hLength
        obtain ⟨puts, hPuts, hExact⟩ := puts_of_length hLength
        simp only [recordPayload, recordWords, payload, hPuts, hLength, Except.map,
          Except.toOption, Option.getD_some]
        omega
  simp only [recordBytes, List.length_append, ByteOrder.length_int32]
  simp only [typeSize, ShapeWriter.recordHeaderWords] at hPayload ⊢
  omega

theorem wordOffset_concat (f : RecordFormat) (records : List (Option Geometry))
    (record : Option Geometry) :
    f.wordOffset (records ++ [record]) =
      f.wordOffset records + f.recordWords record + ShapeWriter.recordHeaderWords := by
  simp only [wordOffset, List.map_append, List.map_cons, List.map_nil, List.sum_append,
    List.sum_cons, List.sum_nil]
  omega

theorem wordOffset_take_le (f : RecordFormat) (records : List (Option Geometry)) (i : Nat) :
    f.wordOffset (records.take i) ≤ f.wordOffset records := by
  have hSplit : f.wordOffset records = f.wordOffset (records.take i) +
      ((records.drop i).map fun record =>
        f.recordWords record + ShapeWriter.recordHeaderWords).sum := by
    rw [wordOffset, wordOffset, Nat.add_assoc, ← List.sum_append, ← List.map_append,
      List.take_append_drop]
  omega

theorem storedOffset_concat (f : RecordFormat) (records : List (Option Geometry))
    (record : Option Geometry) :
    f.storedOffset (records ++ [record]) = f.storedOffset records +
      (f.storedWords record + Int32.ofNat ShapeWriter.recordHeaderWords) := by
  rw [storedOffset, List.foldl_concat]
  rfl

theorem recordsBytes_concat (f : RecordFormat) (records : List (Option Geometry))
    (record : Option Geometry) :
    f.recordsBytes (records ++ [record]) =
      f.recordsBytes records ++
        f.recordBytes (records.length + 1) (f.storedWords record) record := by
  simp [recordsBytes]

theorem entriesBytes_concat (f : RecordFormat) (records : List (Option Geometry))
    (record : Option Geometry) :
    f.entriesBytes (records ++ [record]) =
      f.entriesBytes records ++
        entryBytes (f.storedOffset records) (f.storedWords record) := by
  have hFirst : records.mapIdx (fun i r =>
        entryBytes (f.storedOffset ((records ++ [record]).take i)) (f.storedWords r)) =
      records.mapIdx fun i r =>
        entryBytes (f.storedOffset (records.take i)) (f.storedWords r) := by
    rw [List.mapIdx_eq_mapIdx_iff]
    intro i hi
    rw [List.take_append_of_le_length (by omega)]
  rw [entriesBytes, List.mapIdx_concat, hFirst, List.flatten_append, List.flatten_singleton,
    List.take_left]
  rfl

/-- Records end where the next one would start. -/
theorem length_recordsBytes {records : List (Option Geometry)}
    (hTakes : ∀ record ∈ records, f.Takes record) :
    ShapeHeader.size + (f.recordsBytes records).length = 2 * f.wordOffset records := by
  induction records using List.reverseRecOn with
  | nil => rfl
  | append_singleton records record ih =>
      have hBefore := ih fun other hOther => hTakes other (List.mem_append_left _ hOther)
      have hLast := length_recordBytes (hTakes record (by simp)) (records.length + 1)
        (f.storedWords record)
      rw [recordsBytes_concat, List.length_append, hLast, wordOffset_concat]
      omega

theorem length_entriesBytes (f : RecordFormat) (records : List (Option Geometry)) :
    (f.entriesBytes records).length = ShapeWriter.entrySize * records.length := by
  induction records using List.reverseRecOn with
  | nil => rfl
  | append_singleton records record ih =>
      have hEntry : (entryBytes (f.storedOffset records) (f.storedWords record)).length =
          ShapeWriter.entrySize := by
        simp [entryBytes, ShapeWriter.entrySize]
      rw [entriesBytes_concat, List.length_append, ih, hEntry, List.length_append]
      rfl

/-- A record stands in the shape file behind the header and the records before it. -/
theorem shapesFile_hasAt {before later : List (Option Geometry)} {record : Option Geometry}
    (hTakes : ∀ other ∈ before, f.Takes other) {channel : Bytes}
    (hChannel : channel.toList = f.shapesFile (before ++ record :: later)) :
    channel.HasAt (2 * f.wordOffset before)
      (f.recordBytes (before.length + 1) (f.storedWords record) record) := by
  obtain ⟨after, hSplit⟩ := split_of_concat f.recordsBytes_concat before later record
  have hPlace : ((f.shapesHeader (before ++ record :: later)).bytes ++
      f.recordsBytes before).length = 2 * f.wordOffset before := by
    rw [List.length_append, ShapeHeader.length_bytes, length_recordsBytes hTakes]
  rw [← hPlace]
  apply Bytes.HasAt.of_toList _ after
  rw [hChannel, shapesFile, hSplit]
  simp only [List.append_assoc]

/-- A payload is no longer than its file. -/
theorem length_recordPayload_le {before later : List (Option Geometry)} {record : Option Geometry}
    (hTakes : ∀ other ∈ before ++ record :: later, f.Takes other) :
    (f.recordPayload record).length ≤ (f.shapesFile (before ++ record :: later)).length := by
  have hPlace : Bytes.HasAt (f.shapesFile (before ++ record :: later)).toArray
      (2 * f.wordOffset before)
      (f.recordBytes (before.length + 1) (f.storedWords record) record) :=
    shapesFile_hasAt (fun other hOther => hTakes other (List.mem_append_left _ hOther)) rfl
  have hLength := hPlace.length_le
  rw [recordBytes, List.length_append, List.size_toArray] at hLength
  omega

/-- An index entry stands behind the header and the entries before it. -/
theorem indexFile_hasAt (f : RecordFormat) (before later : List (Option Geometry))
    (record : Option Geometry) {channel : Bytes}
    (hChannel : channel.toList = f.indexFile (before ++ record :: later)) :
    channel.HasAt (ShapeHeader.size + before.length * ShapeIndex.entrySize)
      (entryBytes (f.storedOffset before) (f.storedWords record)) := by
  obtain ⟨after, hSplit⟩ := split_of_concat f.entriesBytes_concat before later record
  have hPlace : ((f.indexHeader (before ++ record :: later)).bytes ++
      f.entriesBytes before).length =
        ShapeHeader.size + before.length * ShapeIndex.entrySize := by
    rw [List.length_append, ShapeHeader.length_bytes, length_entriesBytes, Nat.mul_comm]
    rfl
  rw [← hPlace]
  apply Bytes.HasAt.of_toList _ after
  rw [hChannel, indexFile, hSplit]
  simp only [List.append_assoc]

theorem length_shapesFile {records : List (Option Geometry)}
    (hTakes : ∀ record ∈ records, f.Takes record) :
    (f.shapesFile records).length = 2 * f.wordOffset records := by
  rw [shapesFile, List.length_append, ShapeHeader.length_bytes, length_recordsBytes hTakes]

theorem length_indexFile (f : RecordFormat) (records : List (Option Geometry)) :
    (f.indexFile records).length = indexBytes records := by
  rw [indexFile, List.length_append, ShapeHeader.length_bytes, length_entriesBytes, indexBytes,
    Nat.mul_comm]

end Shapefile.RecordFormat
