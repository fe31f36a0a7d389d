import Shapefile.Proofs.Shape.IndexReading
import Shapefile.Proofs.Shape.RecordReading
import Shapefile.Proofs.Shape.WriterRun
import Shapefile.Proofs.Storage.FileContent

/-! The two files of a closed writer. They are the layout of the records that
were accepted, and readers of any window size find every record in the shape
file. What is stored about them there and in the index, and what the header of
the index says, is right as long as lengths in bytes are signed words. -/
namespace Shapefile

/-- What a closed writer of these records leaves: both layouts, with their
headers. -/
structure RecordFormat.Closes (f : RecordFormat) (records : List (Option Geometry))
    (closed : ClosedShapes) : Prop where
  takes : ∀ record ∈ records, f.Takes record
  shapes_eq : closed.shapesFile.toList = f.shapesFile records
  index_eq : closed.indexFile.toList = f.indexFile records
  shapesHeader_eq : closed.shapesHeader = f.shapesHeader records
  indexHeader_eq : closed.indexHeader = f.indexHeader records

namespace ShapeWriter

/-- Closing makes up the final headers. -/
theorem Holds.close_headers {w : ShapeWriter} {f : RecordFormat} {shapesSent indexSent : List UInt8}
    {records : List (Option Geometry)} (h : w.Holds f shapesSent indexSent records) :
    w.close.shapesHeader = f.shapesHeader records ∧
      w.close.indexHeader = f.indexHeader records := by
  have hWords : w.shapes.written / 2 = f.wordOffset records := by
    rw [h.written_eq]
    omega
  have hBounds : w.bounds.getD .zero = RecordFormat.boundsOf records := by
    rw [h.bounds_eq]
    rfl
  have hType : w.shapeType = .record f := by
    rw [shapeType, h.format_eq]
  constructor
  · simp only [close, hWords, hBounds, hType]
    rfl
  · simp only [close, h.count_eq, hBounds, hType, RecordFormat.indexHeader,
      RecordFormat.indexBytes, Int32.ofNat_add, Int32.ofNat_mul]
    rfl

/-- What a closed writer has sent completes both files up to their headers. -/
theorem Holds.close_sent {w : ShapeWriter} {f : RecordFormat} {shapesSent indexSent : List UInt8}
    {records : List (Option Geometry)} (h : w.Holds f shapesSent indexSent records) :
    shapesSent ++ w.close.shapes.sent.flatten.toList =
        (provisional f).bytes ++ f.recordsBytes records ∧
      indexSent ++ w.close.index.sent.flatten.toList =
        (provisional f).bytes ++ f.entriesBytes records := by
  have hShapes : w.close.shapes.sent.flatten = w.shapes.content := w.shapes.flush_sent
  have hIndex : w.close.index.sent.flatten = w.index.content := w.index.flush_sent
  rw [hShapes, hIndex]
  exact ⟨h.shapes_eq, h.index_eq⟩

/-- The final headers take the place of the provisional ones. -/
theorem length_header (header : ShapeHeader) (f : RecordFormat) :
    header.bytes.length = (provisional f).bytes.length := by
  rw [ShapeHeader.length_bytes, ShapeHeader.length_bytes]

/-- The files of a writer from which nothing was handed over before. -/
theorem Holds.close_files {w : ShapeWriter} {f : RecordFormat} {records : List (Option Geometry)}
    (h : w.Holds f [] [] records) :
    w.close.shapesFile.toList = f.shapesFile records ∧
      w.close.indexFile.toList = f.indexFile records := by
  obtain ⟨hShapesHeader, hIndexHeader⟩ := h.close_headers
  obtain ⟨hShapes, hIndex⟩ := h.close_sent
  rw [List.nil_append] at hShapes hIndex
  constructor
  · rw [ClosedShapes.shapesFile, hShapesHeader]
    exact Bytes.overlay_start hShapes (length_header _ f)
  · rw [ClosedShapes.indexFile, hIndexHeader]
    exact Bytes.overlay_start hIndex (length_header _ f)

/-- The writer is closed on its records. -/
theorem Holds.closes {w : ShapeWriter} {f : RecordFormat} {records : List (Option Geometry)}
    (h : w.Holds f [] [] records) : f.Closes records w.close :=
  ⟨h.takes, h.close_files.1, h.close_files.2, h.close_headers.1, h.close_headers.2⟩

end ShapeWriter

/-- An index after some lookups, whatever they gave. -/
def ShapeIndex.afterLookups (index : ShapeIndex) (channel : Bytes) (rows : List Nat) :
    ShapeIndex :=
  rows.foldl (fun index row => (index.byteOffset channel row).2) index

/-- A reader after some reads, whatever they gave. -/
def ShapeReader.afterReads (r : ShapeReader) (channel : Bytes) (offsets : List Nat) :
    ShapeReader :=
  offsets.foldl (fun r offset => (r.geometryAt channel offset).2) r

theorem ShapeReader.Shows.afterReads {r : ShapeReader} {channel : Bytes} {f : RecordFormat}
    (h : r.Shows channel f) (offsets : List Nat) :
    (r.afterReads channel offsets).Shows channel f := by
  induction offsets generalizing r with
  | nil => exact h
  | cons offset offsets ih => exact ih (h.geometryAt_shows offset)

theorem ShapeIndex.Shows.afterLookups {index : ShapeIndex} {channel : Bytes} {f : RecordFormat}
    {records : List (Option Geometry)} (h : index.Shows channel f records)
    (hChannel : channel.toList = f.indexFile records)
    (hSmall : RecordFormat.indexBytes records < 2 ^ 31) (rows : List Nat) :
    (index.afterLookups channel rows).Shows channel f records := by
  induction rows generalizing index with
  | nil => exact h
  | cons row rows ih => exact ih (h.byteOffset_shows hChannel hSmall row)

namespace RecordFormat

section Files

variable {f : RecordFormat} {records : List (Option Geometry)} {shapes index : Bytes}

/-- Every record stands where it should, with its stored length, and its entry
where the index has it. -/
theorem files_hasAt (hShapes : shapes.toList = f.shapesFile records)
    (hIndex : index.toList = f.indexFile records) (hTakes : ∀ record ∈ records, f.Takes record)
    {i : Nat} {record : Option Geometry} (hRecord : records[i]? = some record) :
    shapes.HasAt (2 * f.wordOffset (records.take i))
        (f.recordBytes (i + 1) (f.storedWords record) record) ∧
      index.HasAt (100 + i * 8)
        (entryBytes (f.storedOffset (records.take i)) (f.storedWords record)) := by
  obtain ⟨before, later, rfl, rfl⟩ := List.exists_split_at hRecord
  rw [List.take_left]
  have hBefore : ∀ other ∈ before, f.Takes other :=
    fun other hOther => hTakes other (List.mem_append_left _ hOther)
  exact ⟨shapesFile_hasAt hBefore hShapes, indexFile_hasAt f before later record hIndex⟩

/-- A reader finds each record where it stands, and what was written in it. The
index says where, unless a record before it is not narrow. -/
theorem record_found {opened : ShapeIndex} {reader : ShapeReader}
    (hOpened : opened.Shows index f records) (hReader : reader.Shows shapes f)
    (hIndex : index.toList = f.indexFile records) (hShapes : shapes.toList = f.shapesFile records)
    (hTakes : ∀ record ∈ records, f.Takes record) (hWords : f.wordOffset records < 2 ^ 31)
    (hEntries : indexBytes records < 2 ^ 31) {i : Nat} {record : Option Geometry}
    (hRecord : records[i]? = some record) :
    let offset := 2 * f.wordOffset (records.take i)
    (opened.byteOffset index i).1 =
      (if ∀ other ∈ records.take i, f.Narrow other then .ok offset
      else .error (.malformed (.negativeOffset i (f.storedOffset (records.take i))))) ∧
    let read := (reader.geometryAt shapes offset).1
    (record = none → read = .ok none) ∧
    ∀ g, record = some g → ∃ back, f.readPayload g = .ok (some back) ∧ read = .ok (some back) := by
  have hLength : (f.shapesFile records).length < 2 ^ 32 := by
    rw [length_shapesFile hTakes]
    omega
  have hSize : shapes.size < 2 ^ 32 := by
    rw [← Array.length_toList, hShapes]
    exact hLength
  have hBefore := Nat.lt_of_le_of_lt (f.wordOffset_take_le records i) hWords
  obtain ⟨before, later, rfl, rfl⟩ := List.exists_split_at hRecord
  have hGeometry := hReader.geometryAt_eq hTakes hShapes hSize
  rw [List.take_left] at hBefore ⊢
  have hTakesBefore : ∀ other ∈ before, f.Takes other :=
    fun other hOther => hTakes other (List.mem_append_left _ hOther)
  refine ⟨(hOpened.byteOffset_eq hIndex hEntries hTakesBefore hBefore).1, ?_, ?_⟩
  · rintro rfl
    exact hGeometry
  · rintro g rfl
    have hBack := readPayload_eq (hTakes (some g) (by simp))
      (Nat.lt_of_le_of_lt (length_recordPayload_le hTakes) hLength)
    exact ⟨_, hBack, hGeometry.trans hBack⟩

end Files

/-- The shape file, the index and both headers agree about these records. The
shape file is its header and then the records without a gap, each with its
length; the index is its header and an entry for each record, which says where
the record starts and how long it is; both headers say how long their files are
and have the same type and box. So every record is found through the index, and
read as what reading gives on the bytes that writing gives, for all sizes of
the windows and after any lookups and reads. -/
structure FilesAgree (f : RecordFormat) (records : List (Option Geometry))
    (closed : ClosedShapes) : Prop where
  shapes_eq : closed.shapesFile.toList = closed.shapesHeader.bytes ++
    (records.mapIdx fun i record =>
      f.recordBytes (i + 1) (Int32.ofNat (f.recordWords record)) record).flatten
  index_eq : closed.indexFile.toList = closed.indexHeader.bytes ++
    (records.mapIdx fun i record =>
      entryBytes (Int32.ofNat (f.wordOffset (records.take i)))
        (Int32.ofNat (f.recordWords record))).flatten
  index_size : closed.indexFile.size = 100 + 8 * records.length
  header_sizes : closed.shapesHeader.bytes.length = 100 ∧ closed.indexHeader.bytes.length = 100
  file_lengths : closed.shapesHeader.fileBytes = closed.shapesFile.size ∧
    closed.indexHeader.fileBytes = closed.indexFile.size
  types : closed.shapesHeader.shapeType = .record f ∧ closed.indexHeader.shapeType = .record f
  boxes : closed.shapesHeader.bounds = closed.indexHeader.bounds
  places : ∀ i record, records[i]? = some record →
    closed.shapesFile.HasAt (2 * f.wordOffset (records.take i))
      (f.recordBytes (i + 1) (Int32.ofNat (f.recordWords record)) record) ∧
    closed.indexFile.HasAt (100 + i * 8)
      (entryBytes (Int32.ofNat (f.wordOffset (records.take i)))
        (Int32.ofNat (f.recordWords record)))
  found : ∀ indexCapacity readCapacity, ∃ opened reader,
    ShapeIndex.onChannel closed.indexFile indexCapacity = .ok opened ∧
    ShapeReader.onChannel closed.shapesFile readCapacity = .ok reader ∧
    opened.recordCount = records.length ∧
    ∀ (lookups reads : List Nat) i record, records[i]? = some record →
      let offset := 2 * f.wordOffset (records.take i)
      ((opened.afterLookups closed.indexFile lookups).byteOffset closed.indexFile i).1 =
        .ok offset ∧
      let read := ((reader.afterReads closed.shapesFile reads).geometryAt
        closed.shapesFile offset).1
      (record = none → read = .ok none) ∧
      ∀ g, record = some g → ∃ back, f.readPayload g = .ok (some back) ∧ read = .ok (some back)

section Closed

variable {f : RecordFormat} {records : List (Option Geometry)} {closed : ClosedShapes}

theorem Closes.shapes_size (h : f.Closes records closed) :
    closed.shapesFile.size = 2 * f.wordOffset records := by
  rw [← Array.length_toList, h.shapes_eq, length_shapesFile h.takes]

theorem Closes.index_size (h : f.Closes records closed) :
    closed.indexFile.size = indexBytes records := by
  rw [← Array.length_toList, h.index_eq, length_indexFile]

/-- Narrow records are stored as they are. -/
theorem storedWords_of_narrow (hTakes : ∀ record ∈ records, f.Takes record)
    (hNarrow : ∀ record ∈ records, f.Narrow record) {record : Option Geometry}
    (hRecord : record ∈ records) : f.storedWords record = Int32.ofNat (f.recordWords record) := by
  have hSmall : f.recordWords record < 2 ^ 31 := by
    have hBytes : 2 * f.recordWords record < 2 ^ 31 := hNarrow record hRecord
    omega
  rw [← Int32.toInt_inj, toInt_storedWords (hTakes record hRecord) hSmall,
    if_pos (hNarrow record hRecord), Int32.toInt_ofNat_of_lt hSmall]

theorem storedOffset_of_narrow (hTakes : ∀ record ∈ records, f.Takes record)
    (hNarrow : ∀ record ∈ records, f.Narrow record) (hWords : f.wordOffset records < 2 ^ 31) :
    f.storedOffset records = Int32.ofNat (f.wordOffset records) := by
  rw [← Int32.toInt_inj, toInt_storedOffset hTakes hWords, if_pos hNarrow,
    Int32.toInt_ofNat_of_lt hWords]

/-- Files of narrow records agree, if the index can say how long it is. -/
theorem Closes.agree (h : f.Closes records closed) (hWords : f.wordOffset records < 2 ^ 31)
    (hNarrow : ∀ record ∈ records, f.Narrow record) (hEntries : indexBytes records < 2 ^ 31) :
    f.FilesAgree records closed := by
  have hStored {i : Nat} {record : Option Geometry} (hRecord : records[i]? = some record) :
      f.storedWords record = Int32.ofNat (f.recordWords record) ∧
        f.storedOffset (records.take i) = Int32.ofNat (f.wordOffset (records.take i)) := by
    refine ⟨storedWords_of_narrow h.takes hNarrow (List.mem_of_getElem? hRecord),
      storedOffset_of_narrow ?_ ?_ (Nat.lt_of_le_of_lt (f.wordOffset_take_le records i) hWords)⟩
    · exact fun other hOther => h.takes other (List.mem_of_mem_take hOther)
    · exact fun other hOther => hNarrow other (List.mem_of_mem_take hOther)
  refine ⟨?_, ?_, ?_, ⟨?_, ?_⟩, ⟨?_, ?_⟩, ?_, ?_, ?_, ?_⟩
  · rw [h.shapes_eq, h.shapesHeader_eq, shapesFile, recordsBytes]
    congr 2
    rw [List.mapIdx_eq_mapIdx_iff]
    intro i hInside
    rw [(hStored (List.getElem?_eq_getElem hInside)).1]
  · rw [h.index_eq, h.indexHeader_eq, indexFile, entriesBytes]
    congr 2
    rw [List.mapIdx_eq_mapIdx_iff]
    intro i hInside
    obtain ⟨hSame, hOffset⟩ := hStored (List.getElem?_eq_getElem hInside)
    rw [hSame, hOffset]
  · rw [h.index_size, indexBytes, Nat.mul_comm]
    rfl
  · exact ShapeHeader.length_bytes _
  · exact ShapeHeader.length_bytes _
  · rw [h.shapesHeader_eq, fileBytes_shapesHeader hWords, h.shapes_size]
  · rw [h.indexHeader_eq, h.index_size]
    exact (fileBytes_indexHeader_eq_iff (Nat.lt_trans hEntries (by decide))).mpr hEntries
  · rw [h.shapesHeader_eq, h.indexHeader_eq]
    exact ⟨rfl, rfl⟩
  · rw [h.shapesHeader_eq, h.indexHeader_eq]
    rfl
  · intro i record hRecord
    obtain ⟨hSame, hOffset⟩ := hStored hRecord
    have hPlaces := files_hasAt h.shapes_eq h.index_eq h.takes hRecord
    rwa [hSame, hOffset] at hPlaces
  · intro indexCapacity readCapacity
    obtain ⟨opened, hOpened, hIndexShows⟩ := ShapeIndex.onChannel_shows h.index_eq indexCapacity
    obtain ⟨reader, hReader, hReaderShows⟩ := ShapeReader.onChannel_shows h.shapes_eq readCapacity
    refine ⟨opened, reader, hOpened, hReader, hIndexShows.recordCount_eq hEntries, ?_⟩
    intro lookups reads i record hRecord
    obtain ⟨hOffset, hRead⟩ := record_found (hIndexShows.afterLookups h.index_eq hEntries lookups)
      (hReaderShows.afterReads reads) h.index_eq h.shapes_eq h.takes hWords hEntries hRecord
    rw [if_pos fun other hOther => hNarrow other (List.mem_of_mem_take hOther)] at hOffset
    exact ⟨hOffset, hRead⟩

/-- A record that is stored with its length is narrow. -/
theorem narrow_of_hasAt {shapes : Bytes} {place number : Nat} {record : Option Geometry}
    (hTakes : f.Takes record) (hSmall : f.recordWords record < 2 ^ 31)
    (hStored : shapes.HasAt place (f.recordBytes number (f.storedWords record) record))
    (hTrue : shapes.HasAt place
      (f.recordBytes number (Int32.ofNat (f.recordWords record)) record)) : f.Narrow record := by
  have hSame : f.recordBytes number (f.storedWords record) record =
      f.recordBytes number (Int32.ofNat (f.recordWords record)) record := by
    apply List.prefix_of_prefix_length_le hStored hTrue _ |>.eq_of_length
    all_goals simp only [length_recordBytes hTakes, le_refl]
  have hWords : f.storedWords record = Int32.ofNat (f.recordWords record) := by
    rw [recordBytes, recordBytes, List.append_left_inj, List.append_left_inj,
      List.append_right_inj] at hSame
    rw [← ByteOrder.toInt32_int32 .big (f.storedWords record), hSame, ByteOrder.toInt32_int32]
  have hValue := toInt_storedWords hTakes hSmall
  rw [hWords, Int32.toInt_ofNat_of_lt hSmall] at hValue
  by_contra hWide
  rw [if_neg hWide] at hValue
  omega

/-- Files that agree are of narrow records, and their index says how long it
is. -/
theorem FilesAgree.narrow (hAgree : f.FilesAgree records closed) (h : f.Closes records closed)
    (hWords : f.wordOffset records < 2 ^ 31) :
    (∀ record ∈ records, f.Narrow record) ∧ indexBytes records < 2 ^ 31 := by
  constructor
  · intro record hMember
    obtain ⟨i, hInside, rfl⟩ := List.getElem_of_mem hMember
    have hRecord := List.getElem?_eq_getElem hInside
    have hWhole : f.wordOffset (records.take (i + 1)) =
        f.wordOffset (records.take i) + f.recordWords records[i] +
          ShapeWriter.recordHeaderWords := by
      rw [← wordOffset_concat, List.take_concat_get']
    have hLess := f.wordOffset_take_le records (i + 1)
    exact narrow_of_hasAt (h.takes _ hMember) (by omega)
      (files_hasAt h.shapes_eq h.index_eq h.takes hRecord).1 (hAgree.places i _ hRecord).1
  · have hLength := hAgree.file_lengths.2
    rw [h.indexHeader_eq, h.index_size] at hLength
    exact (fileBytes_indexHeader_eq_iff (indexBytes_lt hWords)).mp hLength

end Closed

/-- A run of a writer leaves the same two files for all sizes of its staging
areas, with the records that were accepted. As long as the shape file is short
enough for its own header, the files agree exactly if no record has 2 ^ 31
bytes or more and the index has fewer than 2 ^ 31 bytes: lengths in bytes are
made signed words before they are halved. -/
theorem written_files_agree_iff (f : RecordFormat) (calls : List ShapeWriter.Call)
    (hWords : f.wordOffset (calls.filterMap (ShapeWriter.acceptedBy f)) < 2 ^ 31) :
    ∃ shapes index : Bytes, ∀ capacity, ∃ w,
      ShapeWriter.create (.record f) capacity = .ok w ∧
      let records := (w.run calls).1
      let closed := (w.run calls).2.close
      records = calls.filterMap (ShapeWriter.acceptedBy f) ∧
      closed.shapesFile = shapes ∧ closed.indexFile = index ∧
      shapes.size = 2 * f.wordOffset records ∧
      (f.FilesAgree records closed ↔
        (∀ record ∈ records, 2 * f.recordWords record < 2 ^ 31) ∧
          100 + 8 * records.length < 2 ^ 31) := by
  generalize hRecords : calls.filterMap (ShapeWriter.acceptedBy f) = records at hWords
  refine ⟨(f.shapesFile records).toArray, (f.indexFile records).toArray, fun capacity => ?_⟩
  obtain ⟨w, hCreate, hNew⟩ := ShapeWriter.create_holds f capacity
  obtain ⟨hAccepted, hLast⟩ := hNew.run calls
  rw [hRecords] at hAccepted
  rw [List.nil_append, hAccepted] at hLast
  have hClosed := hLast.closes
  have hEntries : indexBytes records = 100 + 8 * records.length := by
    rw [indexBytes, Nat.mul_comm]
    rfl
  refine ⟨w, hCreate, ?_⟩
  simp only [hAccepted]
  refine ⟨trivial, Array.toList_inj.mp hClosed.shapes_eq, Array.toList_inj.mp hClosed.index_eq,
    ?_, fun hAgree => ?_, fun hBounds => ?_⟩
  · rw [List.size_toArray, length_shapesFile hClosed.takes]
  · obtain ⟨hNarrow, hIndex⟩ := hAgree.narrow hClosed hWords
    exact ⟨hNarrow, hEntries ▸ hIndex⟩
  · exact hClosed.agree hWords hBounds.1 (hEntries ▸ hBounds.2)

/-- A run with a geometry, a null record, a check and a refused geometry. -/
def mixedCalls : List ShapeWriter.Call :=
  [.write { shape := .point ⟨absent, absent, absent⟩ }, .writeNull,
    .check { shape := .multiPoint [] }, .write { shape := .lineString [] }]

theorem written_files_agree_iff_mixed : ∃ shapes index : Bytes, ∀ capacity, ∃ w,
    ShapeWriter.create (.record ⟨.point, .measured⟩) capacity = .ok w ∧
      (w.run mixedCalls).2.close.shapesFile = shapes ∧
      (w.run mixedCalls).2.close.indexFile = index ∧ shapes.size = 148 ∧
      FilesAgree ⟨.point, .measured⟩ (w.run mixedCalls).1 (w.run mixedCalls).2.close := by
  obtain ⟨shapes, index, hFiles⟩ :=
    written_files_agree_iff ⟨.point, .measured⟩ mixedCalls (by decide +kernel)
  refine ⟨shapes, index, fun capacity => ?_⟩
  obtain ⟨w, hCreate, hRecords, hShapes, hIndex, hSize, hAgree⟩ := hFiles capacity
  refine ⟨w, hCreate, hShapes, hIndex, ?_, hAgree.mpr ?_⟩
  · rw [hSize, hRecords]
    decide +kernel
  · rw [hRecords]
    decide +kernel

/-- A geometry and a null record behind it. -/
def withNull (g : Geometry) : List ShapeWriter.Call := [.write g, .writeNull]

/-- The numbers that are stored for a geometry of 2147483688 bytes and for a
null record behind it. -/
theorem stored_of_length {f : RecordFormat} {g : Geometry}
    (hLength : f.length g = .ok 2147483688) :
    f.storedWords (some g) = -1073741804 ∧ f.wordOffset [some g] = 1073741898 ∧
      f.storedOffset [some g] = -1073741750 ∧ ¬f.Narrow (some g) ∧
      f.wordOffset [some g, none] < 2 ^ 31 ∧
      f.entriesBytes [some g, none] =
        entryBytes 50 (-1073741804) ++ entryBytes (-1073741750) 2 := by
  have hWords : f.recordWords (some g) = 1073741844 := by
    simp only [recordWords, hLength, Except.toOption, Option.getD_some]
  have hStored : f.storedWords (some g) = -1073741804 := by
    simp only [storedWords, hLength, Except.toOption, Option.getD_some]
    decide
  have hStart : f.wordOffset [some g] = 1073741898 := by
    simp only [wordOffset, List.map_cons, List.map_nil, List.sum_cons, List.sum_nil, hWords,
      ShapeHeader.size, ShapeWriter.recordHeaderWords, Nat.reduceDiv, Nat.reduceAdd]
  have hOffset : f.storedOffset [some g] = -1073741750 := by
    rw [storedOffset, List.foldl_cons, List.foldl_nil, hStored]
    decide
  have hEnd : f.wordOffset [some g, none] = f.wordOffset [some g] + 2 + 4 :=
    f.wordOffset_concat [some g] none
  have hFirst : f.entriesBytes [some g] =
      [] ++ entryBytes (f.storedOffset []) (f.storedWords (some g)) :=
    f.entriesBytes_concat [] (some g)
  have hEntries : f.entriesBytes [some g, none] = f.entriesBytes [some g] ++
      entryBytes (f.storedOffset [some g]) (f.storedWords none) :=
    f.entriesBytes_concat [some g] none
  rw [hFirst, List.nil_append, hStored, hOffset] at hEntries
  refine ⟨hStored, hStart, hOffset, ?_, by omega, hEntries⟩
  rw [Narrow, hWords]
  decide

/-- A geometry of 2147483688 bytes is stored with a length of -1073741804 words
and not 1073741844, and the null record behind it is stored to start at word
-1073741750 and not 1073741898, where it stands. The index gives it no place. -/
theorem disagree_of_length {f : RecordFormat} {g : Geometry}
    (hLength : f.length g = .ok 2147483688) (capacity : Nat) :
    ∃ w opened, ShapeWriter.create (.record f) capacity = .ok w ∧
      (w.run (withNull g)).1 = [some g, none] ∧
      let closed := (w.run (withNull g)).2.close
      ¬f.FilesAgree [some g, none] closed ∧
      closed.indexFile.toList = (f.indexHeader [some g, none]).bytes ++
        (entryBytes 50 (-1073741804) ++ entryBytes (-1073741750) 2) ∧
      ShapeIndex.onChannel closed.indexFile capacity = .ok opened ∧
      (opened.byteOffset closed.indexFile 1).1 =
        .error (.malformed (.negativeOffset 1 (-1073741750))) := by
  obtain ⟨_, hStart, hOffset, hWide, hTotal, hStored⟩ := stored_of_length hLength
  have hAccepted : (withNull g).filterMap (ShapeWriter.acceptedBy f) = [some g, none] := by
    have hWrite : ShapeWriter.acceptedBy f (.write g) = some (some g) := by
      rw [ShapeWriter.acceptedBy, hLength]
      rfl
    rw [withNull, List.filterMap_cons_some hWrite]
    rfl
  obtain ⟨w, hCreate, hNew⟩ := ShapeWriter.create_holds f capacity
  obtain ⟨hRecords, hLast⟩ := hNew.run (withNull g)
  rw [hAccepted] at hRecords
  rw [List.nil_append, hRecords] at hLast
  have hClosed := hLast.closes
  obtain ⟨opened, hOpened, hShows⟩ := ShapeIndex.onChannel_shows hClosed.index_eq capacity
  have hEntries : indexBytes [some g, none] < 2 ^ 31 := by
    simp only [indexBytes, List.length_cons, List.length_nil, ShapeHeader.size,
      ShapeWriter.entrySize]
    decide
  have hTakes : ∀ other ∈ [some g], f.Takes other :=
    fun other hOther => hClosed.takes other (List.mem_append_left [none] hOther)
  have hShows : opened.Shows _ f ([some g] ++ none :: []) := hShows
  have hFound := (hShows.byteOffset_eq hClosed.index_eq hEntries hTakes (by omega)).1
  rw [if_neg fun hNarrow => hWide (hNarrow _ (List.mem_singleton_self _)), hOffset] at hFound
  refine ⟨w, opened, hCreate, hRecords, fun hAgree => ?_, ?_, hOpened, hFound⟩
  · exact hWide ((hAgree.narrow hClosed hTotal).1 _ List.mem_cons_self)
  · rw [hClosed.index_eq, indexFile, hStored]

/-- Two to the 27 times the same point. -/
def manyPoints : Geometry :=
  { shape := .multiPoint (List.replicate (2 ^ 27) ⟨1, 2, absent⟩) }

theorem length_manyPoints : length ⟨.multiPoint, .plane⟩ manyPoints = .ok 2147483688 := by
  have hLength (cs : List Coordinate) : length ⟨.multiPoint, .plane⟩ { shape := .multiPoint cs } =
      .ok (40 + 16 * cs.length + 0) := rfl
  simp only [manyPoints, hLength, List.length_replicate, Nat.reducePow, Nat.reduceMul,
    Nat.reduceAdd]

theorem written_files_disagree :
    wordOffset ⟨.multiPoint, .plane⟩ [some manyPoints, none] < 2 ^ 31 ∧
    ∃ w opened, ShapeWriter.create (.record ⟨.multiPoint, .plane⟩) 512 = .ok w ∧
      (w.run (withNull manyPoints)).1 = [some manyPoints, none] ∧
      let closed := (w.run (withNull manyPoints)).2.close
      ¬FilesAgree ⟨.multiPoint, .plane⟩ [some manyPoints, none] closed ∧
      closed.indexFile.toList =
        (indexHeader ⟨.multiPoint, .plane⟩ [some manyPoints, none]).bytes ++
          (entryBytes 50 (-1073741804) ++ entryBytes (-1073741750) 2) ∧
      ShapeIndex.onChannel closed.indexFile 512 = .ok opened ∧
      (opened.byteOffset closed.indexFile 1).1 =
        .error (.malformed (.negativeOffset 1 (-1073741750))) :=
  ⟨(stored_of_length length_manyPoints).2.2.2.2.1, disagree_of_length length_manyPoints 512⟩

end RecordFormat

end Shapefile
