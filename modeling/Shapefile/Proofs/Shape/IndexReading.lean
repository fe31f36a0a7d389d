import Shapefile.Proofs.Shape.IndexHistory
import Shapefile.Proofs.Shape.StoredWords

/-! An index opened on the index file of some records says where each of them
is. The entry that it keeps from one lookup to the next is always a true one,
so no order of lookups can be told from any other. -/
namespace Shapefile

namespace ShapeIndex

open Reading

/-- A word of the file, from its bytes there. -/
theorem wordAt_of_hasAt {channel : Bytes} {position : Nat} {n : Int32}
    (hBytes : channel.HasAt position (ByteOrder.big.int32 n)) :
    wordAt channel position = .ok n := by
  have hLength := ByteOrder.length_int32 .big n
  have hInside : position + 4 ≤ channel.size := by
    have hStop := hBytes.inside (by omega)
    omega
  have hSlice : (channel.extract position (position + 4)).toList = ByteOrder.big.int32 n := by
    rw [← hLength]
    exact hBytes.extract
  rw [wordAt, if_pos hInside, hSlice, ByteOrder.toInt32_int32]

/-- The entry of a record in the index file of some records. -/
theorem entryAt_indexFile {f : RecordFormat} {before later : List (Option Geometry)}
    {record : Option Geometry} {channel : Bytes} {count : Nat}
    (hChannel : channel.toList = f.indexFile (before ++ record :: later))
    (hCount : before.length < count) :
    entryAt channel count before.length =
      .ok (f.storedOffset before, f.storedWords record) := by
  have hPlace := RecordFormat.indexFile_hasAt f before later record hChannel
  have hWords := hPlace.right
  rw [ByteOrder.length_int32] at hWords
  have hNotPast : ¬count ≤ before.length := by omega
  rw [entryAt, if_neg hNotPast, entryPosition, wordAt_of_hasAt hPlace.left,
    wordAt_of_hasAt hWords]
  rfl

/-- The index is open on the index file of these records, and the entry it
keeps, if any, is that of its record. -/
structure Shows (index : ShapeIndex) (channel : Bytes) (f : RecordFormat)
    (records : List (Option Geometry)) : Prop where
  header_eq : index.header = f.indexHeader records
  views : index.window.Views channel
  order_eq : index.window.cursor.order = .big
  entry_eq : ∀ i, index.entry.index = some i → ∃ before record later,
    records = before ++ record :: later ∧ before.length = i ∧
      index.entry.offset = f.storedOffset before ∧
      index.entry.contentLength = f.storedWords record

/-- The index file of records can be opened. -/
theorem onChannel_shows {f : RecordFormat} {records : List (Option Geometry)} {channel : Bytes}
    (hChannel : channel.toList = f.indexFile records) (capacity : Nat) :
    ∃ index, onChannel channel capacity = .ok index ∧ index.Shows channel f records := by
  have hHeader : channel.HasAt 0 (f.indexHeader records).bytes := by
    rw [Bytes.HasAt, List.drop_zero, hChannel]
    exact List.prefix_append _ _
  have hProgram : Reads readHeader .big ((f.indexHeader records).bytes ++ ([] ++ [])) .big
      (f.indexHeader records) :=
    (ShapeHeader.reads_read rfl .big).bind ((Reads.setOrder .big .big).bind (Reads.done .big _))
  rw [List.append_nil, List.append_nil] at hProgram
  have hOpened := hProgram channel 0 hHeader
  rw [← Window.cursor_onChannel channel capacity] at hOpened
  obtain ⟨window, hRun, hCursor, hViews⟩ := (Window.views_onChannel channel capacity).run_ok hOpened
  refine ⟨{ header := f.indexHeader records, window }, ?_, rfl, hViews, ?_, ?_⟩
  · rw [onChannel, hRun]
  · rw [hCursor]
  · intro i hEntry
    cases hEntry

/-- The number of entries, if the index can say how long it is. -/
theorem Shows.recordCount_eq {index : ShapeIndex} {channel : Bytes} {f : RecordFormat}
    {records : List (Option Geometry)} (h : index.Shows channel f records)
    (hSmall : RecordFormat.indexBytes records < 2 ^ 31) :
    index.recordCount = records.length := by
  have hBytes : (f.indexHeader records).fileBytes = RecordFormat.indexBytes records :=
    (RecordFormat.fileBytes_indexHeader_eq_iff (by omega)).mpr hSmall
  rw [recordCount, h.header_eq, hBytes]
  simp only [RecordFormat.indexBytes, ShapeHeader.size, ShapeWriter.entrySize, entrySize]
  omega

/-- The entry that is kept is that of the file, too. -/
theorem Shows.truthful {index : ShapeIndex} {channel : Bytes} {f : RecordFormat}
    {records : List (Option Geometry)} (h : index.Shows channel f records)
    (hChannel : channel.toList = f.indexFile records)
    (hSmall : RecordFormat.indexBytes records < 2 ^ 31) : index.Truthful channel := by
  refine ⟨h.views, h.order_eq, fun i hKept => ?_⟩
  obtain ⟨before, record, later, rfl, rfl, hOffset, hWords⟩ := h.entry_eq i hKept
  rw [hOffset, hWords]
  apply entryAt_indexFile hChannel
  rw [h.recordCount_eq hSmall, List.length_append, List.length_cons]
  omega

/-- A lookup of a record that is there makes the kept entry its own. -/
theorem Shows.lookUp_eq {index : ShapeIndex} {channel : Bytes} {f : RecordFormat}
    {before later : List (Option Geometry)} {record : Option Geometry}
    (h : index.Shows channel f (before ++ record :: later))
    (hChannel : channel.toList = f.indexFile (before ++ record :: later))
    (hSmall : RecordFormat.indexBytes (before ++ record :: later) < 2 ^ 31) :
    (index.lookUp channel before.length).1 = .ok () ∧
      (index.lookUp channel before.length).2.Shows channel f (before ++ record :: later) ∧
      (index.lookUp channel before.length).2.entry.offset = f.storedOffset before ∧
      (index.lookUp channel before.length).2.entry.contentLength = f.storedWords record := by
  have hThere : before.length < index.recordCount := by
    rw [h.recordCount_eq hSmall, List.length_append, List.length_cons]
    omega
  have hEntry := entryAt_indexFile hChannel hThere
  obtain ⟨hFound, hNext, hHeader⟩ :=
    (h.truthful hChannel hSmall).lookUp (seamless_of_entryAt hEntry)
  rw [hEntry] at hFound
  have hKept := index_of_found hFound
  refine ⟨?_, ⟨hHeader.trans h.header_eq, hNext.views, hNext.order_eq, ?_⟩, ?_, ?_⟩
  · obtain ⟨_, hDone, _⟩ := map_eq_ok hFound
    exact hDone
  · intro i hIndex
    rw [hKept] at hIndex ⊢
    exact ⟨before, record, later, rfl, Option.some.inj hIndex, rfl, rfl⟩
  · rw [hKept]
  · rw [hKept]

/-- The byte offset of a record that is there is where the record starts, unless
a record before it is so long that the offset was stored as a negative one. -/
theorem Shows.byteOffset_eq {index : ShapeIndex} {channel : Bytes} {f : RecordFormat}
    {before later : List (Option Geometry)} {record : Option Geometry}
    (h : index.Shows channel f (before ++ record :: later))
    (hChannel : channel.toList = f.indexFile (before ++ record :: later))
    (hSmall : RecordFormat.indexBytes (before ++ record :: later) < 2 ^ 31)
    (hTakes : ∀ other ∈ before, f.Takes other) (hBefore : f.wordOffset before < 2 ^ 31) :
    (index.byteOffset channel before.length).1 =
        (if ∀ other ∈ before, f.Narrow other then .ok (2 * f.wordOffset before)
        else .error (.malformed (.negativeOffset before.length (f.storedOffset before)))) ∧
      (index.byteOffset channel before.length).2.Shows channel f (before ++ record :: later) := by
  obtain ⟨hFound, hShows, hOffset, _⟩ := h.lookUp_eq hChannel hSmall
  have hValue := RecordFormat.toInt_storedOffset hTakes hBefore
  have hZero : (0 : Int32).toInt = 0 := rfl
  refine ⟨?_, hShows⟩
  simp only [byteOffset, offset, hFound, hOffset, Except.map, Except.bind, Int32.lt_iff_toInt_lt,
    hZero]
  by_cases hNarrow : ∀ other ∈ before, f.Narrow other
  · rw [if_pos hNarrow] at hValue
    rw [if_pos hNarrow, hValue, if_neg (Int.not_lt.mpr (Int.natCast_nonneg _)), Int.toNat_natCast,
      Nat.mul_comm]
  · rw [if_neg hNarrow] at hValue
    rw [if_neg hNarrow, if_pos (by omega)]

/-- Whatever is looked up, there or not, the index stays a true one. -/
theorem Shows.byteOffset_shows {index : ShapeIndex} {channel : Bytes} {f : RecordFormat}
    {records : List (Option Geometry)} (h : index.Shows channel f records)
    (hChannel : channel.toList = f.indexFile records)
    (hSmall : RecordFormat.indexBytes records < 2 ^ 31) (row : Nat) :
    (index.byteOffset channel row).2.Shows channel f records := by
  cases hRow : records[row]? with
  | some record =>
      obtain ⟨before, later, rfl, rfl⟩ := List.exists_split_at hRow
      exact (h.lookUp_eq hChannel hSmall).2.1
  | none =>
      have hPast := List.getElem?_eq_none_iff.mp hRow
      have hCount := h.recordCount_eq hSmall
      have hOther : index.entry.index ≠ some row := by
        intro hKept
        obtain ⟨before, record, later, rfl, rfl, _⟩ := h.entry_eq row hKept
        rw [List.length_append, List.length_cons] at hPast
        omega
      have hStays : (index.lookUp channel row).2 = index := by
        rw [lookUp, if_neg hOther, if_pos (by omega)]
      simp only [byteOffset, offset, hStays]
      exact h

end ShapeIndex

end Shapefile
