import Shapefile.Shape.Index
import Shapefile.Proofs.Running
import Shapefile.Proofs.Storage.ReadingBack
import Shapefile.Proofs.Storage.WindowView

/-! Lookups in any index file, also one that ends before its header says. The
kept entry is filled word by word, so a lookup that fails between the words
leaves the offset of another record behind. Only a file that is cut inside the
second word of an entry can show this, and on every other file the history of
lookups is invisible. -/
namespace Shapefile.ShapeIndex

/-- What is asked of an index. -/
inductive Lookup where
  | offset (record : Nat)
  | byteOffset (record : Nat)
  | contentLength (record : Nat)

/-- What an index gives. -/
inductive Located where
  | words (n : Int32)
  | bytes (n : Nat)
deriving DecidableEq

def perform (index : ShapeIndex) (channel : Bytes) :
    Lookup → Except ShapeError Located × ShapeIndex
  | .offset record =>
    let (result, index) := index.offset channel record
    (result.map .words, index)
  | .byteOffset record =>
    let (result, index) := index.byteOffset channel record
    (result.map .bytes, index)
  | .contentLength record =>
    let (result, index) := index.contentLength channel record
    (result.map .words, index)

/-- The index after some lookups; their errors do not end the sequence. -/
def performAll (index : ShapeIndex) (channel : Bytes) (lookups : List Lookup) : ShapeIndex :=
  lookups.foldl (fun index lookup => (index.perform channel lookup).2) index

/-! ### Entries of the file itself -/

/-- Where the entry of a record stands. -/
def entryPosition (record : Nat) : Nat := ShapeHeader.size + record * entrySize

/-- The word at a position of the file. -/
def wordAt (channel : Bytes) (position : Nat) : Except ShapeError Int32 :=
  if position + 4 ≤ channel.size then
    .ok (ByteOrder.big.toInt32 (channel.extract position (position + 4)).toList)
  else .error (.storage (.pastEnd position 4 channel.size))

/-- Both words of an entry, of as many as the header declares. -/
def entryAt (channel : Bytes) (count record : Nat) : Except ShapeError (Int32 × Int32) :=
  if count ≤ record then .error (.malformed (.indexOutOfRange record count))
  else do
    let offset ← wordAt channel (entryPosition record)
    let contentLength ← wordAt channel (entryPosition record + 4)
    return (offset, contentLength)

/-- The file has the first word of the entry and ends before its second one
does. -/
def CutInside (channel : Bytes) (record : Nat) : Prop :=
  entryPosition record + 4 ≤ channel.size ∧ channel.size < entryPosition record + 8

/-- If the entry is one of those declared and is cut, every entry before it
has the same first word, so that the one cannot be mistaken for the other. -/
def Seamless (channel : Bytes) (count cut : Nat) : Prop :=
  cut < count → CutInside channel cut → ∀ record, record < cut →
    wordAt channel (entryPosition record) = wordAt channel (entryPosition cut)

theorem wordAt_of_inside {channel : Bytes} {position : Nat}
    (hInside : position + 4 ≤ channel.size) : ∃ word, wordAt channel position = .ok word :=
  ⟨_, if_pos hInside⟩

theorem wordAt_eq_ok {channel : Bytes} {position : Nat} {word : Int32}
    (hWord : wordAt channel position = .ok word) : position + 4 ≤ channel.size := by
  unfold wordAt at hWord
  split at hWord
  next hInside => exact hInside
  next => cases hWord

theorem wordAt_eq_error {channel : Bytes} {position : Nat} {e : ShapeError}
    (hWord : wordAt channel position = .error e) : channel.size < position + 4 := by
  unfold wordAt at hWord
  split at hWord
  next => cases hWord
  next hPast => omega

theorem entryAt_eq_ok {channel : Bytes} {count record : Nat} {offset contentLength : Int32}
    (hEntry : entryAt channel count record = .ok (offset, contentLength)) :
    record < count ∧ wordAt channel (entryPosition record) = .ok offset ∧
      wordAt channel (entryPosition record + 4) = .ok contentLength := by
  unfold entryAt at hEntry
  by_cases hPast : count ≤ record
  · rw [if_pos hPast] at hEntry
    cases hEntry
  · rw [if_neg hPast] at hEntry
    obtain ⟨first, hFirst, hRest⟩ := bind_eq_ok hEntry
    obtain ⟨second, hSecond, hBoth⟩ := bind_eq_ok hRest
    cases hBoth
    exact ⟨by omega, hFirst, hSecond⟩

/-- Where a file can be cut, no later entry is complete. -/
theorem lt_of_cutInside {channel : Bytes} {count record cut : Nat} {entry : Int32 × Int32}
    (hEntry : entryAt channel count record = .ok entry) (hCut : CutInside channel cut) :
    record < cut := by
  have hInside := wordAt_eq_ok (entryAt_eq_ok hEntry).2.2
  have hEnd := hCut.2
  simp only [entryPosition, entrySize] at hInside hEnd
  omega

/-- An entry before a cut one is complete. -/
theorem entryAt_of_before {channel : Bytes} {count record cut : Nat} (hBefore : record < cut)
    (hThere : cut < count) (hCut : CutInside channel cut) :
    ∃ entry, entryAt channel count record = .ok entry := by
  have hStart := hCut.1
  simp only [entryPosition, entrySize] at hStart
  obtain ⟨offset, hOffset⟩ : ∃ word, wordAt channel (entryPosition record) = .ok word := by
    apply wordAt_of_inside
    simp only [entryPosition, entrySize]
    omega
  obtain ⟨contentLength, hLength⟩ :
      ∃ word, wordAt channel (entryPosition record + 4) = .ok word := by
    apply wordAt_of_inside
    simp only [entryPosition, entrySize]
    omega
  refine ⟨(offset, contentLength), ?_⟩
  rw [entryAt, if_neg (by omega), hOffset, hLength]
  rfl

/-- A complete entry is not cut. -/
theorem seamless_of_entryAt {channel : Bytes} {count record : Nat} {entry : Int32 × Int32}
    (hEntry : entryAt channel count record = .ok entry) : Seamless channel count record :=
  fun _ hCut => absurd (lt_of_cutInside hEntry hCut) (Nat.lt_irrefl record)

/-! ### What the kept entry stands for -/

/-- The kept entry, if any, is the entry of its record in the file. -/
structure Truthful (index : ShapeIndex) (channel : Bytes) : Prop where
  views : index.window.Views channel
  order_eq : index.window.cursor.order = .big
  entry_eq : ∀ record, index.entry.index = some record →
    entryAt channel index.recordCount record =
      .ok (index.entry.offset, index.entry.contentLength)

/-- What a lookup finds: both words of the entry kept after it. -/
def found (index : ShapeIndex) (channel : Bytes) (record : Nat) :
    Except ShapeError (Int32 × Int32) :=
  let (result, index) := index.lookUp channel record
  result.map fun _ => (index.entry.offset, index.entry.contentLength)

theorem lookUp_kept {index : ShapeIndex} {record : Nat}
    (hKept : index.entry.index = some record) (channel : Bytes) :
    index.lookUp channel record = (.ok (), index) :=
  if_pos hKept

/-- The entry found is the one kept from then on. -/
theorem index_of_found {index : ShapeIndex} {channel : Bytes} {record : Nat}
    {entry : Int32 × Int32} (hFound : index.found channel record = .ok entry) :
    (index.lookUp channel record).2.entry = ⟨some record, entry.1, entry.2⟩ := by
  unfold found lookUp at hFound
  unfold lookUp
  by_cases hKept : index.entry.index = some record
  · rw [if_pos hKept] at hFound ⊢
    cases hFound
    rw [← hKept]
  by_cases hPast : index.recordCount ≤ record
  · rw [if_neg hKept, if_pos hPast] at hFound
    cases hFound
  rw [if_neg hKept, if_neg hPast] at hFound ⊢
  simp only at hFound ⊢
  split at hFound
  next => cases hFound
  next offset middle hFirst =>
    split at hFound
    next => cases hFound
    next contentLength last hSecond =>
      cases hFound
      rfl

/-- A word read through the window is the word of the file. -/
theorem run_word {window : Window} {channel : Bytes} (hViews : window.Views channel)
    (hOrder : window.cursor.order = .big) (position : Nat) :
    ∃ next, window.run channel (Reading.int32At position : Reading ShapeError Int32) =
        (wordAt channel position, next) ∧
      next.Views channel ∧ next.cursor.order = .big := by
  obtain ⟨hResult, hCursor, hNext⟩ :=
    hViews.run_eq (Reading.int32At position : Reading ShapeError Int32)
  have hWord : (Reading.int32At position : Reading ShapeError Int32).onBytes channel
      window.cursor = (wordAt channel position, window.cursor) := by
    simp only [Reading.int32At, Reading.numberAt, Reading.onBytes, wordAt, hOrder]
    split
    · rfl
    · rfl
  rw [hWord] at hResult hCursor
  refine ⟨_, Prod.ext hResult rfl, hNext, ?_⟩
  rw [hCursor]
  exact hOrder

/-- A lookup that has to go to the file, by the words that it gets there. -/
theorem Truthful.lookUp_eq {index : ShapeIndex} {channel : Bytes} (h : index.Truthful channel)
    {record : Nat} (hOther : index.entry.index ≠ some record)
    (hThere : record < index.recordCount) :
    ∃ window : Window, window.Views channel ∧ window.cursor.order = .big ∧
      index.lookUp channel record =
        match wordAt channel (entryPosition record) with
        | .error e => (.error e, { index with window })
        | .ok offset =>
          match wordAt channel (entryPosition record + 4) with
          | .error e => (.error e, { index with window, entry.offset := offset })
          | .ok contentLength =>
            (.ok (), { index with window, entry := ⟨some record, offset, contentLength⟩ }) := by
  obtain ⟨middle, hFirst, hMiddle, hMiddleOrder⟩ :=
    run_word h.views h.order_eq (entryPosition record)
  obtain ⟨last, hSecond, hLast, hLastOrder⟩ :=
    run_word hMiddle hMiddleOrder (entryPosition record + 4)
  have hInside : ¬index.recordCount ≤ record := by omega
  rw [entryPosition] at hFirst hSecond
  simp only [lookUp, if_neg hOther, if_neg hInside, entryPosition, hFirst]
  cases hOffset : wordAt channel (ShapeHeader.size + record * entrySize) with
  | error e => exact ⟨middle, hMiddle, hMiddleOrder, rfl⟩
  | ok offset =>
      refine ⟨last, hLast, hLastOrder, ?_⟩
      simp only [hSecond]
      cases wordAt channel (ShapeHeader.size + record * entrySize + 4) with
      | error e => rfl
      | ok contentLength => rfl

/-- One lookup finds the entry of the file, and the index stays truthful,
unless the entry is cut and differs from one before it. -/
theorem Truthful.lookUp {index : ShapeIndex} {channel : Bytes} (h : index.Truthful channel)
    {record : Nat} (hSeamless : Seamless channel index.recordCount record) :
    index.found channel record = entryAt channel index.recordCount record ∧
      (index.lookUp channel record).2.Truthful channel ∧
      (index.lookUp channel record).2.header = index.header := by
  by_cases hKept : index.entry.index = some record
  · simp only [found, ShapeIndex.lookUp, if_pos hKept]
    exact ⟨(h.entry_eq record hKept).symm, h, trivial⟩
  by_cases hPast : index.recordCount ≤ record
  · simp only [found, ShapeIndex.lookUp, if_neg hKept, if_pos hPast, entryAt]
    exact ⟨rfl, h, trivial⟩
  obtain ⟨window, hViews, hOrder, hLookUp⟩ := h.lookUp_eq hKept (by omega)
  simp only [found, hLookUp, entryAt, if_neg hPast]
  cases hFirst : wordAt channel (entryPosition record) with
  | error e => exact ⟨rfl, ⟨hViews, hOrder, h.entry_eq⟩, rfl⟩
  | ok offset =>
      cases hSecond : wordAt channel (entryPosition record + 4) with
      | error e =>
          have hCut : CutInside channel record :=
            ⟨wordAt_eq_ok hFirst, wordAt_eq_error hSecond⟩
          refine ⟨rfl, ⟨hViews, hOrder, fun kept hIndex => ?_⟩, rfl⟩
          -- The kept entry now has the first word of the cut one, which is its own.
          have hEntry := h.entry_eq kept hIndex
          have hSame := hSeamless (by omega) hCut kept (lt_of_cutInside hEntry hCut)
          rw [(entryAt_eq_ok hEntry).2.1, hFirst] at hSame
          cases hSame
          exact hEntry
      | ok contentLength =>
          refine ⟨rfl, ⟨hViews, hOrder, fun kept hIndex => ?_⟩, rfl⟩
          cases hIndex
          have hInside : ¬index.recordCount ≤ record := hPast
          change entryAt channel index.recordCount record = _
          rw [entryAt, if_neg hInside, hFirst, hSecond]
          rfl

/-- A lookup of a cut entry leaves its first word as the offset of whatever
record is kept. -/
theorem Truthful.lookUp_cut {index : ShapeIndex} {channel : Bytes} (h : index.Truthful channel)
    {cut : Nat} (hThere : cut < index.recordCount) (hCut : CutInside channel cut) {word : Int32}
    (hWord : wordAt channel (entryPosition cut) = .ok word) :
    (index.lookUp channel cut).2.entry = { index.entry with offset := word } := by
  have hOther : index.entry.index ≠ some cut := by
    intro hKept
    have hBefore := lt_of_cutInside (h.entry_eq cut hKept) hCut
    omega
  obtain ⟨window, _, _, hLookUp⟩ := h.lookUp_eq hOther hThere
  rw [hLookUp, hWord]
  cases hSecond : wordAt channel (entryPosition cut + 4) with
  | error e => rfl
  | ok contentLength =>
      have hInside := wordAt_eq_ok hSecond
      have hEnd := hCut.2
      omega

/-! ### Answers -/

namespace Lookup

def record : Lookup → Nat
  | offset record | byteOffset record | contentLength record => record

/-- What a lookup gives for the entry of its record. -/
def answer (entry : Int32 × Int32) : Lookup → Except ShapeError Located
  | offset _ => .ok (.words entry.1)
  | byteOffset record =>
    if entry.1 < 0 then .error (.malformed (.negativeOffset record entry.1))
    else .ok (.bytes (entry.1.toInt.toNat * 2))
  | contentLength _ => .ok (.words entry.2)

end Lookup

/-- Every lookup answers from what is found for its record. -/
theorem perform_eq (index : ShapeIndex) (channel : Bytes) (lookup : Lookup) :
    index.perform channel lookup =
      ((index.found channel lookup.record).bind lookup.answer,
        (index.lookUp channel lookup.record).2) := by
  cases lookup with
  | offset record =>
      rcases hLookUp : index.lookUp channel record with ⟨_ | _, next⟩
      all_goals simp only [perform, offset, found, Lookup.record, hLookUp]
      all_goals rfl
  | byteOffset record =>
      rcases hLookUp : index.lookUp channel record with ⟨_ | _, next⟩
      all_goals simp only [perform, byteOffset, offset, found, Lookup.record, hLookUp]
      · rfl
      · by_cases hNegative : next.entry.offset < 0
        · simp only [Except.map, Except.bind, Lookup.answer, if_pos hNegative]
        · simp only [Except.map, Except.bind, Lookup.answer, if_neg hNegative]
  | contentLength record =>
      rcases hLookUp : index.lookUp channel record with ⟨_ | _, next⟩
      all_goals simp only [perform, contentLength, found, Lookup.record, hLookUp]
      all_goals rfl

/-- A lookup answers from the entry of the file and keeps the index truthful. -/
theorem Truthful.perform {index : ShapeIndex} {channel : Bytes} (h : index.Truthful channel)
    (lookup : Lookup) (hSeamless : Seamless channel index.recordCount lookup.record) :
    (index.perform channel lookup).1 =
        (entryAt channel index.recordCount lookup.record).bind lookup.answer ∧
      (index.perform channel lookup).2.Truthful channel ∧
      (index.perform channel lookup).2.header = index.header := by
  obtain ⟨hFound, hNext, hHeader⟩ := h.lookUp hSeamless
  rw [perform_eq, hFound]
  exact ⟨rfl, hNext, hHeader⟩

theorem recordCount_congr {index other : ShapeIndex} (hHeader : index.header = other.header) :
    index.recordCount = other.recordCount := by
  rw [recordCount, recordCount, hHeader]

/-- What lookups keep where no cut entry can be mistaken. -/
theorem Truthful.performAll {index : ShapeIndex} {channel : Bytes} (h : index.Truthful channel)
    (hSeamless : ∀ cut, Seamless channel index.recordCount cut) (lookups : List Lookup) :
    (index.performAll channel lookups).Truthful channel ∧
      (index.performAll channel lookups).recordCount = index.recordCount := by
  induction lookups generalizing index with
  | nil => exact ⟨h, rfl⟩
  | cons lookup lookups ih =>
      obtain ⟨_, hNext, hHeader⟩ := h.perform lookup (hSeamless lookup.record)
      have hCount := recordCount_congr hHeader
      obtain ⟨hLast, hSame⟩ := ih hNext (by rwa [hCount])
      exact ⟨hLast, hSame.trans hCount⟩

/-- Once a header has been read, words are big-endian. -/
theorem order_of_readHeader {channel : Bytes} {cursor last : Cursor} {header : ShapeHeader}
    (hRead : readHeader.onBytes channel cursor = (.ok header, last)) : last.order = .big := by
  have hProgram : readHeader = ShapeHeader.read.bind fun header =>
      (Reading.setOrder .big).bind fun _ => .done header := rfl
  rw [hProgram, Reading.onBytes_bind] at hRead
  rcases hHeader : ShapeHeader.read.onBytes channel cursor with ⟨e | found, middle⟩
  · rw [hHeader] at hRead
    cases hRead
  · rw [hHeader] at hRead
    cases hRead
    rfl

/-- A freshly opened index keeps no entry, so it is truthful. -/
theorem truthful_onChannel {channel : Bytes} {capacity : Nat} {index : ShapeIndex}
    (hOpened : onChannel channel capacity = .ok index) : index.Truthful channel := by
  obtain ⟨hResult, hCursor, hViews⟩ := (Window.views_onChannel channel capacity).run_eq readHeader
  simp only [onChannel] at hOpened
  generalize (Window.onChannel channel capacity).run channel readHeader = run at *
  rcases run with ⟨e | header, next⟩
  · cases hOpened
  · cases hOpened
    exact ⟨hViews, order_of_readHeader (Prod.ext hResult.symm hCursor.symm), nofun⟩

/-- After a cut entry was asked for, a record before it is given the cut
entry's offset. -/
theorem Truthful.offset_after_cut {index : ShapeIndex} {channel : Bytes}
    (h : index.Truthful channel) {record cut : Nat} (hBefore : record < cut)
    (hThere : cut < index.recordCount) (hCut : CutInside channel cut) {word : Int32}
    (hWord : wordAt channel (entryPosition cut) = .ok word) :
    ((index.performAll channel [.offset record, .offset cut]).perform channel
      (.offset record)).1 = .ok (.words word) := by
  obtain ⟨entry, hEntry⟩ := entryAt_of_before hBefore hThere hCut
  obtain ⟨hFound, hNext, hHeader⟩ := h.lookUp (seamless_of_entryAt hEntry)
  rw [hEntry] at hFound
  have hKept := index_of_found hFound
  have hLeft := hNext.lookUp_cut (by rwa [recordCount_congr hHeader]) hCut hWord
  rw [hKept] at hLeft
  have hIndex : (((index.lookUp channel record).2.lookUp channel cut).2).entry.index =
      some record := by
    rw [hLeft]
  rw [perform_eq]
  simp only [ShapeIndex.performAll, List.foldl_cons, List.foldl_nil, perform_eq, Lookup.record,
    found, lookUp_kept hIndex, hLeft]
  rfl

/-- Lookups are free of history exactly on the files where a cut entry cannot
be mistaken for one before it. -/
theorem lookups_independent_iff {channel : Bytes} {capacity : Nat} {index : ShapeIndex}
    (hOpened : onChannel channel capacity = .ok index) :
    (∀ (earlier : List Lookup) (lookup : Lookup),
        ((index.performAll channel earlier).perform channel lookup).1 =
          (index.perform channel lookup).1) ↔
      ∀ cut, Seamless channel index.recordCount cut := by
  have hFresh := truthful_onChannel hOpened
  constructor
  · intro hSame cut hThere hCut record hBefore
    obtain ⟨word, hWord⟩ := wordAt_of_inside hCut.1
    obtain ⟨entry, hEntry⟩ := entryAt_of_before hBefore hThere hCut
    have hAfter := hFresh.offset_after_cut hBefore hThere hCut hWord
    have hFirst := (hFresh.perform (.offset record) (seamless_of_entryAt hEntry)).1
    rw [hSame, hFirst, Lookup.record, hEntry] at hAfter
    rw [(entryAt_eq_ok hEntry).2.1, hWord]
    cases hAfter
    rfl
  · intro hSeamless earlier lookup
    obtain ⟨hLast, hCount⟩ := hFresh.performAll hSeamless earlier
    have hAfter := hLast.perform lookup (by rw [hCount]; exact hSeamless _)
    rw [hAfter.1, hCount, (hFresh.perform lookup (hSeamless lookup.record)).1]

/-- The header of an index with two entries, and the first of them. -/
def firstEntry : List UInt8 :=
  (ShapeHeader.of (.record ⟨.point, .plane⟩) 58 .zero).bytes ++ ByteOrder.big.int32 50 ++
    ByteOrder.big.int32 10

/-- The index with both entries. -/
def wholeFile : Bytes :=
  (firstEntry ++ ByteOrder.big.int32 64 ++ ByteOrder.big.int32 10).toArray

/-- The index that ends between the words of the second entry. -/
def cutFile : Bytes := (firstEntry ++ ByteOrder.big.int32 64).toArray

theorem lookups_independent_whole : ∃ index, onChannel wholeFile 64 = .ok index ∧
    ∀ earlier lookup, ((index.performAll wholeFile earlier).perform wholeFile lookup).1 =
      (index.perform wholeFile lookup).1 := by
  have hCount : (onChannel wholeFile 64).map recordCount = .ok 2 := by decide +kernel
  obtain ⟨index, hOpened, hTwo⟩ := map_eq_ok hCount
  refine ⟨index, hOpened, (lookups_independent_iff hOpened).mpr ?_⟩
  intro cut hThere hCut
  have hSize : wholeFile.size = 116 := by decide +kernel
  have hEnd := hCut.2
  rw [hTwo] at hThere
  rw [hSize, entryPosition, ShapeHeader.size, entrySize] at hEnd
  omega

theorem offset_depends_on_history : ∃ index, onChannel cutFile 64 = .ok index ∧
    0 ≤ index.header.fileLength ∧
    (index.perform cutFile (.offset 0)).1 = .ok (.words 50) ∧
      ((index.performAll cutFile [.offset 0, .offset 1]).perform cutFile (.offset 0)).1 =
        .ok (.words 64) := by
  have hAnswers : (onChannel cutFile 64).map (fun index => (index.header.fileLength,
      (index.perform cutFile (.offset 0)).1,
        ((index.performAll cutFile [.offset 0, .offset 1]).perform cutFile (.offset 0)).1)) =
      .ok (58, .ok (.words 50), .ok (.words 64)) := by
    decide +kernel
  obtain ⟨index, hOpened, hAll⟩ := map_eq_ok hAnswers
  simp only [Prod.mk.injEq] at hAll
  obtain ⟨hLength, hFirst, hAfter⟩ := hAll
  refine ⟨index, hOpened, ?_, hFirst, hAfter⟩
  rw [hLength]
  decide

end Shapefile.ShapeIndex
