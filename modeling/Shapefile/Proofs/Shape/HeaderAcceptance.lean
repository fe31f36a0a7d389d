import Shapefile.Proofs.Shape.HeaderRoundTrip
import Shapefile.Proofs.Storage.RangesRead
import Shapefile.Proofs.Storage.WindowView
import Shapefile.Proofs.Storage.WriteOperation

/-! Which channels start with a shape header, and which of their bytes its
fields come from. A header goes through any staging area as the 100 bytes of
the format, and whatever follows these, it is read back from them. -/
namespace Shapefile

/-- A type of this number is the one it stands for. -/
theorem ShapeType.ofId?_eq_some_iff {id : Int32} {t : ShapeType} :
    ofId? id = some t ↔ Int32.ofNat t.id = id := by
  constructor
  · intro hFound
    have hId := List.find?_some hFound
    rw [decide_eq_true_iff] at hId
    rw [← Int32.ofInt_toInt id, ← hId]
    rfl
  · rintro rfl
    exact ofId?_id t

namespace ShapeHeader

open Reading

/-! ### Writing -/

/-- What is done with a staging area to write a header. The byte order is set
before the first word, before the version, and behind the bounding box. -/
def operations (h : ShapeHeader) : List WriteOperation :=
  let reserved (count : Nat) : List WriteOperation := List.replicate count (.int32 0)
  let start : List WriteOperation := [.setOrder .big, .int32 magicNumber]
  let fields : List WriteOperation := [.int32 h.fileLength, .setOrder .little, .int32 h.version,
    .int32 (Int32.ofNat h.shapeType.id), .float64 h.bounds.minX, .float64 h.bounds.minY,
    .float64 h.bounds.maxX, .float64 h.bounds.maxY, .setOrder .big]
  start ++ reserved 5 ++ fields ++ reserved 8

/-- The order in force before does not show in the header. -/
theorem puts_operations (h : ShapeHeader) (order : ByteOrder) :
    WriteOperation.puts order h.operations = h.puts := by
  simp only [operations, puts, boundsPuts, WriteOperation.puts, WriteOperation.put?,
    WriteOperation.orderAfter, List.replicate, List.cons_append, List.nil_append,
    List.map_cons, List.map_nil, Option.toList_some, Option.toList_none]

/-- Whatever a staging area has seen, a header adds its 100 bytes to it, and
the order is big behind it. -/
theorem performAll_operations (h : ShapeHeader) (capacity : Nat) (earlier : List WriteOperation) :
    let before := ({ capacity } : Staging).performAll earlier
    let written := before.performAll h.operations
    written.content.toList = before.content.toList ++ h.bytes ∧
      written.written = before.written + 100 ∧ written.order = .big := by
  intro before written
  have hBefore : before.Carries capacity _ := (Staging.Carries.start capacity).performAll earlier
  have hWritten := hBefore.performAll h.operations
  rw [puts_operations] at hWritten
  refine ⟨?_, ?_, before.performAll_order h.operations⟩
  · rw [hWritten.content_eq, hBefore.content_eq, List.flatten_append]
    rfl
  · have hLength := h.length_bytes
    rw [bytes] at hLength
    rw [hWritten.written_eq, hBefore.written_eq, List.flatten_append, List.length_append, hLength]
    rfl

/-! ### Reading -/

/-- What the start of a channel must be for a header to be read from it. The
reserved bytes and those behind the bounding box may be anything, and those
behind it may be missing. -/
structure Starts (channel : Bytes) : Prop where
  bounds_inside : 68 ≤ channel.size
  magic_eq : channel.bigWordAt 0 = 9994
  version_eq : channel.wordAt 28 = 1000
  type_known : ∃ t : ShapeType, Int32.ofNat t.id = channel.wordAt 32

/-- The fields of a header are those that a channel starts with. -/
structure TakenFrom (h : ShapeHeader) (channel : Bytes) : Prop where
  fileLength_eq : h.fileLength = channel.bigWordAt 24
  version_eq : h.version = 1000
  shapeType_eq : Int32.ofNat h.shapeType.id = channel.wordAt 32
  bounds_eq : h.bounds =
    ⟨channel.doubleAt 36, channel.doubleAt 44, channel.doubleAt 52, channel.doubleAt 60⟩

theorem Starts.takenFrom {channel : Bytes} (hStarts : Starts channel) :
    ∃ h : ShapeHeader, h.TakenFrom channel := by
  obtain ⟨t, hKnown⟩ := hStarts.type_known
  exact ⟨⟨channel.bigWordAt 24, 1000, t, _⟩, rfl, rfl, hKnown, rfl⟩

/-- Two headers taken from channels that agree on the file length and from
the shape type to the end of the bounding box. -/
theorem TakenFrom.eq {h h' : ShapeHeader} {channel other : Bytes} (hTaken : h.TakenFrom channel)
    (hOther : h'.TakenFrom other) (hLength : channel.extract 24 28 = other.extract 24 28)
    (hTail : channel.extract 32 68 = other.extract 32 68) : h = h' := by
  have hWord : channel.wordAt 32 = other.wordAt 32 := by
    rw [Bytes.wordAt, Bytes.wordAt,
      Bytes.extract_eq_of_inside hTail (by decide) (by decide) (by decide)]
  have hDouble {i : Nat} (hStart : 32 ≤ i) (hStop : i + 8 ≤ 68) :
      channel.doubleAt i = other.doubleAt i := by
    rw [Bytes.doubleAt, Bytes.doubleAt,
      Bytes.extract_eq_of_inside hTail hStart (Nat.le_add_right i 8) hStop]
  have hType : h.shapeType = h'.shapeType := by
    have hSame : Int32.ofNat h.shapeType.id = Int32.ofNat h'.shapeType.id := by
      rw [hTaken.shapeType_eq, hOther.shapeType_eq, hWord]
    rw [← ShapeType.ofId?_eq_some_iff, ShapeType.ofId?_id] at hSame
    exact (Option.some.inj hSame).symm
  have hFileLength : h.fileLength = h'.fileLength := by
    rw [hTaken.fileLength_eq, hOther.fileLength_eq, Bytes.bigWordAt, Bytes.bigWordAt, hLength]
  have hBounds : h.bounds = h'.bounds := by
    rw [hTaken.bounds_eq, hOther.bounds_eq, hDouble (by decide) (by decide),
      hDouble (by decide) (by decide), hDouble (by decide) (by decide),
      hDouble (by decide) (by decide)]
  cases h
  cases h'
  rw [mk.injEq]
  exact ⟨hFileLength, hTaken.version_eq.trans hOther.version_eq.symm, hType, hBounds⟩

/-- The steps of a reading that succeeds. The order is little from the version
to the end of the bounding box, and big before and behind it. -/
theorem onBytes_read_of_type {channel : Bytes} {t : ShapeType}
    (hType : ShapeType.ofId? (channel.wordAt 32) = some t) {h : ShapeHeader} {last : Cursor} :
    read.onBytes channel {} = (.ok h, last) ↔
      68 ≤ channel.size ∧ channel.bigWordAt 0 = magicNumber ∧
        channel.wordAt 28 = currentVersion ∧
        ⟨channel.bigWordAt 24, channel.wordAt 28, t, channel.doubleAt 36, channel.doubleAt 44,
          channel.doubleAt 52, channel.doubleAt 60⟩ = h ∧ ⟨100, .big⟩ = last := by
  simp only [Bytes.wordAt, Bytes.bigWordAt, Bytes.doubleAt, Nat.reduceAdd] at hType ⊢
  simp only [read, bind_eq, pure_eq, onBytes_setOrder_bind, onBytes_int32_bind_ok_iff, ne_eq,
    onBytes_guard_ok_iff, onBytes_skip_bind, onBytes_float64_bind_ok_iff, Nat.reduceAdd, hType,
    onBytes, Prod.mk.injEq, Except.ok.injEq]
  constructor
  · rintro ⟨-, hMagic, -, -, hVersion, -, -, -, -, hInside, hFields, hLast⟩
    exact ⟨hInside, hMagic, hVersion, hFields, hLast⟩
  · rintro ⟨hInside, hMagic, hVersion, hFields, hLast⟩
    refine ⟨?_, hMagic, ?_, ?_, hVersion, ?_, ?_, ?_, ?_, hInside, hFields, hLast⟩
    all_goals omega

/-- A file of no known type is refused. -/
theorem not_onBytes_read_of_no_type {channel : Bytes}
    (hType : ShapeType.ofId? (channel.wordAt 32) = none) {h : ShapeHeader} {last : Cursor} :
    read.onBytes channel {} ≠ (.ok h, last) := by
  simp only [Bytes.wordAt, Nat.reduceAdd] at hType
  intro hOk
  simp only [read, bind_eq, onBytes_setOrder_bind, onBytes_int32_bind_ok_iff, ne_eq,
    onBytes_guard_ok_iff, onBytes_skip_bind, Nat.reduceAdd, hType, onBytes] at hOk
  obtain ⟨-, -, -, -, -, -, hRefused⟩ := hOk
  cases hRefused

/-- Reading succeeds on the channels that start with a header, with the
fields that stand there. -/
theorem onBytes_read_ok_iff {channel : Bytes} {h : ShapeHeader} {last : Cursor} :
    read.onBytes channel {} = (.ok h, last) ↔
      Starts channel ∧ h.TakenFrom channel ∧ last = ⟨100, .big⟩ := by
  cases hType : ShapeType.ofId? (channel.wordAt 32) with
  | none =>
      refine iff_of_false (not_onBytes_read_of_no_type hType) ?_
      rintro ⟨hStarts, -, -⟩
      obtain ⟨t, hKnown⟩ := hStarts.type_known
      rw [ShapeType.ofId?_eq_some_iff.mpr hKnown] at hType
      cases hType
  | some t =>
      rw [onBytes_read_of_type hType]
      have hId := ShapeType.ofId?_eq_some_iff.mp hType
      constructor
      · rintro ⟨hInside, hMagic, hVersion, rfl, rfl⟩
        exact ⟨⟨hInside, hMagic, hVersion, t, hId⟩, ⟨rfl, hVersion, hId, rfl⟩, rfl⟩
      · rintro ⟨hStarts, hTaken, rfl⟩
        refine ⟨hStarts.bounds_inside, hStarts.magic_eq, hStarts.version_eq, ?_, rfl⟩
        have hStanding : TakenFrom ⟨channel.bigWordAt 24, channel.wordAt 28, t, _⟩ channel :=
          ⟨rfl, hStarts.version_eq, hId, rfl⟩
        exact hStanding.eq hTaken rfl rfl

/-- A window of any capacity changes nothing of this. -/
theorem run_read_ok_iff {channel : Bytes} {capacity : Nat} {h : ShapeHeader} {cursor : Cursor} :
    (∃ w, (Window.onChannel channel capacity).run channel read = (.ok h, w) ∧
        w.cursor = cursor) ↔
      Starts channel ∧ h.TakenFrom channel ∧ cursor = ⟨100, .big⟩ := by
  obtain ⟨hResult, hCursor, _⟩ := (Window.views_onChannel channel capacity).run_eq read
  rw [Window.cursor_onChannel] at hResult hCursor
  rw [← onBytes_read_ok_iff]
  generalize (Window.onChannel channel capacity).run channel read = ran at *
  obtain ⟨found, w⟩ := ran
  constructor
  · rintro ⟨_, hRun, rfl⟩
    cases hRun
    exact Prod.ext hResult.symm hCursor.symm
  · intro hOk
    rw [hOk] at hResult hCursor
    exact ⟨w, Prod.ext hResult rfl, hCursor⟩

/-- A channel with a header of the current version in front starts with it. -/
theorem starts_of_bytes (shapeType : ShapeType) (fileLength : Int32) (bounds : Envelope)
    (behind : List UInt8) :
    Starts ((of shapeType fileLength bounds).bytes ++ behind).toArray ∧
      (of shapeType fileLength bounds).TakenFrom
        ((of shapeType fileLength bounds).bytes ++ behind).toArray := by
  have hBytes : Bytes.HasAt ((of shapeType fileLength bounds).bytes ++ behind).toArray 0
      (of shapeType fileLength bounds).bytes := Bytes.HasAt.of_toList [] behind rfl
  have hRead := reads_read (h := of shapeType fileLength bounds) rfl .big _ 0 hBytes
  obtain ⟨hStarts, hTaken, -⟩ := onBytes_read_ok_iff.mp hRead
  exact ⟨hStarts, hTaken⟩

/-- The codec of the header. It is written as 100 bytes behind whatever the
staging area had, in whatever byte order that was. With anything behind these
bytes, and through a window of any capacity, the header is read back from
them. A channel that was not written so is read if, and only if, it starts as
a header does, and then the fields are those of its bytes 24 to 27 and 32 to
67 and of no others. -/
theorem exact_codec :
    (∀ (shapeType : ShapeType) (fileLength : Int32) (bounds : Envelope),
      let h := of shapeType fileLength bounds
      h.bytes.length = 100 ∧
      (∀ (capacity : Nat) (earlier : List WriteOperation),
        let before := ({ capacity } : Staging).performAll earlier
        let written := before.performAll h.operations
        written.content.toList = before.content.toList ++ h.bytes ∧
          written.written = before.written + 100 ∧ written.order = .big ∧
          (before.putAll h.puts).content = written.content) ∧
      ∀ (behind : List UInt8) (capacity : Nat),
        let channel := (h.bytes ++ behind).toArray
        ∃ w, (Window.onChannel channel capacity).run channel read =
            (.ok ⟨fileLength, 1000, shapeType, bounds⟩, w) ∧ w.cursor = ⟨100, .big⟩) ∧
    (∀ (channel : Bytes) (capacity : Nat),
      ((∃ h w, (Window.onChannel channel capacity).run channel read = (.ok h, w)) ↔
        Starts channel) ∧
      ∀ h w, (Window.onChannel channel capacity).run channel read = (.ok h, w) →
        h.TakenFrom channel ∧ w.cursor = ⟨100, .big⟩) ∧
    ∀ (channel other : Bytes) (capacity otherCapacity : Nat),
      channel.extract 24 28 = other.extract 24 28 → channel.extract 32 68 = other.extract 32 68 →
      ∀ h h' w w', (Window.onChannel channel capacity).run channel read = (.ok h, w) →
        (Window.onChannel other otherCapacity).run other read = (.ok h', w') → h = h' := by
  refine ⟨fun shapeType fileLength bounds => ⟨length_bytes _, ?_, ?_⟩, ?_, ?_⟩
  · intro capacity earlier before written
    obtain ⟨hContent, hWritten, hOrder⟩ :=
      (of shapeType fileLength bounds).performAll_operations capacity earlier
    refine ⟨hContent, hWritten, hOrder, Array.toList_inj.mp ?_⟩
    rw [Staging.putAll_content, hContent]
    rfl
  · intro behind capacity channel
    obtain ⟨hStarts, hTaken⟩ := starts_of_bytes shapeType fileLength bounds behind
    exact run_read_ok_iff.mpr ⟨hStarts, hTaken, rfl⟩
  · intro channel capacity
    refine ⟨⟨?_, fun hStarts => ?_⟩, ?_⟩
    · rintro ⟨h, w, hRun⟩
      exact (run_read_ok_iff.mp ⟨w, hRun, rfl⟩).1
    · obtain ⟨h, hTaken⟩ := hStarts.takenFrom
      obtain ⟨w, hRun, _⟩ := run_read_ok_iff.mpr ⟨hStarts, hTaken, rfl⟩
      exact ⟨h, w, hRun⟩
    · intro h w hRun
      exact (run_read_ok_iff.mp ⟨w, hRun, rfl⟩).2
  · intro channel other capacity otherCapacity hLength hTail h h' w w' hRun hOther
    have hTaken := (run_read_ok_iff.mp ⟨w, hRun, rfl⟩).2.1
    have hOtherTaken := (run_read_ok_iff.mp ⟨w', hOther, rfl⟩).2.1
    exact hTaken.eq hOtherTaken hLength hTail

end ShapeHeader

end Shapefile
