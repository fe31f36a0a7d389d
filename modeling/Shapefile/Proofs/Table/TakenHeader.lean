import Shapefile.Proofs.Storage.SuccessfulReads
import Shapefile.Proofs.Table.WholeTable

/-! Headers that were taken from a file and are written again. Reading keeps
the length that the file declares, and no trace of padding or of descriptors
without a width; writing stores that length, and descriptors of the fields
that were kept. So the header is written at its length exactly if there was
nothing to pass over, and only then are records written where they are read. -/
namespace Shapefile

namespace TableHeader

open Reading

/-- The width in the descriptor that starts here. -/
def widthAt (channel : Bytes) (descriptor : Nat) : UInt8 := channel[descriptor + 16]?.getD 0

/-- What a descriptor that could be read gives: a field of its width, if it
has one. -/
theorem onBytes_readField_ok {channel : Bytes} {offset position : Nat} {order : ByteOrder}
    {field? : Option Field} {last : Cursor}
    (hOk : (readField offset).onBytes channel ⟨position, order⟩ = (.ok field?, last)) :
    last = ⟨position + descriptorSize, order⟩ ∧
      (field?.isSome ↔ widthAt channel position ≠ 0) ∧
      ∀ f, field? = some f → f.offset = offset ∧ f.Storable ∧ f.decimals < 256 := by
  obtain ⟨_, _, hName, hOk⟩ := onBytes_bind_ok hOk
  cases onBytes_bytes_ok hName
  obtain ⟨_, _, hCode, hOk⟩ := onBytes_bind_ok hOk
  obtain ⟨rfl, rfl⟩ := onBytes_uint8_ok hCode
  obtain ⟨_, _, hSkip, hOk⟩ := onBytes_bind_ok hOk
  cases onBytes_skip_ok hSkip
  obtain ⟨_, _, hWidth, hOk⟩ := onBytes_bind_ok hOk
  obtain ⟨rfl, rfl⟩ := onBytes_uint8_ok hWidth
  obtain ⟨_, _, hPlaces, hOk⟩ := onBytes_bind_ok hOk
  obtain ⟨rfl, rfl⟩ := onBytes_uint8_ok hPlaces
  obtain ⟨_, _, hSkip, hOk⟩ := onBytes_bind_ok hOk
  cases onBytes_skip_ok hSkip
  split at hOk
  next hNone =>
    have hWidth : widthAt channel position = 0 := hNone
    cases hOk
    exact ⟨rfl, iff_of_false nofun (not_not_intro hWidth), nofun⟩
  next hSome =>
    have hWidth : widthAt channel position ≠ 0 := hSome
    obtain ⟨fieldType, _, hFound, hOk⟩ := onBytes_bind_ok hOk
    obtain ⟨hType, rfl⟩ := onBytes_ofExcept_ok hFound
    cases hOk
    refine ⟨rfl, iff_of_true rfl hWidth, ?_⟩
    rintro f ⟨⟩
    have hPlaces : (channel[position + 17]?.getD 0).toNat < 256 := UInt8.toNat_lt _
    refine ⟨rfl, ⟨?_, ?_, ?_⟩, hPlaces⟩
    · exact Nat.pos_of_ne_zero fun hZero => hWidth (UInt8.toNat_inj.mp hZero)
    · exact Nat.le_of_lt_succ (UInt8.toNat_lt (widthAt channel position))
    · show FieldType.ofDescriptor _ _ ((channel[position + 17]?.getD 0).toNat % 256) = _
      rw [Nat.mod_eq_of_lt hPlaces]
      exact hType

/-- What descriptors that could be read give: the fields of those that have
a width, one behind the other. -/
theorem onBytes_readFields_ok {channel : Bytes} {before fields : List Field} {count : Nat}
    {offset position : Nat} {order : ByteOrder} {last : Cursor}
    (hOk : (readFields before offset count).onBytes channel ⟨position, order⟩ =
      (.ok fields, last)) :
    ∃ kept, fields = before ++ kept ∧ LaidFrom offset kept ∧
      (∀ f ∈ kept, f.Storable ∧ f.decimals < 256) ∧ kept.length ≤ count ∧
      (kept.length = count ↔
        ∀ i < count, widthAt channel (position + descriptorSize * i) ≠ 0) := by
  induction count generalizing before offset position with
  | zero =>
      cases hOk
      exact ⟨[], (List.append_nil _).symm, True.intro, by simp, Nat.le_refl 0, by simp⟩
  | succ count ih =>
      obtain ⟨field?, _, hField, hRest⟩ := onBytes_bind_ok hOk
      obtain ⟨rfl, hSome, hKept⟩ := onBytes_readField_ok hField
      have hNext : ∀ i, position + descriptorSize + descriptorSize * i =
          position + descriptorSize * (i + 1) := fun i => by rw [descriptorSize]; omega
      cases field? with
      | none =>
          have hWidth : widthAt channel position = 0 := by simpa using hSome
          obtain ⟨kept, hFields, hLaid, hEach, hCount, _⟩ := ih hRest
          refine ⟨kept, hFields, hLaid, hEach, Nat.le_succ_of_le hCount, iff_of_false ?_ ?_⟩
          · exact Nat.ne_of_lt (Nat.lt_succ_of_le hCount)
          · exact fun hAll => hAll 0 (Nat.zero_lt_succ count) hWidth
      | some f =>
          have hWidth := hSome.mp rfl
          obtain ⟨rfl, hStorable⟩ := hKept f rfl
          obtain ⟨kept, hFields, hLaid, hEach, hCount, hFull⟩ := ih hRest
          refine ⟨f :: kept, ?_, ⟨rfl, hLaid⟩, ?_, Nat.succ_le_succ hCount, ?_⟩
          · rw [hFields, List.append_assoc, List.singleton_append]
          · exact List.forall_mem_cons.mpr ⟨hStorable, hEach⟩
          · simp only [hNext] at hFull
            rw [List.length_cons, Nat.succ_inj, hFull, Nat.forall_lt_succ_left]
            exact (and_iff_right hWidth).symm

/-- A header as it is taken from a file. -/
structure Taken (channel : Bytes) (h : TableHeader) : Prop where
  fields : ∀ f ∈ h.fields, f.Storable ∧ f.decimals < 256
  offsets : LaidFrom 1 h.fields
  recordCount_lt : h.recordCount < 2 ^ 31
  recordLength_lt : h.recordLength < 2 ^ 16
  headerLength_lt : h.headerLength < 2 ^ 16
  headerLength_ge : leastLength ≤ h.headerLength
  fields_le : h.fields.length ≤ (h.headerLength - leastLength) / descriptorSize
  fields_eq_iff : h.fields.length = (h.headerLength - leastLength) / descriptorSize ↔
    ∀ i < (h.headerLength - leastLength) / descriptorSize,
      widthAt channel (descriptorSize + descriptorSize * i) ≠ 0

/-- The language driver byte of a file. -/
def driverIn (channel : Bytes) : UInt8 := channel[29]?.getD 0

/-- A table that was written has the language driver of its code page. -/
theorem driverIn_fileOf [Host] {h : TableHeader} {records : List (List UInt8)} {channel : Bytes}
    (hChannel : channel.toList = h.fileOf records) :
    driverIn channel = h.codePage.languageDriver := by
  let date := h.lastUpdate.getD Host.today
  let front : List UInt8 := [fileType, yearByte date.year, UInt8.ofNat date.month,
    UInt8.ofNat date.day] ++ word h.recordCount ++ shortWord h.headerLength ++
      shortWord h.recordLength ++ List.replicate 17 0
  have hFront : front.length = 29 := by
    simp [front, word, shortWord, ByteOrder.length_int32, ByteOrder.length_int16]
  have hFile : h.fileOf records = front ++ h.codePage.languageDriver :: (List.replicate 2 0 ++
      (h.fields.flatMap (fieldPuts h.codePage)).flatten ++ [terminator] ++ records.flatten ++
        [TableWriter.endOfFile]) := by
    simp [fileOf, bytes_eq, bytesRead, front, date]
  rw [driverIn, ← Array.getElem?_toList, hChannel, hFile, ← hFront, List.getElem?_append_right]
  · simp
  · exact Nat.le_refl _

/-- What a header that could be read has from its file. -/
theorem read_ok {channel : Bytes} {forced : Option Text.CodePage} {cursor last : Cursor}
    {h : TableHeader} (hOk : (read forced).onBytes channel cursor = (.ok h, last)) :
    h.Taken channel ∧
      h.codePage = (forced.or (Text.CodePage.ofLanguageDriver? (driverIn channel))).getD
        .standard := by
  obtain ⟨_, _, hOrder, hOk⟩ := onBytes_bind_ok hOk
  cases hOrder
  obtain ⟨_, _, hSeek, hOk⟩ := onBytes_bind_ok hOk
  cases hSeek
  obtain ⟨_, _, hType, hOk⟩ := onBytes_bind_ok hOk
  obtain ⟨_, rfl⟩ := onBytes_uint8_ok hType
  obtain ⟨_, _, hYear, hOk⟩ := onBytes_bind_ok hOk
  obtain ⟨_, rfl⟩ := onBytes_uint8_ok hYear
  obtain ⟨_, _, hMonth, hOk⟩ := onBytes_bind_ok hOk
  obtain ⟨_, rfl⟩ := onBytes_uint8_ok hMonth
  obtain ⟨_, _, hDay, hOk⟩ := onBytes_bind_ok hOk
  obtain ⟨_, rfl⟩ := onBytes_uint8_ok hDay
  obtain ⟨recordCount, _, hCount, hOk⟩ := onBytes_bind_ok hOk
  cases onBytes_number_ok hCount
  split at hOk
  next hNegative => cases hOk
  obtain ⟨headerLength, _, hHeader, hOk⟩ := onBytes_bind_ok hOk
  cases onBytes_number_ok hHeader
  obtain ⟨recordLength, _, hRecord, hOk⟩ := onBytes_bind_ok hOk
  cases onBytes_number_ok hRecord
  simp only at hOk
  split at hOk
  next hShort => cases hOk
  next hLeast =>
    obtain ⟨_, _, hSkip, hOk⟩ := onBytes_bind_ok hOk
    cases onBytes_skip_ok hSkip
    obtain ⟨driver, _, hDriver, hOk⟩ := onBytes_bind_ok hOk
    obtain ⟨hDriverByte, rfl⟩ := onBytes_uint8_ok hDriver
    obtain ⟨_, _, hSkip, hOk⟩ := onBytes_bind_ok hOk
    cases onBytes_skip_ok hSkip
    obtain ⟨fields, _, hFields, hOk⟩ := onBytes_bind_ok hOk
    obtain ⟨kept, hKept, hLaid, hEach, hAtMost, hFull⟩ := onBytes_readFields_ok hFields
    cases hOk
    rw [List.nil_append] at hKept
    subst hKept
    have hSmall : recordCount.toInt.toNat < 2 ^ 31 := by
      have hBound := recordCount.toInt_lt
      omega
    exact ⟨⟨hEach, hLaid, hSmall, recordLength.toUInt16.toNat_lt, headerLength.toUInt16.toNat_lt,
      Nat.le_of_not_lt hLeast, hAtMost, hFull⟩, by rw [hDriverByte]; rfl⟩

/-- A header that was taken from a file is never written longer than it says,
and shorter exactly if there was padding or a descriptor without a width. -/
theorem Taken.length_bytes [Host] {channel : Bytes} {h : TableHeader} (hTaken : h.Taken channel) :
    h.bytes.length ≤ h.headerLength ∧
      (h.bytes.length = h.headerLength ↔
        (h.headerLength - leastLength) % descriptorSize = 0 ∧
          ∀ i < (h.headerLength - leastLength) / descriptorSize,
            widthAt channel (descriptorSize + descriptorSize * i) ≠ 0) := by
  have hLeast := hTaken.headerLength_ge
  have hAtMost := hTaken.fields_le
  rw [← hTaken.fields_eq_iff, length_bytes_eq]
  rw [leastLength] at hLeast ⊢
  rw [leastLength, descriptorSize] at hAtMost
  rw [descriptorSize]
  omega

/-- A header that is written at its length is read back as it is. -/
theorem Taken.tight [Host] {channel : Bytes} {h : TableHeader} (hTaken : h.Taken channel)
    (hLength : h.bytes.length = h.headerLength) : h.Tight :=
  ⟨fun f hField => (hTaken.fields f hField).1, hTaken.offsets,
    hLength.symm.trans (length_bytes_eq h)⟩

/-- A header from a file can be written again at the length it declares
exactly if there is nothing in it to pass over. Whatever is written behind it,
each record lies behind the bytes of the header and the records before it; and
if the header is written at its length, the records are read back from there
by the same fields. -/
theorem taken_header_rewritten_iff [Host] {channel : Bytes} {forced : Option Text.CodePage}
    {cursor last : Cursor} {h : TableHeader}
    (hRead : (read forced).onBytes channel cursor = (.ok h, last)) :
    h.bytes.length ≤ h.headerLength ∧
    (h.bytes.length = h.headerLength ↔
      (h.headerLength - leastLength) % descriptorSize = 0 ∧
        ∀ i < (h.headerLength - leastLength) / descriptorSize,
          widthAt channel (descriptorSize + descriptorSize * i) ≠ 0) ∧
    ∀ (count : Nat) (calls : List TableWriter.Call), ∃ file : Bytes,
      let written := { h with recordCount := count }
      let records := TableWriter.accepted written calls
      (∀ capacity, ((TableWriter.create written capacity).run calls).1 =
          TableWriter.answers written calls ∧
        ((TableWriter.create written capacity).run calls).2.close.file = file) ∧
      file.toList = written.bytes ++ records.flatten ++ [0x1A] ∧
      (∀ i record, records[i]? = some record →
        file.HasAt (h.bytes.length + i * h.recordLength) record) ∧
      (h.bytes.length = h.headerLength → count < 2 ^ 31 → ∀ capacity again, ∃ r,
        TableReader.onChannel file capacity again = .ok r ∧ r.header.recordCount = count ∧
        r.header.recordLength = h.recordLength ∧
        List.Forall₂ Field.SameLayout h.fields r.header.fields ∧
        ∀ queries i record, i < count → records[i]? = some record →
          ((r.afterQueries file queries).row file i).1 = r.header.rowOf record.toArray) := by
  obtain ⟨hTaken, _⟩ := read_ok hRead
  refine ⟨hTaken.length_bytes.1, hTaken.length_bytes.2, fun count calls => ?_⟩
  let written := { h with recordCount := count }
  have hSame : written.bytes.length = h.bytes.length := by
    rw [length_bytes_eq, length_bytes_eq]
  obtain ⟨file, hRuns, hFile⟩ := TableWriter.exists_file_of_run written calls
  refine ⟨file, hRuns, hFile, ?_, ?_⟩
  · intro i record hRow
    rw [← hSame]
    exact (fileOf_hasAt TableWriter.length_of_accepted hRow hFile).1
  · intro hLength hCount capacity again
    obtain ⟨hFields, hOffsets, hHeader⟩ := hTaken.tight hLength
    have hTight : written.Tight := ⟨hFields, hOffsets, hHeader⟩
    obtain ⟨r, hOpen, hShows⟩ := TableReader.onChannel_shows hTight hCount hTaken.headerLength_lt
      hTaken.recordLength_lt hFile capacity again
    refine ⟨r, hOpen, ?_⟩
    rw [hShows.header_eq]
    refine ⟨rfl, rfl, sameLayout_reread (fun f hField => (hTaken.fields f hField).2) again, ?_⟩
    intro queries i record hInside hRow
    exact (hShows.afterQueries queries).row_record hTight TableWriter.length_of_accepted hFile
      hRow hInside

/-- A table of towns with a name, as a file that has room for one more byte
behind its header. -/
def paddedFile : Bytes :=
  let columns := ((TableHeader.new .epoch).addColumn "name" 'C' 4 0).toOption.getD (.new .epoch)
  ({ columns with recordCount := 1, headerLength := 66 }.bytes ++ [0]).toArray

theorem taken_header_rewritten_census : ∃ h last,
    (read none).onBytes censusHeader.bytes.toArray {} = (.ok h, last) ∧
      h.bytes.length = h.headerLength := by
  have hTaken : ((read none).onBytes censusHeader.bytes.toArray {}).1.map
      (fun h => h.headerLength) = .ok 97 := by
    decide +kernel
  rcases hRead : (read none).onBytes censusHeader.bytes.toArray {} with ⟨result, last⟩
  rw [hRead] at hTaken
  obtain ⟨h, hOk, hLength⟩ := map_eq_ok hTaken
  cases hOk
  refine ⟨h, last, rfl, (taken_header_rewritten_iff hRead).2.1.mpr ?_⟩
  rw [hLength]
  decide +kernel

/-- What a table written with the header of this file holds in its row: by
the record that was written, and by what is read. -/
def rowThrough [Host] (channel : Bytes) (values : List Value) :
    Except TableError (List Value × List Value) := do
  let h ← ((read none).onBytes channel {}).1
  let record ← h.encodeRow values
  let file := ((TableWriter.create h 64).run [.row values]).2.close.file
  let r ← TableReader.onChannel file 64 none
  return (← r.header.rowOf record.toArray, ← (r.row file 0).1)

/-- The header of the padded file is written a byte too short, and the row
behind it is read a byte too late. -/
theorem padded_header_shifts_rows : ∃ h last,
    (read none).onBytes paddedFile {} = (.ok h, last) ∧ h.headerLength = 66 ∧
      h.bytes.length = 65 ∧ rowThrough paddedFile [.varchar "Rome"] =
        .ok ([.varchar "Rome"], [.varchar "ome\x1a"]) := by
  have hTaken : ((read none).onBytes paddedFile {}).1.map
      (fun h => (h.headerLength, h.bytes.length)) = .ok (66, 65) := by
    decide +kernel
  rcases hRead : (read none).onBytes paddedFile {} with ⟨result, last⟩
  rw [hRead] at hTaken
  obtain ⟨h, hOk, hLengths⟩ := map_eq_ok hTaken
  cases hOk
  have hRow : rowThrough paddedFile [.varchar "Rome"] =
      .ok ([.varchar "Rome"], [.varchar "ome\x1a"]) := by
    decide +kernel
  simp only [Prod.mk.injEq] at hLengths
  exact ⟨h, last, rfl, hLengths.1, hLengths.2, hRow⟩

end TableHeader

end Shapefile
