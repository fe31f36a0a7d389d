import Shapefile.Proofs.Table.TakenHeader

/-! The lengths that a header stores. Each of them has a word of 16 bits, but
the columns of a header are only looked at one by one when they are added, so
either length can grow past its word. A longer one is stored without its upper
part, and the header is then not read back. -/
namespace Shapefile.TableHeader

/-- The number in the two bytes at a position, the lower one first. -/
def lengthAt (bytes : List UInt8) (position : Nat) : Nat :=
  ByteOrder.little.decode ((bytes.drop position).take 2)

theorem decode_shortWord (n : Nat) : ByteOrder.little.decode (shortWord n) = n % 65536 := by
  rw [shortWord, ByteOrder.int16, ByteOrder.decode_encode, Int16.toUInt16_ofNat',
    UInt16.toNat_ofNat']
  exact Nat.mod_mod_of_dvd n (Nat.dvd_refl 65536)

/-- A number that stands behind some bytes. -/
theorem lengthAt_append (front : List UInt8) (n : Nat) (rest : List UInt8) :
    lengthAt (front ++ (shortWord n ++ rest)) front.length = n % 65536 := by
  have hLength : (shortWord n).length = 2 := ByteOrder.length_int16 _ _
  rw [lengthAt, List.drop_left, ← hLength, List.take_left, decode_shortWord]

/-- Both lengths are stored without what does not fit their words. -/
theorem stored_lengths [Host] (h : TableHeader) :
    lengthAt h.bytes 8 = h.headerLength % 65536 ∧ lengthAt h.bytes 10 = h.recordLength % 65536 := by
  let date := h.lastUpdate.getD Host.today
  let front : List UInt8 := [fileType, yearByte date.year, UInt8.ofNat date.month,
    UInt8.ofNat date.day] ++ word h.recordCount
  let rest : List UInt8 := List.replicate 17 0 ++ ([h.codePage.languageDriver] ++
    (List.replicate 2 0 ++ ((h.fields.flatMap (fieldPuts h.codePage)).flatten ++ [terminator])))
  have hFront : front.length = 8 := by
    simp [front, word, ByteOrder.length_int32]
  have hLonger : (front ++ shortWord h.headerLength).length = 10 := by
    rw [List.length_append, hFront, shortWord, ByteOrder.length_int16]
  have hBytes : h.bytes = front ++ (shortWord h.headerLength ++
      (shortWord h.recordLength ++ rest)) := by
    simp [bytes_eq, bytesRead, front, rest, date]
  constructor
  · rw [hBytes, ← hFront, lengthAt_append]
  · rw [hBytes, ← List.append_assoc, ← hLonger, lengthAt_append]

/-- Both lengths are read back exactly if they fit their words. -/
theorem Tight.read_lengths_iff [Host] {h : TableHeader} (hTight : h.Tight)
    (hCount : h.recordCount < 2 ^ 31) {channel : Bytes} (hBytes : channel.HasAt 0 h.bytes)
    (forced : Option Text.CodePage) (cursor : Cursor) :
    (∃ r, ((read forced).onBytes channel cursor).1 = .ok r ∧ r.headerLength = h.headerLength ∧
      r.recordLength = h.recordLength) ↔ h.headerLength ≤ 65535 ∧ h.recordLength ≤ 65535 := by
  constructor
  · rintro ⟨r, hRead, hHeader, hRecord⟩
    obtain ⟨hTaken, _⟩ := read_ok (Prod.ext hRead rfl)
    rw [← hHeader, ← hRecord]
    exact ⟨Nat.le_of_lt_succ hTaken.headerLength_lt, Nat.le_of_lt_succ hTaken.recordLength_lt⟩
  · rintro ⟨hHeader, hRecord⟩
    exact ⟨h.reread forced, onBytes_read hTight hCount (Nat.lt_succ_of_le hHeader)
      (Nat.lt_succ_of_le hRecord) forced hBytes cursor, rfl, rfl⟩

/-- Every layout that a column is stored in has a field type. -/
theorem exists_fieldType {typeCode code : Char} {length decimals width places : Nat}
    (hLength : 0 < length)
    (hStored : storedLayout? typeCode length decimals = some (code, width, places)) :
    ∃ fieldType, FieldType.ofDescriptor (UInt8.ofNat code.toNat) width places = .ok fieldType := by
  rcases (storedLayout?_cases hLength hStored).2 with
    ⟨rfl, _⟩ | ⟨rfl, _⟩ | rfl | ⟨rfl, _⟩ | ⟨rfl, _⟩
  all_goals exact ⟨_, rfl⟩

/-- A column is added whenever its own type and width allow it, however many
there are. -/
theorem addColumn_ok_iff (h : TableHeader) (name : String) (typeCode : Char)
    (length decimals : Nat) :
    (∃ next, h.addColumn name typeCode length decimals = .ok next) ↔
      0 < length ∧ ∃ code width places,
        storedLayout? typeCode length decimals = some (code, width, places) ∧ width ≤ 255 := by
  constructor
  · rintro ⟨next, hAdd⟩
    obtain ⟨code, width, places, _, hLength, hStored, hWidth, _⟩ := addColumn_ok hAdd
    exact ⟨hLength, code, width, places, hStored, hWidth⟩
  · rintro ⟨hLength, code, width, places, hStored, hWidth⟩
    obtain ⟨fieldType, hType⟩ := exists_fieldType hLength hStored
    have hSome : ¬length = 0 := Nat.ne_of_gt hLength
    have hNarrow : ¬greatestWidth < width := Nat.not_lt_of_le hWidth
    unfold addColumn
    rw [if_neg hSome]
    simp only [hStored, if_neg hNarrow, hType]
    exact ⟨_, rfl⟩

/-- A header stores its two lengths modulo 65536, and they are read back
exactly if both are at most 65535, which the header's is for up to 2046
columns. Whether a column can be added does not depend on the columns that are
there, so nothing keeps the lengths below that. -/
theorem stored_lengths_iff [Host] {h : TableHeader} (hEdited : h.Edited)
    (hCount : h.recordCount < 2 ^ 31) :
    lengthAt h.bytes 8 = h.headerLength % 65536 ∧
    lengthAt h.bytes 10 = h.recordLength % 65536 ∧
    (∀ channel : Bytes, channel.HasAt 0 h.bytes → ∀ forced cursor,
      (∃ r, ((read forced).onBytes channel cursor).1 = .ok r ∧
          r.headerLength = h.headerLength ∧ r.recordLength = h.recordLength) ↔
        h.headerLength ≤ 65535 ∧ h.recordLength ≤ 65535) ∧
    (h.headerLength ≤ 65535 ↔ h.fieldCount ≤ 2046) ∧
    ∀ name typeCode length decimals,
      (∃ next, h.addColumn name typeCode length decimals = .ok next) ↔
        0 < length ∧ ∃ code width places,
          storedLayout? typeCode length decimals = some (code, width, places) ∧ width ≤ 255 := by
  have hTight := hEdited.laid.tight
  refine ⟨h.stored_lengths.1, h.stored_lengths.2, ?_, ?_, h.addColumn_ok_iff⟩
  · intro channel hBytes forced cursor
    exact hTight.read_lengths_iff hCount hBytes forced cursor
  · rw [hTight.headerLength_eq, leastLength, descriptorSize, fieldCount]
    omega

/-- The lengths of a table with two columns are stored and read back. -/
theorem stored_lengths_census : lengthAt censusHeader.bytes 8 = 97 ∧
    lengthAt censusHeader.bytes 10 = 10 ∧
    ∃ r, ((read none).onBytes censusHeader.bytes.toArray {}).1 = .ok r ∧ r.headerLength = 97 ∧
      r.recordLength = 10 := by
  let channel : Bytes := censusHeader.bytes.toArray
  have hBytes : channel.HasAt 0 censusHeader.bytes :=
    Bytes.HasAt.of_toList [] [] (by simp [channel])
  have hHeader : censusHeader.headerLength = 97 := by decide +kernel
  have hRecord : censusHeader.recordLength = 10 := by decide +kernel
  obtain ⟨hStoredHeader, hStoredRecord, hRead, _⟩ :=
    stored_lengths_iff censusHeader_edited (by decide +kernel)
  rw [hHeader] at hStoredHeader
  rw [hRecord] at hStoredRecord
  have hFits : censusHeader.headerLength ≤ 65535 ∧ censusHeader.recordLength ≤ 65535 := by
    rw [hHeader, hRecord]
    decide
  obtain ⟨r, hOk, hSameHeader, hSameRecord⟩ := (hRead channel hBytes none {}).mpr hFits
  exact ⟨hStoredHeader, hStoredRecord, r, hOk, hSameHeader.trans hHeader,
    hSameRecord.trans hRecord⟩

/-- Any number of the widest columns can be added. -/
theorem exists_built (date : Date) (count : Nat) : ∃ h, Built h ∧ h.fieldCount = count ∧
    h.headerLength = 33 + 32 * count ∧ h.recordLength = 1 + 255 * count := by
  induction count with
  | zero => exact ⟨.new date, .new date, rfl, rfl, rfl⟩
  | succ count ih =>
      obtain ⟨h, hBuilt, hFields, _, hRecord⟩ := ih
      obtain ⟨next, hAdd⟩ := (h.addColumn_ok_iff "n" 'C' 255 0).mpr
        ⟨by decide, 'C', 255, 0, rfl, Nat.le_refl 255⟩
      obtain ⟨_, _, _, _, _, hStored, _, _, hNext⟩ := addColumn_ok hAdd
      cases hStored
      refine ⟨next, .add hBuilt hAdd, ?_, ?_, ?_⟩
      all_goals subst hNext
      · exact (List.length_append).trans (congrArg (· + 1) hFields)
      · simp only [fieldCount] at hFields
        simp only [hFields, leastLength, descriptorSize]
      · simp only [hRecord]
        omega

/-- With 257 columns of 255 bytes a record of 65536 bytes is stored as an empty
one, and with 2047 columns a header of 65537 bytes is stored as one of a single
byte. Every column was added without an error. -/
theorem lengths_wrap :
    (∃ h, Built h ∧ h.fieldCount = 257 ∧ h.recordLength = 65536 ∧ lengthAt h.bytes 10 = 0) ∧
      ∃ h, Built h ∧ h.fieldCount = 2047 ∧ h.headerLength = 65537 ∧ lengthAt h.bytes 8 = 1 := by
  obtain ⟨wide, hWide, hFields, _, hRecord⟩ := exists_built .epoch 257
  obtain ⟨long, hLong, hMany, hHeader, _⟩ := exists_built .epoch 2047
  refine ⟨⟨wide, hWide, hFields, hRecord, ?_⟩, long, hLong, hMany, hHeader, ?_⟩
  · rw [wide.stored_lengths.2, hRecord]
  · rw [long.stored_lengths.1, hHeader]

end Shapefile.TableHeader
