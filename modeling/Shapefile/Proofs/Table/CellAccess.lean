import Shapefile.Proofs.Running
import Shapefile.Proofs.Storage.RangesRead
import Shapefile.Proofs.Storage.SuccessfulReads
import Shapefile.Table.Record

/-! Cells of rows. A row is read as one record and taken apart, a cell is read
from the bytes of its field alone. Where the row can be read, whatever the
header says about its record and its fields, each cell is the value that the
row has in its column. -/
namespace Shapefile.TableHeader

variable {h : TableHeader} {channel : Bytes} {row : Nat} {values : List Value}

/-- A field inside a record lies in the file where the record does. -/
theorem extract_record (channel : Bytes) (position : Nat) {length first stop : Nat}
    (hInside : stop ≤ length) :
    (channel.extract position (position + length)).extract first stop =
      channel.extract (position + first) (position + stop) := by
  rw [Array.extract_extract, Nat.min_eq_left (Nat.add_le_add_left hInside position)]

theorem checkRow_eq_ok_iff : h.checkRow row = .ok () ↔ row < h.recordCount := by
  rw [checkRow]
  by_cases hPast : h.recordCount ≤ row
  · simp [hPast]
  · simp [hPast, Nat.lt_of_not_le hPast]

/-- What is known of a row that was read: it is one of those counted, its
record lies in the file, and its values are those of the fields. -/
theorem onBytes_readRow_ok [Host] {cursor last : Cursor}
    (hRow : (h.readRow row).onBytes channel cursor = (.ok values, last)) :
    row < h.recordCount ∧ h.recordPosition row + h.recordLength ≤ channel.size ∧
      h.rowOf (channel.extract (h.recordPosition row)
        (h.recordPosition row + h.recordLength)) = .ok values := by
  obtain ⟨_, _, hCheck, hRow⟩ := Reading.onBytes_bind_ok hRow
  obtain ⟨record, _, hRecord, hRow⟩ := Reading.onBytes_bind_ok hRow
  obtain ⟨hInside, rfl⟩ := Reading.onBytes_bytesAt_ok hRecord
  exact ⟨checkRow_eq_ok_iff.mp (Reading.onBytes_ofExcept_ok hCheck).1, hInside,
    (Reading.onBytes_ofExcept_ok hRow).1⟩

/-- A field of a record that was taken apart lies inside the record. -/
theorem cellOf_ok [Host] {record : Bytes} {field : Field} {value : Value}
    (hCell : h.cellOf record field = .ok value) : field.stop ≤ record.size ∧
      field.parse h.codePage (record.extract field.offset field.stop).toList = .ok value := by
  rw [cellOf] at hCell
  split at hCell
  next => cases hCell
  next hInside => exact ⟨Nat.le_of_not_lt hInside, hCell⟩

/-- A row that was read has a value for each field. -/
theorem length_of_readRow [Host] {cursor last : Cursor}
    (hRow : (h.readRow row).onBytes channel cursor = (.ok values, last)) :
    values.length = h.fieldCount :=
  (mapM_eq_ok (onBytes_readRow_ok hRow).2.2).1

/-- A cell is read if its row and its column are there, its bytes are in the
file, and these stand for a value. -/
theorem onBytes_readCell_ok_iff [Host] {column : Nat} {value : Value} {cursor : Cursor} :
    ((h.readCell row column).onBytes channel cursor).1 = .ok value ↔
      ∃ field, h.fields[column]? = some field ∧ row < h.recordCount ∧
        h.recordPosition row + field.stop ≤ channel.size ∧
        field.parse h.codePage (channel.extract (h.recordPosition row + field.offset)
          (h.recordPosition row + field.stop)).toList = .ok value := by
  constructor
  · intro hCell
    obtain ⟨_, _, hCheck, hRest⟩ := Reading.onBytes_bind_ok (Prod.ext hCell rfl)
    have hCounted := checkRow_eq_ok_iff.mp (Reading.onBytes_ofExcept_ok hCheck).1
    cases hField : h.fields[column]? with
    | none =>
        rw [hField] at hRest
        cases hRest
    | some field =>
        rw [hField] at hRest
        obtain ⟨bytes, _, hBytes, hParse⟩ := Reading.onBytes_bind_ok hRest
        obtain ⟨hThere, rfl⟩ := Reading.onBytes_bytesAt_ok hBytes
        obtain ⟨hParse, _⟩ := Reading.onBytes_ofExcept_ok hParse
        rw [Nat.add_assoc] at hThere hParse
        exact ⟨field, rfl, hCounted, hThere, hParse⟩
  · rintro ⟨field, hField, hCounted, hThere, hParse⟩
    have hChecked := checkRow_eq_ok_iff.mpr hCounted
    rw [Field.stop, ← Nat.add_assoc] at hThere hParse
    simp only [readCell, hChecked, hField, Reading.ofExcept, Reading.bind_eq, Reading.bind,
      Reading.bytesAt, Reading.onBytes, if_pos hThere, hParse]

/-- A cell of a row that was read is its value in the row. -/
theorem onBytes_readCell [Host] {cursor last : Cursor}
    (hRow : (h.readRow row).onBytes channel cursor = (.ok values, last)) {column : Nat}
    {value : Value} (hValue : values[column]? = some value) (other : Cursor) :
    ((h.readCell row column).onBytes channel other).1 = .ok value := by
  obtain ⟨hCounted, hInside, hTaken⟩ := onBytes_readRow_ok hRow
  obtain ⟨hLength, hEach⟩ := mapM_eq_ok hTaken
  obtain ⟨field, hField⟩ : ∃ field, h.fields[column]? = some field := by
    obtain ⟨hColumn, _⟩ := List.getElem?_eq_some_iff.mp hValue
    exact ⟨_, List.getElem?_eq_getElem (hLength ▸ hColumn)⟩
  obtain ⟨found, hCell, hSame⟩ := hEach column field hField
  obtain ⟨hStop, hParse⟩ := cellOf_ok hCell
  rw [hValue] at hSame
  cases hSame
  have hSize : field.stop ≤ h.recordLength := by
    rw [Array.size_extract] at hStop
    omega
  rw [extract_record channel _ hSize] at hParse
  exact onBytes_readCell_ok_iff.mpr ⟨field, hField, hCounted, by omega, hParse⟩

end Shapefile.TableHeader
