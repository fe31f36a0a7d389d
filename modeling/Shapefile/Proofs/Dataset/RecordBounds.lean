import Shapefile.Proofs.Dataset.OpenReaders
import Shapefile.Proofs.Storage.RangesRead
import Shapefile.Proofs.Table.CellAccess
import Shapefile.Proofs.Table.StoredLengths

/-! Where the bytes of a cell come from. A row is taken from its record, and a
field that does not lie inside the record is an error. A cell is read on its
own, from where its field stands behind the start of the record, and nothing
asks whether the record goes that far. -/
namespace Shapefile

namespace TableHeader

variable {h : TableHeader} {channel : Bytes} {row column : Nat} {value : Value}

/-- A cell that was read was read from the bytes of its field and from no
others. -/
theorem given_readCell [Host] {field : Field} (hField : h.fields[column]? = some field)
    {cursor : Cursor}
    (hCell : ((h.readCell row column).onBytes channel cursor).1 = .ok value) (start : Cursor) :
    (h.readCell row column).given channel start =
      [(h.recordPosition row + field.offset, field.length)] := by
  obtain ⟨other, hOther, hCounted, hThere, hParse⟩ := onBytes_readCell_ok_iff.mp hCell
  rw [hField] at hOther
  cases hOther
  have hChecked := checkRow_eq_ok_iff.mpr hCounted
  rw [Field.stop, ← Nat.add_assoc] at hThere hParse
  simp only [readCell, hChecked, hField, Reading.ofExcept, Reading.bind_eq, Reading.bind,
    Reading.bytesAt, Reading.given, if_pos hThere, hParse]

/-- No row can be read if a field does not lie inside its record. -/
theorem readRow_error [Host] {field : Field} (hField : field ∈ h.fields)
    (hPast : h.recordLength < field.stop) (channel : Bytes) (row : Nat) (cursor : Cursor) :
    ∃ e, ((h.readRow row).onBytes channel cursor).1 = .error e := by
  rcases hRow : (h.readRow row).onBytes channel cursor with ⟨e | values, last⟩
  · exact ⟨e, rfl⟩
  · obtain ⟨column, hColumn⟩ := List.mem_iff_getElem?.mp hField
    obtain ⟨_, hCell, _⟩ := (mapM_eq_ok (onBytes_readRow_ok hRow).2.2).2 column field hColumn
    have hInside := (cellOf_ok hCell).1
    rw [Array.size_extract] at hInside
    omega

/-- A short word that was read, as the number in its two bytes. -/
theorem toNat_shortWordAt (channel : Bytes) (position : Nat) :
    (ByteOrder.little.toInt16 (channel.extract position (position + 2)).toList).toUInt16.toNat =
      lengthAt channel.toList position := by
  have hBytes : (channel.extract position (position + 2)).toList =
      (channel.toList.drop position).take 2 := by
    rw [Array.toList_extract, List.extract_eq_take_drop, Nat.add_sub_cancel_left]
  have hSmall : lengthAt channel.toList position < 2 ^ 16 := by
    have hDigits := ByteOrder.ofDigits_lt ((channel.toList.drop position).take 2)
    have hLength : ((channel.toList.drop position).take 2).length ≤ 2 := List.length_take_le _ _
    exact Nat.lt_of_lt_of_le hDigits (Nat.pow_le_pow_right (by decide) hLength)
  rw [hBytes]
  exact (UInt16.toNat_ofNat').trans (Nat.mod_eq_of_lt hSmall)

open Reading in
/-- The lengths of a header that was read are those that the file declares. -/
theorem read_declared {forced : Option Text.CodePage} {cursor last : Cursor}
    (hOk : (read forced).onBytes channel cursor = (.ok h, last)) :
    lengthAt channel.toList 8 = h.headerLength ∧ lengthAt channel.toList 10 = h.recordLength := by
  obtain ⟨_, _, hOrder, hOk⟩ := onBytes_bind_ok hOk
  cases hOrder
  obtain ⟨_, _, hSeek, hOk⟩ := onBytes_bind_ok hOk
  cases hSeek
  obtain ⟨_, _, hType, hOk⟩ := onBytes_bind_ok hOk
  obtain ⟨_, rfl⟩ := onBytes_uint8_ok hType
  obtain ⟨_, _, hYear, hOk⟩ := onBytes_bind_ok hOk
  obtain ⟨_, rfl⟩ := onBytes_uint8_ok hYear
  obtain ⟨_, _, hMonth, hOk⟩ := onBytes_bind_ok hOk
  obtain ⟨_, rfl⟩ := onBytes_uint8_ok hMonth
  obtain ⟨_, _, hDay, hOk⟩ := onBytes_bind_ok hOk
  obtain ⟨_, rfl⟩ := onBytes_uint8_ok hDay
  obtain ⟨_, hOk⟩ := onBytes_int32_bind_ok_iff.mp hOk
  split at hOk
  next hNegative => cases hOk
  obtain ⟨_, hOk⟩ := onBytes_number_bind_ok_iff.mp hOk
  obtain ⟨_, hOk⟩ := onBytes_number_bind_ok_iff.mp hOk
  simp only [Nat.reduceAdd, toNat_shortWordAt] at hOk
  split at hOk
  next hShort => cases hOk
  obtain ⟨_, _, hSkip, hOk⟩ := onBytes_bind_ok hOk
  obtain ⟨_, _, hDriver, hOk⟩ := onBytes_bind_ok hOk
  obtain ⟨_, _, hSkip, hOk⟩ := onBytes_bind_ok hOk
  obtain ⟨fields, _, hFields, hOk⟩ := onBytes_bind_ok hOk
  cases hOk
  exact ⟨rfl, rfl⟩

/-- A range of the file lies inside the record of a row, for the lengths of
header and record that the file declares. -/
def InsideRecord (channel : Bytes) (row : Nat) (range : Nat × Nat) : Prop :=
  lengthAt channel.toList 8 + row * lengthAt channel.toList 10 ≤ range.1 ∧
    range.1 + range.2 ≤ lengthAt channel.toList 8 + (row + 1) * lengthAt channel.toList 10

/-- The field of a column lies inside each record if the widths up to its own
do, with the deletion flag in front of them. -/
theorem insideRecord_iff {forced : Option Text.CodePage} {cursor last : Cursor} {field : Field}
    (hRead : (read forced).onBytes channel cursor = (.ok h, last))
    (hField : h.fields[column]? = some field) (row : Nat) :
    (InsideRecord channel row (h.recordPosition row + field.offset, field.length) ↔
        1 + ((h.fields.take (column + 1)).map Field.length).sum ≤ lengthAt channel.toList 10) ∧
      (field.stop ≤ h.recordLength ↔
        1 + ((h.fields.take (column + 1)).map Field.length).sum ≤ lengthAt channel.toList 10) := by
  obtain ⟨hHeader, hRecord⟩ := read_declared hRead
  have hStop := (read_ok hRead).1.offsets.stop_eq hField
  rw [stopFrom] at hStop
  rw [hRecord, ← hStop]
  refine ⟨?_, Iff.rfl⟩
  rw [InsideRecord, hHeader, hRecord, recordPosition, Nat.succ_mul, Field.stop]
  omega

end TableHeader

namespace TableReader

open TableHeader

/-- A cell of an open table is read if its bytes are in the file, whatever was
asked before; the length of the records is not among the conditions. It is
read from those bytes alone. They lie inside the record of the row exactly if
the fields up to this one take no more than the file says a record has; where
they do not, no row of the table can be read. -/
theorem cell_inside_record_iff [Host] {channel : Bytes} {capacity : Nat}
    {forced : Option Text.CodePage} {r : TableReader}
    (hOpened : onChannel channel capacity forced = .ok r) (earlier : List Query)
    (row column : Nat) (value : Value) :
    (((r.afterQueries channel earlier).cell channel row column).1 = .ok value ↔
      ∃ field, r.header.fields[column]? = some field ∧ row < r.header.recordCount ∧
        r.header.recordPosition row + field.stop ≤ channel.size ∧
        field.parse r.header.codePage (channel.extract (r.header.recordPosition row + field.offset)
          (r.header.recordPosition row + field.stop)).toList = .ok value) ∧
    ∀ field, r.header.fields[column]? = some field →
      let range := (r.header.recordPosition row + field.offset, field.length)
      (((r.afterQueries channel earlier).cell channel row column).1 = .ok value →
        (∀ cursor, (r.header.readCell row column).given channel cursor = [range]) ∧
        ∀ other : Bytes, other.size = channel.size →
          other.extract range.1 (range.1 + range.2) = channel.extract range.1 (range.1 + range.2) →
          ((r.header.readCell row column).onBytes other {}).1 = .ok value) ∧
      (InsideRecord channel row range ↔
        1 + ((r.header.fields.take (column + 1)).map Field.length).sum ≤
          lengthAt channel.toList 10) ∧
      (¬InsideRecord channel row range →
        ∀ other, ∃ e, ((r.afterQueries channel earlier).row channel other).1 = .error e) := by
  have hOpen := openOn_of_onChannel hOpened
  have hLater := hOpen.afterQueries earlier
  have hHeader := hOpen.header_eq
  have hCell : ((r.afterQueries channel earlier).cell channel row column).1 =
      ((r.header.readCell row column).onBytes channel {}).1 := by
    rw [(hLater.cell row column).1, cellAt, hHeader]
    rfl
  rw [hCell]
  refine ⟨onBytes_readCell_ok_iff, fun field hField => ?_⟩
  obtain ⟨hInside, hStop⟩ := insideRecord_iff (Prod.ext hHeader rfl) hField row
  refine ⟨fun hOk => ?_, hInside, fun hPast other => ?_⟩
  · have hGiven := given_readCell hField hOk
    refine ⟨hGiven, fun content hSize hSame => ?_⟩
    rw [Reading.onBytes_congr hSize, hOk]
    rw [hGiven {}]
    exact List.forall_mem_singleton.mpr hSame
  · rw [hInside, ← hStop] at hPast
    rw [(hLater.row other).1, rowAt, hHeader]
    exact readRow_error (List.mem_of_getElem? hField) (Nat.lt_of_not_le hPast) channel other {}

/-- Two columns of four bytes in records that are said to have five, and two
such records. -/
def overlappingFile : Bytes :=
  let columns : Except TableError TableHeader := do
    let named ← (TableHeader.new .epoch).addColumn "a" 'C' 4 0
    named.addColumn "b" 'C' 4 0
  let header := columns.toOption.getD (.new .epoch)
  ({ header with recordCount := 2, recordLength := 5 }.bytes ++ Field.ascii " Rome Oslo".toList ++
    [0x1A]).toArray

/-- The first column keeps to its record. -/
theorem cell_inside_record_first : ∃ r, onChannel overlappingFile 64 none = .ok r ∧
    (r.cell overlappingFile 1 0).1 = .ok (.varchar "Oslo") ∧
    (r.header.readCell 1 0).given overlappingFile {} = [(103, 4)] ∧
    InsideRecord overlappingFile 1 (103, 4) := by
  have hRun : (onChannel overlappingFile 64 none).map (fun r =>
      (r.header.fields[0]?, r.header.recordPosition 1,
        (r.header.fields.take 1).map Field.length, (r.cell overlappingFile 1 0).1)) =
      .ok (some ⟨"a", 0x43, 4, 0, 1, .varchar⟩, 102, [4], .ok (.varchar "Oslo")) := by
    decide +kernel
  obtain ⟨r, hOpened, hFound⟩ := map_eq_ok hRun
  simp only [Prod.mk.injEq] at hFound
  obtain ⟨hField, hPosition, hLengths, hCell⟩ := hFound
  obtain ⟨_, hEach⟩ := cell_inside_record_iff hOpened [] 1 0 (.varchar "Oslo")
  obtain ⟨hRead, hInside, _⟩ := hEach _ hField
  rw [hPosition] at hRead hInside
  rw [hLengths] at hInside
  exact ⟨r, hOpened, hCell, (hRead hCell).1 {}, hInside.mpr (by decide +kernel)⟩

/-- The second column of the first row is read from the second record, where
the row itself is an error. -/
theorem cell_past_record : ∃ r, onChannel overlappingFile 64 none = .ok r ∧
    (r.cell overlappingFile 0 1).1 = .ok (.varchar "Osl") ∧
    (r.header.readCell 0 1).given overlappingFile {} = [(102, 4)] ∧
    ¬InsideRecord overlappingFile 0 (102, 4) ∧
    (r.row overlappingFile 0).1 = .error (.malformed (.fieldPastRecord "b" 9 5)) := by
  have hRun : (onChannel overlappingFile 64 none).map (fun r =>
      ((r.cell overlappingFile 0 1).1, (r.header.readCell 0 1).given overlappingFile {},
        (r.row overlappingFile 0).1)) =
      .ok (.ok (.varchar "Osl"), [(102, 4)],
        .error (.malformed (.fieldPastRecord "b" 9 5))) := by
    decide +kernel
  obtain ⟨r, hOpened, hFound⟩ := map_eq_ok hRun
  simp only [Prod.mk.injEq] at hFound
  obtain ⟨hCell, hGiven, hRow⟩ := hFound
  have hPast : ¬InsideRecord overlappingFile 0 (102, 4) := by
    unfold InsideRecord
    decide +kernel
  exact ⟨r, hOpened, hCell, hGiven, hPast, hRow⟩

end TableReader

end Shapefile
