import Shapefile.Proofs.Table.RowReading

/-! A table writer and a reader of what it wrote. The writer's bytes are the
header and the records in order; a reader opened on the finished file answers
for every row, in any order, with what the fields read back. -/
namespace Shapefile

namespace TableWriter

/-- The writer has this header and has accepted exactly these records. The
bytes already handed over and those it still has make up the file. -/
structure Holds [Host] (w : TableWriter) (h : TableHeader) (sent : List UInt8)
    (records : List (List UInt8)) : Prop where
  header_eq : w.header = h
  written_eq : w.written = records.length
  content_eq : sent ++ w.staging.content.toList = h.bytes ++ records.flatten

theorem create_holds [Host] (h : TableHeader) (capacity : Nat) :
    (create h capacity).Holds h [] [] := by
  have hContent := Staging.putAll_content { capacity } h.puts
  refine ⟨rfl, rfl, ?_⟩
  rw [List.nil_append, List.flatten_nil, List.append_nil, create, hContent]
  rfl

/-- The writer with one more record. -/
def add (w : TableWriter) (record : List UInt8) : TableWriter :=
  { w with staging := w.staging.put record, written := w.written + 1 }

/-- A record of the declared length is never refused. -/
theorem writeRecord_eq_add {w : TableWriter} {record : List UInt8}
    (hChecked : w.header.checkRecord record = .ok ()) :
    w.writeRecord record = .ok (w.add record) := by
  rw [writeRecord, hChecked]
  rfl

/-- One more record extends the file by its bytes. -/
theorem Holds.add [Host] {w : TableWriter} {h : TableHeader} {sent : List UInt8}
    {records : List (List UInt8)} (hWriter : w.Holds h sent records) (record : List UInt8) :
    (w.add record).Holds h sent (records ++ [record]) := by
  refine ⟨hWriter.header_eq, ?_, ?_⟩
  · rw [List.length_append]
    exact congrArg (· + 1) hWriter.written_eq
  · rw [TableWriter.add, Staging.put_content, ← List.append_assoc, hWriter.content_eq,
      List.flatten_append, List.flatten_singleton, List.append_assoc]

/-- Handing over what was sent changes nothing about the file. -/
theorem Holds.collect [Host] {w : TableWriter} {h : TableHeader} {sent : List UInt8}
    {records : List (List UInt8)} (hWriter : w.Holds h sent records) :
    ({ w with staging := w.staging.collect.2 } : TableWriter).Holds h
      (sent ++ w.staging.collect.1.flatten.toList) records := by
  refine ⟨hWriter.header_eq, hWriter.written_eq, ?_⟩
  rw [← hWriter.content_eq, ← w.staging.collect_content, Array.toList_append, List.append_assoc]

/-- What a closed writer has sent completes the file. -/
theorem Holds.close [Host] {w : TableWriter} {h : TableHeader} {sent : List UInt8}
    {records : List (List UInt8)} (hWriter : w.Holds h sent records) :
    sent ++ w.close.staging.sent.flatten.toList = h.fileOf records := by
  have hSent : w.close.staging.sent.flatten = (w.staging.put [endOfFile]).content :=
    Staging.flush_sent _
  rw [hSent, Staging.put_content, ← List.append_assoc, hWriter.content_eq]
  rfl

end TableWriter

namespace TableReader

open Reading

/-- The reader is open on a table with this header. -/
structure Shows [Host] (r : TableReader) (channel : Bytes) (h : TableHeader)
    (forced : Option Text.CodePage) : Prop where
  header_eq : r.header = h.reread forced
  views : r.window.Views channel

theorem onChannel_shows [Host] {h : TableHeader} (hTight : h.Tight)
    (hCount : h.recordCount < 2 ^ 31)
    (hHeader : h.headerLength < 2 ^ 16) (hRecord : h.recordLength < 2 ^ 16)
    {records : List (List UInt8)} {channel : Bytes} (hChannel : channel.toList = h.fileOf records)
    (capacity : Nat) (forced : Option Text.CodePage) :
    ∃ r, onChannel channel capacity forced = .ok r ∧ r.Shows channel h forced := by
  have hBytes : channel.HasAt 0 h.bytes := by
    rw [Bytes.HasAt, List.drop_zero, hChannel, TableHeader.fileOf, List.append_assoc]
    exact List.prefix_append _ _
  have hResult := TableHeader.onBytes_read hTight hCount hHeader hRecord forced hBytes
    (Window.onChannel channel capacity).cursor
  obtain ⟨window, hRun, _, hViews⟩ :=
    (Window.views_onChannel channel capacity).run_ok (Prod.ext hResult rfl)
  refine ⟨⟨h.reread forced, window⟩, ?_, rfl, hViews⟩
  rw [onChannel, hRun]

/-- Whatever was asked for, the reader stays open on the table. -/
theorem Shows.row_shows [Host] {r : TableReader} {channel : Bytes} {h : TableHeader}
    {forced : Option Text.CodePage} (hReader : r.Shows channel h forced) (row : Nat) :
    (r.row channel row).2.Shows channel h forced :=
  ⟨hReader.header_eq, (hReader.views.run_eq (r.header.readRow row)).2.2⟩

theorem Shows.cell_shows [Host] {r : TableReader} {channel : Bytes} {h : TableHeader}
    {forced : Option Text.CodePage} (hReader : r.Shows channel h forced) (row column : Nat) :
    (r.cell channel row column).2.Shows channel h forced :=
  ⟨hReader.header_eq, (hReader.views.run_eq (r.header.readCell row column)).2.2⟩

/-- A row that the header counts is read from its record. -/
theorem Shows.row_record [Host] {r : TableReader} {channel : Bytes} {h : TableHeader}
    {forced : Option Text.CodePage} (hReader : r.Shows channel h forced) (hTight : h.Tight)
    {records : List (List UInt8)} (hRecords : ∀ record ∈ records, record.length = h.recordLength)
    (hChannel : channel.toList = h.fileOf records) {row : Nat} {record : List UInt8}
    (hRow : records[row]? = some record) (hInside : row < h.recordCount) :
    (r.row channel row).1 = (h.reread forced).rowOf record.toArray := by
  obtain ⟨hPlace, hStop⟩ := TableHeader.fileOf_hasAt hRecords hRow hChannel
  rw [TableHeader.length_bytes hTight] at hPlace hStop
  have hInFile : h.recordPosition row + h.recordLength ≤ channel.size := hStop
  have hLength : record.length = h.recordLength := hRecords record (List.mem_of_getElem? hRow)
  have hSlice : channel.extract (h.recordPosition row)
      (h.recordPosition row + h.recordLength) = record.toArray := by
    apply Array.toList_inj.mp
    rw [← hLength]
    exact hPlace.extract
  have hChecked : (h.reread forced).checkRow row = .ok () :=
    if_neg (Nat.not_le_of_lt hInside)
  have hResult := (hReader.views.run_eq (r.header.readRow row)).1
  apply hResult.trans
  rw [hReader.header_eq, TableHeader.readRow, hChecked]
  change (((bytesAt (h.recordPosition row) h.recordLength).bind fun bytes =>
    Reading.ofExcept ((h.reread forced).rowOf bytes)).onBytes channel _).1 = _
  rw [onBytes_bind, bytesAt, onBytes, if_pos hInFile, onBytes, hSlice]
  simp only
  cases (h.reread forced).rowOf record.toArray <;> rfl

/-- A row that was encoded is read as what its fields read back. -/
theorem Shows.row_eq [Host] {r : TableReader} {channel : Bytes} {h : TableHeader}
    {forced : Option Text.CodePage} (hReader : r.Shows channel h forced) (hLaid : h.Laid)
    (hPage : h.codePage = (h.reread forced).codePage) {records : List (List UInt8)}
    (hRecords : ∀ record ∈ records, record.length = h.recordLength)
    (hChannel : channel.toList = h.fileOf records) {row : Nat} {record : List UInt8}
    (hRow : records[row]? = some record) (hInside : row < h.recordCount) {values : List Value}
    (hEncode : h.encodeRow values = .ok record) :
    (r.row channel row).1 = h.readBackRow values := by
  obtain ⟨_, back, hBack, hRead⟩ := TableHeader.encodeRow_readBack hLaid hEncode
  rw [hReader.row_record hLaid.tight hRecords hChannel hRow hInside, hBack, hRead forced hPage]

/-- A row that the header does not count is refused. -/
theorem Shows.row_outside [Host] {r : TableReader} {channel : Bytes} {h : TableHeader}
    {forced : Option Text.CodePage} (hReader : r.Shows channel h forced) {row : Nat}
    (hOutside : h.recordCount ≤ row) :
    (r.row channel row).1 = .error (.row (.rowOutOfRange row h.recordCount)) := by
  have hChecked : (h.reread forced).checkRow row =
      .error (.row (.rowOutOfRange row h.recordCount)) := if_pos hOutside
  have hResult := (hReader.views.run_eq (r.header.readRow row)).1
  apply hResult.trans
  rw [hReader.header_eq, TableHeader.readRow, hChecked]
  rfl

end TableReader

end Shapefile
