import Shapefile.Proofs.Table.EditedHeader
import Shapefile.Proofs.Table.RecordCells
import Shapefile.Proofs.Table.RowRefusal
import Shapefile.Proofs.Table.WriterRun
import Shapefile.Text.SampleSets

/-! Writers and readers of whole tables agree. A table with any columns is
written by any calls and read back by any requests: the file has no byte but
those of the header, of the accepted records and of the end, the reader sees
the same layout, and it parses each field out of the bytes that the writer put
there. -/
namespace Shapefile

/-- Fields that are stored and read in the same way, under any names. -/
structure Field.SameLayout (f other : Field) : Prop where
  typeCode_eq : other.typeCode = f.typeCode
  length_eq : other.length = f.length
  decimals_eq : other.decimals = f.decimals
  offset_eq : other.offset = f.offset
  fieldType_eq : other.fieldType = f.fieldType

namespace TableHeader

/-- The fields of a row, each one parsed out of its bytes of the record. -/
def parseRecord [Host] (h : TableHeader) (record : List UInt8) : Except TableError (List Value) :=
  h.fields.mapM fun f => f.parse h.codePage ((record.drop f.offset).take f.length)

/-- A record that reaches behind all fields is parsed field by field. -/
theorem rowOf_eq_parseRecord [Host] {h : TableHeader} {record : List UInt8}
    (hInside : ∀ f ∈ h.fields, f.stop ≤ record.length) :
    h.rowOf record.toArray = h.parseRecord record :=
  mapM_congr fun f hField => cellOf_eq_parse h (hInside f hField)

/-- A header read back has the layout that was written, if the numbers of
places fit a byte. -/
theorem sameLayout_reread [Host] {h : TableHeader} (hPlaces : ∀ f ∈ h.fields, f.decimals < 256)
    (forced : Option Text.CodePage) :
    List.Forall₂ Field.SameLayout h.fields (h.reread forced).fields := by
  refine List.forall₂_map_right_iff.mpr (List.forall₂_same.mpr fun f hField => ?_)
  exact ⟨rfl, rfl, Nat.mod_eq_of_lt (hPlaces f hField), rfl, rfl⟩

/-- The fields of a header read back end inside a record. -/
theorem Laid.stop_le_of_reread [Host] {h : TableHeader} (hLaid : h.Laid)
    (forced : Option Text.CodePage) :
    ∀ f ∈ (h.reread forced).fields, f.stop ≤ h.recordLength := by
  intro f hField
  obtain ⟨written, hWritten, rfl⟩ := List.mem_map.mp hField
  rw [hLaid.recordLength_eq]
  show written.stop ≤ _
  exact hLaid.offsets.stop_le hWritten

/-- A table is read as it was written. Every call answers as the header
alone says, and the file is the header, the accepted records and the last
byte. A reader sees the counts, lengths and fields that were written, and
after any requests it gives for each counted record what its fields parse out
of their bytes. Rows are refused for a wrong number of values, for a value of
a type that a field does not take and for a date with another year than one
of four digits, and never for the length of the record they make. -/
theorem written_table_agrees [Host] {h : TableHeader} (hEdited : Edited h)
    (hHeader : h.headerLength ≤ 65535) (hRecord : h.recordLength ≤ 65535)
    (hPlaces : ∀ f ∈ h.fields, f.decimals < 256) (hCount : h.recordCount < 2 ^ 31)
    (calls : List TableWriter.Call) :
    (∃ file : Bytes,
      (∀ capacity, ((TableWriter.create h capacity).run calls).1 = TableWriter.answers h calls ∧
        ((TableWriter.create h capacity).run calls).2.close.file = file) ∧
      let records := TableWriter.accepted h calls
      file.toList = h.bytes ++ records.flatten ++ [0x1A] ∧
      h.bytes.length = h.headerLength ∧ (∀ record ∈ records, record.length = h.recordLength) ∧
      ∀ capacity forced, ∃ r, TableReader.onChannel file capacity forced = .ok r ∧
        r.header.recordCount = h.recordCount ∧ r.header.headerLength = h.headerLength ∧
        r.header.recordLength = h.recordLength ∧
        List.Forall₂ Field.SameLayout h.fields r.header.fields ∧
        ∀ queries i record, i < h.recordCount → records[i]? = some record →
          ((r.afterQueries file queries).row file i).1 = r.header.parseRecord record) ∧
    (∀ values, (∃ record, h.encodeRow values = .ok record) ↔ ∀ fault, ¬h.Refuses values fault) ∧
    ∀ values e, h.encodeRow values = .error e → ∃ fault, e = .row fault ∧
      h.Refuses values fault ∧ ∀ found expected, fault ≠ .recordSize found expected := by
  have hLaid := hEdited.laid
  obtain ⟨file, hRuns, hFile⟩ := TableWriter.exists_file_of_run h calls
  refine ⟨⟨file, hRuns, hFile, length_bytes hLaid.tight, TableWriter.length_of_accepted, ?_⟩,
    encodeRow_ok_iff hLaid, ?_⟩
  · intro capacity forced
    obtain ⟨r, hOpen, hShows⟩ := TableReader.onChannel_shows hLaid.tight hCount
      (Nat.lt_succ_of_le hHeader) (Nat.lt_succ_of_le hRecord) hFile capacity forced
    refine ⟨r, hOpen, ?_⟩
    rw [hShows.header_eq]
    refine ⟨rfl, rfl, rfl, sameLayout_reread hPlaces forced,
      fun queries i record hInside hRow => ?_⟩
    have hLength := TableWriter.length_of_accepted record (List.mem_of_getElem? hRow)
    rw [(hShows.afterQueries queries).row_record hLaid.tight TableWriter.length_of_accepted
      hFile hRow hInside]
    refine rowOf_eq_parseRecord fun f hField => ?_
    rw [hLength]
    exact hLaid.stop_le_of_reread forced f hField
  · intro values e hError
    obtain ⟨fault, hRow, hWhy⟩ := refuses_of_encodeRow hLaid hError
    exact ⟨fault, hRow, hWhy, hWhy.ne_recordSize⟩

/-- A table of towns with a name and a number, between which there once was a
day. -/
def censusHeader : TableHeader :=
  let columns : Except TableError TableHeader := do
    let named ← (TableHeader.new .epoch).addColumn "name" 'C' 4 0
    let dated ← named.addColumn "day" 'D' 8 0
    let counted ← dated.addColumn "people" 'N' 5 0
    let (_, kept) ← counted.removeColumn "DAY"
    return { kept with recordCount := 2 }
  columns.toOption.getD (.new .epoch)

theorem censusHeader_edited : censusHeader.Edited := by
  have hNamed : ∃ named dated counted index kept,
      (TableHeader.new .epoch).addColumn "name" 'C' 4 0 = .ok named ∧
      named.addColumn "day" 'D' 8 0 = .ok dated ∧ dated.addColumn "people" 'N' 5 0 = .ok counted ∧
      counted.removeColumn "DAY" = .ok (index, kept) ∧
      { kept with recordCount := 2 } = censusHeader := by
    exact ⟨_, _, _, _, _, rfl, rfl, rfl, rfl, rfl⟩
  obtain ⟨named, dated, counted, index, kept, hName, hDay, hPeople, hRemove, hSame⟩ := hNamed
  rw [← hSame]
  exact .count (.remove (.add (.add (.add (.new .epoch) hName) hDay) hPeople) hRemove) 2

/-- Two towns, one by its values and one by its record, and between them a
row without a number and a record that is too short. -/
def censusCalls : List TableWriter.Call :=
  [.row [.varchar "Rome", .int 27], .row [.varchar "Oslo"], .record [0x20],
    .record [0x20, 0x4f, 0x73, 0x6c, 0x6f, 0x20, 0x20, 0x20, 0x20, 0x37]]

theorem written_table_agrees_census : ∃ file : Bytes,
    (∀ capacity, ((TableWriter.create censusHeader capacity).run censusCalls).2.close.file =
      file) ∧
    ∀ capacity, ∃ r, TableReader.onChannel file capacity none = .ok r ∧ r.header.recordCount = 2 ∧
      ((r.afterQueries file [.row 0, .cell 1 1]).row file 1).1 = r.header.parseRecord
        [0x20, 0x4f, 0x73, 0x6c, 0x6f, 0x20, 0x20, 0x20, 0x20, 0x37] := by
  obtain ⟨⟨file, hFile, _, _, _, hReader⟩, _⟩ := written_table_agrees censusHeader_edited
    (by decide +kernel) (by decide +kernel) (by decide +kernel) (by decide +kernel) censusCalls
  have hRow : (TableWriter.accepted censusHeader censusCalls)[1]? =
      some [0x20, 0x4f, 0x73, 0x6c, 0x6f, 0x20, 0x20, 0x20, 0x20, 0x37] := by
    decide +kernel
  refine ⟨file, fun capacity => (hFile capacity).2, fun capacity => ?_⟩
  obtain ⟨r, hOpen, hCount, _, _, _, hRows⟩ := hReader capacity none
  exact ⟨r, hOpen, hCount, hRows _ 1 _ (by decide +kernel) hRow⟩

end TableHeader

end Shapefile
