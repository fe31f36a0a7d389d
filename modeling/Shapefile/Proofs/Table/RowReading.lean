import Shapefile.Proofs.Running
import Shapefile.Proofs.Storage.StagingContent
import Shapefile.Proofs.Storage.WindowView
import Shapefile.Proofs.Table.CellWidth
import Shapefile.Proofs.Table.HeaderReading
import Shapefile.Table.Reader
import Shapefile.Table.Writer

/-! Rows of a table file. A record is encoded cell by cell; it stands behind
the header at a multiple of its length, and the row read from there is what
the fields read back for the values that were encoded. -/
namespace Shapefile

/-- What a field reads on the bytes that it is encoded in. -/
def Field.readBack [Host] (f : Field) (page : Text.CodePage) (value : Value) :
    Except TableError Value := do
  f.parse page (← f.encode page value)

namespace TableHeader

open Reading

/-- A row as its fields read it back, value by value. -/
def readBackRow [Host] (h : TableHeader) (values : List Value) : Except TableError (List Value) :=
  (h.fields.zip values).mapM fun (field, value) => field.readBack h.codePage value

/-- A cell is read where it lies, whatever lies around it. -/
theorem cellOf_rereadField [Host] {h : TableHeader} {f : Field} {before cell later : List UInt8}
    (hOffset : f.offset = before.length) (hWidth : cell.length = f.length) {value : Value}
    (hParse : f.parse h.codePage cell = .ok value) (page : Text.CodePage) :
    h.cellOf (before ++ (cell ++ later)).toArray (rereadField page f) = .ok value := by
  have hStop : (rereadField page f).stop = before.length + cell.length := by
    rw [hWidth, ← hOffset]
    rfl
  have hInside : ¬(before ++ (cell ++ later)).toArray.size < (rereadField page f).stop := by
    rw [hStop, List.size_toArray, List.length_append, List.length_append]
    omega
  have hSlice : ((before ++ (cell ++ later)).toArray.extract (rereadField page f).offset
      (rereadField page f).stop).toList = cell := by
    rw [hStop]
    show ((before ++ (cell ++ later)).toArray.extract f.offset _).toList = cell
    rw [hOffset]
    exact (Bytes.HasAt.of_toList before later (by simp)).extract
  have hType : (rereadField page f).fieldType = f.fieldType := rfl
  rw [cellOf, if_neg hInside, hSlice]
  exact Field.parse_congr hType hParse

/-- The cells of a record are read back where they lie. -/
theorem mapM_cellOf [Host] {h : TableHeader} {fields : List Field}
    (hFields : ∀ f ∈ fields, f.WellFormed) {values : List Value} {cells : List (List UInt8)}
    {before : List UInt8} (hLaid : LaidFrom before.length fields)
    (hCount : values.length = fields.length)
    (hCells : (fields.zip values).mapM (fun (field, value) => field.encode h.codePage value) =
      .ok cells) :
    ∃ back,
      (fields.zip values).mapM (fun (field, value) => field.readBack h.codePage value) =
        .ok back ∧
      ∀ page, (fields.map (rereadField page)).mapM
        (h.cellOf (before ++ cells.flatten).toArray) = .ok back := by
  induction fields generalizing values cells before with
  | nil => exact ⟨[], rfl, fun _ => rfl⟩
  | cons f fields ih =>
      cases values with
      | nil => cases hCount
      | cons value values =>
          rw [List.zip_cons_cons, List.mapM_cons] at hCells
          obtain ⟨cell, hCell, hRest⟩ := bind_eq_ok hCells
          obtain ⟨others, hOthers, hSame⟩ := bind_eq_ok hRest
          cases hSame
          have hCell : f.encode h.codePage value = .ok cell := hCell
          have hField := hFields f List.mem_cons_self
          have hWidth := Field.length_encode hField hCell
          obtain ⟨hOffset, hBehind⟩ := hLaid
          rw [Field.stop, hOffset, ← hWidth, ← List.length_append] at hBehind
          obtain ⟨back, hBack, hRead⟩ := ih
            (fun other hOther => hFields other (List.mem_cons_of_mem f hOther)) hBehind
            (Nat.succ.inj hCount) hOthers
          obtain ⟨first, hFirst⟩ := Field.parse_encode hField hCell
          have hFirstBack : f.readBack h.codePage value = .ok first := by
            rw [Field.readBack, hCell]
            exact hFirst
          refine ⟨first :: back, ?_, fun page => ?_⟩
          · rw [List.zip_cons_cons, List.mapM_cons]
            simp only [hFirstBack, hBack]
            rfl
          · rw [List.append_assoc] at hRead
            rw [List.map_cons, List.mapM_cons, List.flatten_cons,
              cellOf_rereadField hOffset hWidth hFirst, hRead page]
            rfl

/-- An encoded row is the flag of a record in use and its cells, and it passes the check of its
length that follows. -/
theorem cells_of_encodeRow [Host] {h : TableHeader} {values : List Value} {record : List UInt8}
    (hEncode : h.encodeRow values = .ok record) :
    values.length = h.fieldCount ∧ h.checkRecord record = .ok () ∧
      ∃ cells, (h.fields.zip values).mapM (fun (field, value) => field.encode h.codePage value) =
        .ok cells ∧ record = inUse :: cells.flatten := by
  unfold encodeRow at hEncode
  by_cases hCount : values.length = h.fieldCount
  · rw [if_neg (not_not_intro hCount)] at hEncode
    obtain ⟨cells, hCells, hRest⟩ := bind_eq_ok hEncode
    obtain ⟨_, hChecked, hSame⟩ := bind_eq_ok hRest
    cases hSame
    exact ⟨hCount, hChecked, cells, hCells, rfl⟩
  · rw [if_pos hCount] at hEncode
    cases hEncode

theorem checkRecord_of_encodeRow [Host] {h : TableHeader} {values : List Value}
    {record : List UInt8}
    (hEncode : h.encodeRow values = .ok record) : h.checkRecord record = .ok () :=
  (cells_of_encodeRow hEncode).2.1

theorem length_of_checkRecord {h : TableHeader} {record : List UInt8}
    (hChecked : h.checkRecord record = .ok ()) : record.length = h.recordLength := by
  refine Decidable.byContradiction fun hOther => ?_
  rw [checkRecord, if_pos hOther] at hChecked
  cases hChecked

/-- An encoded row has the length of a record, and is read back from it. -/
theorem encodeRow_readBack [Host] {h : TableHeader} (hLaid : h.Laid) {values : List Value}
    {record : List UInt8} (hEncode : h.encodeRow values = .ok record) :
    record.length = h.recordLength ∧ ∃ back, h.readBackRow values = .ok back ∧
      ∀ forced, h.codePage = (h.reread forced).codePage →
        (h.reread forced).rowOf record.toArray = .ok back := by
  have hLength := length_of_checkRecord (checkRecord_of_encodeRow hEncode)
  obtain ⟨hCount, _, cells, hCells, rfl⟩ := cells_of_encodeRow hEncode
  have hOffsets : LaidFrom [inUse].length h.fields := hLaid.offsets
  obtain ⟨back, hBack, hRead⟩ := mapM_cellOf hLaid.fields hOffsets hCount hCells
  refine ⟨hLength, back, hBack, fun forced hPage => ?_⟩
  have hCellOf : (h.reread forced).cellOf (inUse :: cells.flatten).toArray =
      h.cellOf (inUse :: cells.flatten).toArray := by
    funext field
    rw [cellOf, cellOf, hPage]
  rw [rowOf, hCellOf]
  exact hRead h.codePage

/-- A table file: its header, its records and the byte that ends it. -/
def fileOf [Host] (h : TableHeader) (records : List (List UInt8)) : List UInt8 :=
  h.bytes ++ records.flatten ++ [TableWriter.endOfFile]

/-- Every descriptor takes the same room. -/
theorem length_fieldPuts [Host] (page : Text.CodePage) (f : Field) :
    (fieldPuts page f).flatten.length = descriptorSize := by
  simp [fieldPuts, length_storedName, word, descriptorSize, storedNameSize]

/-- A header takes the room of its fixed parts and of its descriptors. -/
theorem length_bytes_eq [Host] (h : TableHeader) :
    h.bytes.length = leastLength + descriptorSize * h.fields.length := by
  rw [bytes_eq]
  simp only [bytesRead, List.length_append, List.length_cons, List.length_nil,
    Bytes.length_flatten_flatMap h.fields (length_fieldPuts h.codePage), word,
    shortWord, ByteOrder.length_int32, ByteOrder.length_int16, List.length_replicate, leastLength]
  omega

theorem length_bytes [Host] {h : TableHeader} (hTight : h.Tight) :
    h.bytes.length = h.headerLength := by
  rw [length_bytes_eq, hTight.headerLength_eq]

/-- A record stands behind the header and the records before it, whatever
length the header declares for itself. -/
theorem fileOf_hasAt [Host] {h : TableHeader} {records : List (List UInt8)}
    (hRecords : ∀ record ∈ records, record.length = h.recordLength) {row : Nat}
    {record : List UInt8} (hRow : records[row]? = some record) {channel : Bytes}
    (hChannel : channel.toList = h.fileOf records) :
    channel.HasAt (h.bytes.length + row * h.recordLength) record ∧
      h.bytes.length + row * h.recordLength + h.recordLength ≤ channel.size := by
  obtain ⟨before, later, rfl, rfl⟩ := List.exists_split_at hRow
  have hPlace : (h.bytes ++ before.flatten).length =
      h.bytes.length + before.length * h.recordLength := by
    rw [List.length_append,
      Bytes.length_flatten_pieces fun r hMember => hRecords r (List.mem_append_left _ hMember),
      Nat.mul_comm]
  have hWhole : channel.toList = h.bytes ++ before.flatten ++ record ++
      (later.flatten ++ [TableWriter.endOfFile]) := by
    rw [hChannel, fileOf]
    simp
  rw [← hPlace]
  refine ⟨Bytes.HasAt.of_toList _ _ hWhole, ?_⟩
  have hLength := hRecords record (by simp)
  rw [← Array.length_toList, hWhole]
  simp only [List.length_append]
  omega

end TableHeader

end Shapefile
