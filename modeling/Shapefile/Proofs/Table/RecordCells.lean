import Shapefile.Proofs.Table.RowReading

/-! The cells of a record. Each field has its bytes at its own place; in an
encoded row they are the encoding of the value of that column, whatever stands
in the other columns, and a reader parses the same bytes. -/
namespace Shapefile

/-- The bytes of a field in a record. -/
def Field.slice (f : Field) (record : List UInt8) : List UInt8 :=
  (record.drop f.offset).take f.length

/-- The bytes of a field between those that lie before and behind it. -/
theorem Field.slice_append {f : Field} {before cell : List UInt8}
    (hOffset : f.offset = before.length) (hWidth : cell.length = f.length) (later : List UInt8) :
    f.slice (before ++ (cell ++ later)) = cell := by
  rw [slice, hOffset, List.drop_left, ← hWidth, List.take_left]

namespace TableHeader

/-- A field that ends inside a record is read from its own bytes alone. -/
theorem cellOf_eq_parse [Host] (h : TableHeader) {f : Field} {record : List UInt8}
    (hInside : f.stop ≤ record.length) :
    h.cellOf record.toArray f = f.parse h.codePage (f.slice record) := by
  have hFits : ¬record.toArray.size < f.stop := Nat.not_lt.mpr hInside
  have hWidth : f.stop - f.offset = f.length := Nat.add_sub_cancel_left _ _
  rw [cellOf, if_neg hFits, Array.toList_extract, List.extract_eq_take_drop, hWidth, Field.slice]

/-- In a run of encoded cells each field has the encoding of its value. -/
theorem encode_slice_of_mapM [Host] {page : Text.CodePage} {fields : List Field}
    (hFields : ∀ f ∈ fields, f.WellFormed) {values : List Value} {cells : List (List UInt8)}
    {before : List UInt8} (hLaid : LaidFrom before.length fields)
    (hCells : (fields.zip values).mapM (fun (field, value) => field.encode page value) = .ok cells)
    {column : Nat} {f : Field} {value : Value} (hField : fields[column]? = some f)
    (hValue : values[column]? = some value) :
    f.encode page value = .ok (f.slice (before ++ cells.flatten)) := by
  -- The bytes before grow by one cell with each field, and the offsets with them.
  induction fields generalizing values cells before column with
  | nil => cases hField
  | cons first fields ih =>
      cases values with
      | nil => cases hValue
      | cons firstValue values =>
          rw [List.zip_cons_cons, List.mapM_cons] at hCells
          obtain ⟨cell, hCell, hRest⟩ := bind_eq_ok hCells
          obtain ⟨others, hOthers, hSame⟩ := bind_eq_ok hRest
          cases hSame
          have hCell : first.encode page firstValue = .ok cell := hCell
          have hWidth := Field.length_encode (hFields first List.mem_cons_self) hCell
          obtain ⟨hOffset, hBehind⟩ := hLaid
          rw [List.flatten_cons]
          cases column with
          | zero =>
              cases hField
              cases hValue
              rw [Field.slice_append hOffset hWidth, hCell]
          | succ column =>
              rw [Field.stop, hOffset, ← hWidth, ← List.length_append] at hBehind
              rw [← List.append_assoc]
              exact ih (fun other hOther => hFields other (List.mem_cons_of_mem first hOther))
                hBehind hOthers hField hValue

/-- The bytes of a column in an encoded row are the encoding of its value. -/
theorem encode_slice [Host] {h : TableHeader} (hLaid : h.Laid) {values : List Value}
    {record : List UInt8} (hEncode : h.encodeRow values = .ok record) {column : Nat} {f : Field}
    {value : Value} (hField : h.fields[column]? = some f) (hValue : values[column]? = some value) :
    f.encode h.codePage value = .ok (f.slice record) := by
  obtain ⟨_, _, cells, hCells, rfl⟩ := cells_of_encodeRow hEncode
  have hOffsets : LaidFrom [inUse].length h.fields := hLaid.offsets
  exact encode_slice_of_mapM hLaid.fields hOffsets hCells hField hValue

/-- A column of an encoded row is read as the field reads back its value. -/
theorem cellOf_encodeRow [Host] {h : TableHeader} (hLaid : h.Laid) {values : List Value}
    {record : List UInt8} (hEncode : h.encodeRow values = .ok record) {column : Nat} {f : Field}
    {value : Value} (hField : h.fields[column]? = some f) (hValue : values[column]? = some value) :
    h.cellOf record.toArray f = f.readBack h.codePage value := by
  have hLength := length_of_checkRecord (checkRecord_of_encodeRow hEncode)
  have hInside : f.stop ≤ record.length := by
    rw [hLength, hLaid.recordLength_eq]
    exact hLaid.offsets.stop_le (List.mem_of_getElem? hField)
  rw [cellOf_eq_parse h hInside, Field.readBack, encode_slice hLaid hEncode hField hValue]
  rfl

end TableHeader

end Shapefile
