import Shapefile.Proofs.Storage.ReadingBack
import Shapefile.Proofs.Table.Layout
import Shapefile.Table.HeaderFormat

/-! What a table header reads back as. Counts, lengths and the layout of the
fields come back as they were; a name is cut to what a descriptor holds, a
number of places to one byte, and the date and the code page to what the file
has for them. -/
namespace Shapefile

namespace TableHeader

open Reading

/-- A field as it comes back from a descriptor. -/
def rereadField [Host] (page : Text.CodePage) (f : Field) : Field :=
  { f with name := readName (storedName page f.name), decimals := f.decimals % 256 }

/-- A header as it comes back from a file. -/
def reread [Host] (h : TableHeader) (forced : Option Text.CodePage) : TableHeader :=
  let date := h.lastUpdate.getD Host.today
  { h with
    lastUpdate := Date.of? (fullYear (yearByte date.year)) (UInt8.ofNat date.month).toNat
      (UInt8.ofNat date.day).toNat
    fields := h.fields.map (rereadField h.codePage)
    codePage := (forced.or (Text.CodePage.ofLanguageDriver? h.codePage.languageDriver)).getD
      .standard }

/-- The standard code page is what the header itself names. -/
theorem reread_codePage [Host] {h : TableHeader} (hPage : h.codePage = .standard) :
    (h.reread none).codePage = .standard := by
  have hNamed : (Text.CodePage.ofLanguageDriver? Text.CodePage.standard.languageDriver).getD
      .standard = .standard := by decide
  rw [reread, hPage]
  exact hNamed

theorem length_storedName [Host] (page : Text.CodePage) (name : String) :
    (storedName page name).length = storedNameSize := by
  simp only [storedName, List.length_append, List.length_replicate, List.length_take,
    storedNameSize]
  omega

theorem toNat_ofNat_of_le {n : Nat} (hByte : n ≤ greatestWidth) : (UInt8.ofNat n).toNat = n := by
  rw [greatestWidth] at hByte
  rw [UInt8.toNat_ofNat']
  exact Nat.mod_eq_of_lt (by omega)

/-- A descriptor of a field is read as the field where it lies. -/
theorem reads_readField [Host] {page : Text.CodePage} {f : Field} (hField : f.Storable) :
    Reads (readField f.offset) .little (fieldPuts page f).flatten .little
      (some (rereadField page f)) := by
  have hLength : (UInt8.ofNat f.length).toNat = f.length := toNat_ofNat_of_le hField.length_le
  have hPlaces : (UInt8.ofNat f.decimals).toNat = f.decimals % 256 := UInt8.toNat_ofNat'
  have hSome : UInt8.ofNat f.length ≠ 0 := by
    intro hZero
    have hNone := congrArg UInt8.toNat hZero
    rw [hLength] at hNone
    exact Nat.ne_of_gt hField.length_pos hNone
  have hBytes : (fieldPuts page f).flatten = storedName page f.name ++ ([f.typeCode] ++
      (word f.offset ++ ([UInt8.ofNat f.length] ++ ([UInt8.ofNat f.decimals] ++
        (List.replicate 14 0 ++ []))))) := by
    simp [fieldPuts]
  rw [hBytes]
  refine (Reads.raw .little (length_storedName _ _) (by decide)).bind ((Reads.uint8 .little _).bind
    ((Reads.skip .little (ByteOrder.length_int32 _ _)).bind ((Reads.uint8 .little _).bind
      ((Reads.uint8 .little _).bind ((Reads.skip .little List.length_replicate).bind ?_)))))
  rw [if_neg hSome]
  simp only [hLength, hPlaces]
  exact (Reads.ofExcept .little hField.stored_type).bind (Reads.done .little _)

/-- All descriptors, read behind fields that were read before. -/
theorem reads_readFields [Host] (page : Text.CodePage) {offset : Nat} {fields : List Field}
    (hFields : ∀ f ∈ fields, f.Storable) (hLaid : LaidFrom offset fields)
    (before : List Field) :
    Reads (readFields before offset fields.length) .little
      (fields.flatMap (fieldPuts page)).flatten .little
      (before ++ fields.map (rereadField page)) := by
  induction fields generalizing offset before with
  | nil =>
      rw [List.map_nil, List.append_nil]
      exact Reads.done .little before
  | cons f fields ih =>
      obtain ⟨rfl, hRest⟩ := hLaid
      have hNext := ih (fun other hOther => hFields other (List.mem_cons_of_mem f hOther)) hRest
        (before ++ [rereadField page f])
      rw [List.append_assoc] at hNext
      rw [List.flatMap_cons, List.flatten_append]
      exact (reads_readField (hFields f List.mem_cons_self)).bind hNext

/-- The parts of a header in the order of the file, up to the terminator. -/
def bytesRead [Host] (h : TableHeader) : List UInt8 :=
  let date := h.lastUpdate.getD Host.today
  [fileType] ++ ([yearByte date.year] ++ ([UInt8.ofNat date.month] ++
    ([UInt8.ofNat date.day] ++ (word h.recordCount ++ (shortWord h.headerLength ++
      (shortWord h.recordLength ++ (List.replicate 17 0 ++ ([h.codePage.languageDriver] ++
        (List.replicate 2 0 ++
          ((h.fields.flatMap (fieldPuts h.codePage)).flatten ++ []))))))))))

theorem bytes_eq [Host] (h : TableHeader) : h.bytes = h.bytesRead ++ [terminator] := by
  simp [bytes, puts, bytesRead]

/-- A length that fits a short word comes back from it. -/
theorem toNat_toUInt16_ofNat {n : Nat} (hSmall : n < 2 ^ 16) :
    (Int16.ofNat n).toUInt16.toNat = n := by
  rw [Int16.toUInt16_ofNat', UInt16.toNat_ofNat']
  exact Nat.mod_eq_of_lt hSmall

/-- A header of a file that is not too large is read back, whatever code page
is asked for. -/
theorem reads_readAtCursor [Host] {h : TableHeader} (hTight : h.Tight)
    (hCount : h.recordCount < 2 ^ 31)
    (hHeader : h.headerLength < 2 ^ 16) (hRecord : h.recordLength < 2 ^ 16)
    (forced : Option Text.CodePage) :
    Reads (readAtCursor forced) .little h.bytesRead .little (h.reread forced) := by
  have hValue : (Int32.ofNat h.recordCount).toInt = h.recordCount :=
    Int32.toInt_ofNat_of_lt hCount
  have hNotNegative : ¬Int32.ofNat h.recordCount < 0 := by
    rw [Int32.lt_iff_toInt_lt, hValue]
    exact Int.not_lt.mpr (Int.natCast_nonneg _)
  have hHeaderLength := toNat_toUInt16_ofNat hHeader
  have hRecordLength := toNat_toUInt16_ofNat hRecord
  have hLeast : ¬h.headerLength < leastLength := by
    rw [hTight.headerLength_eq]
    omega
  have hFieldCount : (h.headerLength - leastLength) / descriptorSize = h.fields.length := by
    rw [hTight.headerLength_eq, descriptorSize]
    omega
  have hFields := reads_readFields h.codePage hTight.fields hTight.offsets []
  refine (Reads.uint8 .little _).bind ((Reads.uint8 .little _).bind
    ((Reads.uint8 .little _).bind ((Reads.uint8 .little _).bind
      ((Reads.int32 .little _).bind ?_))))
  rw [if_neg hNotNegative]
  refine (Reads.int16 .little _).bind ((Reads.int16 .little _).bind ?_)
  simp only [hHeaderLength, hRecordLength, if_neg hLeast, hFieldCount, hValue]
  exact (Reads.skip .little List.length_replicate).bind ((Reads.uint8 .little _).bind
    ((Reads.skip .little List.length_replicate).bind (hFields.bind (Reads.done .little _))))

theorem onBytes_read [Host] {h : TableHeader} (hTight : h.Tight) (hCount : h.recordCount < 2 ^ 31)
    (hHeader : h.headerLength < 2 ^ 16) (hRecord : h.recordLength < 2 ^ 16)
    (forced : Option Text.CodePage) {channel : Bytes} (hBytes : channel.HasAt 0 h.bytes)
    (cursor : Cursor) :
    ((read forced).onBytes channel cursor).1 = .ok (h.reread forced) := by
  rw [bytes_eq] at hBytes
  exact congrArg Prod.fst
    (reads_readAtCursor hTight hCount hHeader hRecord forced channel 0 hBytes.left)

end TableHeader

end Shapefile
