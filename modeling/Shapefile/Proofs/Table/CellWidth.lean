import Shapefile.Proofs.Calendar.CompactDate
import Shapefile.Proofs.Table.Layout
import Shapefile.Table.Cell

/-! Encoded cells. Whatever value is encoded, the bytes fill the field exactly,
and they stand for some value again. -/
namespace Shapefile

/-- The byte that is repeated where fields of this type have no value. -/
def FieldType.fillerByte : FieldType → UInt8
  | varchar => 0
  | boolean => 0x3F
  | date => 0x30
  | int | bigInt | double => 0x2A

namespace Field

@[simp] theorem length_filler (f : Field) : f.filler.length = f.length := List.length_replicate

@[simp] theorem length_fitText (encode : List Char → List UInt8) (length : Nat)
    (text : List Char) : (fitText encode length text).length = length := by
  rw [fitText, List.length_append, List.length_replicate, List.length_take]
  omega

@[simp] theorem length_fitNumber (f : Field) (text : List Char) :
    (f.fitNumber text).length = f.length := by
  unfold fitNumber
  split
  next hFits =>
    rw [List.length_append, List.length_replicate, ascii, List.length_map]
    omega
  next hWide => exact f.length_filler

/-- An encoded cell is as wide as its field. -/
theorem length_encode [Host] {f : Field} (hField : f.WellFormed) {page : Text.CodePage}
    {value : Value} {bytes : List UInt8} (hEncode : f.encode page value = .ok bytes) :
    bytes.length = f.length := by
  unfold encode at hEncode
  split at hEncode
  next hNull =>
    cases hEncode
    exact f.length_filler
  next hSome =>
    split at hEncode
    next hType =>
      split at hEncode
      · cases hEncode
      · cases hEncode
        exact length_fitText _ _ _
    next hType =>
      split at hEncode
      · cases hEncode
        exact (hField.boolean_length hType).symm
      · cases hEncode
    next hType =>
      split at hEncode
      · split at hEncode
        next hYear =>
          cases hEncode
          rw [ascii, List.length_map, Date.length_compact hYear.1 hYear.2,
            hField.date_length hType]
        next hYear => cases hEncode
      · cases hEncode
    next hType =>
      split at hEncode
      · cases hEncode
        exact length_fitNumber _ _
      · cases hEncode
        exact length_fitNumber _ _
      · cases hEncode
        exact length_fitNumber _ _
      · cases hEncode
    next hType =>
      split at hEncode
      · cases hEncode
        exact length_fitNumber _ _
      · cases hEncode
        exact length_fitNumber _ _
      · cases hEncode
        exact length_fitNumber _ _
      · cases hEncode
    next hType =>
      split at hEncode
      · cases hEncode
        split
        · exact length_fitNumber _ _
        · exact f.length_filler
      · cases hEncode

theorem readLogical_congr (f other : Field) {bytes : List UInt8} {value : Value}
    (hRead : f.readLogical bytes = .ok value) : other.readLogical bytes = .ok value := by
  simp only [readLogical] at hRead ⊢
  generalize FieldType.code (bytes.head?.getD 0x3F) = letter at hRead ⊢
  split at hRead
  all_goals first
    | exact hRead
    | cases hRead

/-- What a field reads depends on its type alone, unless it refuses the bytes. -/
theorem parse_congr [Host] {f other : Field} (hType : other.fieldType = f.fieldType)
    {page : Text.CodePage} {bytes : List UInt8} {value : Value}
    (hParse : f.parse page bytes = .ok value) : other.parse page bytes = .ok value := by
  unfold parse at hParse ⊢
  rw [hType]
  cases hCase : f.fieldType with
  | boolean =>
      rw [hCase] at hParse
      exact readLogical_congr f other hParse
  | _ =>
      rw [hCase] at hParse
      exact hParse

/-- The byte that fills a field without a value goes with its type. -/
theorem nullByte_of_ofDescriptor {typeCode : UInt8} {length decimals : Nat} {type : FieldType}
    (hType : FieldType.ofDescriptor typeCode length decimals = .ok type) :
    nullByte typeCode = type.fillerByte := by
  unfold FieldType.ofDescriptor at hType
  split at hType
  case h_7 hCode | h_8 hCode =>
    rw [nullByte, hCode]
    split at hType
    · split at hType <;> cases hType <;> rfl
    · cases hType
      rfl
  case h_13 => cases hType
  all_goals
    rename_i hCode
    cases hType
    rw [nullByte, hCode]
    rfl

theorem filler_eq {f : Field} (hField : f.WellFormed) :
    f.filler = List.replicate f.length f.fieldType.fillerByte := by
  rw [filler, nullByte_of_ofDescriptor hField.stored_type]

/-- An encoded cell is read as some value. -/
theorem parse_encode [Host] {f : Field} (hField : f.WellFormed) {page : Text.CodePage}
    {value : Value} {bytes : List UInt8} (hEncode : f.encode page value = .ok bytes) :
    ∃ read, f.parse page bytes = .ok read := by
  cases hType : f.fieldType with
  | boolean =>
      have hBytes : bytes = [0x3F] ∨ bytes = [0x54] ∨ bytes = [0x46] := by
        unfold encode at hEncode
        split at hEncode
        next hNull =>
          cases hEncode
          rw [filler_eq hField, hField.boolean_length hType, hType]
          exact Or.inl rfl
        next hSome =>
          rw [hType] at hEncode
          simp only at hEncode
          split at hEncode
          next b =>
            cases hEncode
            cases b <;> simp
          next hOther => cases hEncode
      unfold parse
      rw [hType]
      rcases hBytes with rfl | rfl | rfl
      · exact ⟨.null, rfl⟩
      · exact ⟨.boolean true, rfl⟩
      · exact ⟨.boolean false, rfl⟩
  | varchar =>
      simp only [parse, hType]
      split
      all_goals exact ⟨_, rfl⟩
  | date =>
      simp only [parse, hType]
      split
      all_goals exact ⟨_, rfl⟩
  | _ =>
      simp only [parse, hType]
      split
      all_goals exact ⟨_, rfl⟩

end Field

end Shapefile
