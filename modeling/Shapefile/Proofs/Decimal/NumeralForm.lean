import Shapefile.Decimal.Fixed
import Shapefile.Proofs.Decimal.IntegerText

/-! The form of decimal numerals: an optional minus sign, digits, and
optionally a point with digits behind it. Integers have it, and doubles with a
fixed number of places have it exactly if they are finite. -/
namespace Shapefile.Decimal

/-- One digit or more. -/
def IsDigits (text : List Char) : Prop := text ≠ [] ∧ ∀ c ∈ text, c.isDigit = true

theorem IsDigits.take {text : List Char} (hDigits : IsDigits text) {count : Nat}
    (hCount : 0 < count) : IsDigits (text.take count) := by
  obtain ⟨hSome, hAll⟩ := hDigits
  refine ⟨fun hNone => ?_, fun c hMem => hAll c (List.mem_of_mem_take hMem)⟩
  rcases List.take_eq_nil_iff.mp hNone with hZero | hNil
  · exact absurd hZero (Nat.ne_of_gt hCount)
  · exact hSome hNil

theorem IsDigits.drop {text : List Char} (hDigits : IsDigits text) {count : Nat}
    (hCount : count < text.length) : IsDigits (text.drop count) := by
  refine ⟨fun hNone => ?_, fun c hMem => hDigits.2 c (List.mem_of_mem_drop hMem)⟩
  exact absurd (List.drop_eq_nil_iff.mp hNone) (Nat.not_le_of_lt hCount)

theorem isDigits_natural (n : Nat) : IsDigits (natural n) :=
  ⟨natural_ne_nil n, fun _ => isDigit_of_mem_natural⟩

theorem isDigits_padded (width n : Nat) : IsDigits (padded width n) :=
  ⟨padded_ne_nil width n, fun _ => isDigit_of_mem_padded⟩

/-- Digits, and optionally a point with digits behind it. -/
inductive IsUnsigned : List Char → Prop where
  | whole {digits : List Char} (hDigits : IsDigits digits) : IsUnsigned digits
  | places {whole places : List Char} (hWhole : IsDigits whole) (hPlaces : IsDigits places) :
      IsUnsigned (whole ++ '.' :: places)

/-- A numeral without a sign, or behind a minus sign. -/
inductive IsNumeral : List Char → Prop where
  | plain {text : List Char} (hText : IsUnsigned text) : IsNumeral text
  | minus {text : List Char} (hText : IsUnsigned text) : IsNumeral ('-' :: text)

theorem IsUnsigned.mem {text : List Char} (hText : IsUnsigned text) {c : Char} (hMem : c ∈ text) :
    c = '.' ∨ c.isDigit = true := by
  cases hText with
  | whole hDigits => exact Or.inr (hDigits.2 c hMem)
  | places hWhole hPlaces =>
      rcases List.mem_append.mp hMem with hBefore | hBehind
      · exact Or.inr (hWhole.2 c hBefore)
      · rcases List.mem_cons.mp hBehind with hPoint | hPlace
        · exact Or.inl hPoint
        · exact Or.inr (hPlaces.2 c hPlace)

/-- The characters of a numeral. -/
theorem IsNumeral.mem {text : List Char} (hText : IsNumeral text) {c : Char} (hMem : c ∈ text) :
    c = '-' ∨ c = '.' ∨ c.isDigit = true := by
  cases hText with
  | plain hText => exact Or.inr (hText.mem hMem)
  | minus hText =>
      rcases List.mem_cons.mp hMem with hSign | hRest
      · exact Or.inl hSign
      · exact Or.inr (hText.mem hRest)

theorem IsNumeral.ne_nil {text : List Char} (hText : IsNumeral text) : text ≠ [] := by
  cases hText with
  | plain hText =>
      cases hText with
      | whole hDigits => exact hDigits.1
      | places hWhole hPlaces => simp
  | minus hText => simp

theorem isNumeral_integer (n : Int) : IsNumeral (integer n) := by
  have hDigits := isDigits_natural n.natAbs
  rw [integer]
  split
  · exact .minus (.whole hDigits)
  · exact .plain (.whole hDigits)

theorem le_length_padded (width n : Nat) : width ≤ (padded width n).length := by
  rw [padded, List.length_append, List.length_replicate]
  omega

/-- Zeros are filled in until a digit stands in front of the point. -/
theorem isUnsigned_withPlaces (n places : Nat) : IsUnsigned (withPlaces n places) := by
  have hDigits := isDigits_padded (places + 1) n
  have hLength := le_length_padded (places + 1) n
  have hWhole := hDigits.take (by omega : 0 < (padded (places + 1) n).length - places)
  rw [withPlaces]
  split
  next hNone => exact .whole hWhole
  next hSome =>
    exact .places hWhole
      (hDigits.drop (by omega : (padded (places + 1) n).length - places < _))

/-- The names of the doubles that are not finite. -/
inductive IsName : List Char → Prop where
  | notANumber : IsName ['N', 'a', 'N']
  | infinity : IsName ['i', 'n', 'f']
  | minusInfinity : IsName ['-', 'i', 'n', 'f']

/-- A finite double is written as a numeral, and any other by its name. -/
theorem fixed_cases (places : Nat) (x : Float) :
    (x.isFinite = true ∧ IsNumeral (fixed places x)) ∨
      (x.isFinite = false ∧ IsName (fixed places x)) := by
  have hFinite : x.isFinite = x.toModel.unpack.isFinite := rfl
  rw [hFinite, fixed]
  cases x.toModel.unpack with
  | notANumber => exact Or.inr ⟨rfl, .notANumber⟩
  | infinity sign =>
      cases sign with
      | positive => exact Or.inr ⟨rfl, .infinity⟩
      | negative => exact Or.inr ⟨rfl, .minusInfinity⟩
  | zero sign =>
      cases sign with
      | positive => exact Or.inl ⟨rfl, .plain (isUnsigned_withPlaces 0 places)⟩
      | negative => exact Or.inl ⟨rfl, .minus (isUnsigned_withPlaces 0 places)⟩
  | finite sign m q hPositive =>
      cases sign with
      | positive => exact Or.inl ⟨rfl, .plain (isUnsigned_withPlaces _ places)⟩
      | negative => exact Or.inl ⟨rfl, .minus (isUnsigned_withPlaces _ places)⟩

/-- A letter of each name shows that it is no numeral. -/
theorem IsName.not_isNumeral {text : List Char} (hName : IsName text) : ¬IsNumeral text := by
  intro hText
  cases hName with
  | notANumber => exact absurd (hText.mem (by simp : 'N' ∈ _)) (by decide)
  | infinity => exact absurd (hText.mem (by simp : 'f' ∈ _)) (by decide)
  | minusInfinity => exact absurd (hText.mem (by simp : 'f' ∈ _)) (by decide)

theorem isNumeral_fixed_iff {places : Nat} {x : Float} :
    IsNumeral (fixed places x) ↔ x.isFinite = true := by
  rcases fixed_cases places x with ⟨hFinite, hText⟩ | ⟨hOther, hName⟩
  · exact iff_of_true hText hFinite
  · refine iff_of_false hName.not_isNumeral ?_
    rw [hOther]
    exact Bool.false_ne_true

end Shapefile.Decimal
