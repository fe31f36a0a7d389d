import Shapefile.Proofs.Table.CellWidth
import Shapefile.Proofs.Text.CharacterSizes

/-! Where text is cut to fit its field. What is kept is the longest beginning
of the text whose bytes fit. The search looks at the beginnings from the
longest down, so it does not matter that a shorter one can take more bytes
than a longer one. Going down means walking back over the offsets at which the
characters of the text begin in UTF-8, one byte at a time. -/
namespace Shapefile.Field

open Text

/-- The characters kept are the longest beginning of a text that is encoded in
no more than so many bytes. -/
structure LongestFitting (encode : List Char → List UInt8) (length : Nat)
    (text kept : List Char) : Prop where
  beginning : kept <+: text
  fits : (encode kept).length ≤ length
  longest : ∀ other, other <+: text → (encode other).length ≤ length →
    other.length ≤ kept.length

variable {encode : List Char → List UInt8} {length : Nat} {text : List Char}

/-- Nothing else could have been kept. -/
theorem LongestFitting.eq {kept other : List Char} (hKept : LongestFitting encode length text kept)
    (hOther : LongestFitting encode length text other) : kept = other := by
  have hLength : kept.length = other.length :=
    Nat.le_antisymm (hOther.longest kept hKept.beginning hKept.fits)
      (hKept.longest other hOther.beginning hOther.fits)
  exact (List.prefix_of_prefix_length_le hKept.beginning hOther.beginning
    hLength.le).eq_of_length hLength

/-- Of the first beginnings of a text the longest that fits is found, as the
empty one does. -/
theorem longestFitting_spec (hEmpty : encode [] = []) (length : Nat) (text : List Char)
    (count : Nat) :
    ∃ kept, LongestFitting encode length (text.take count) kept ∧
      longestFitting encode length text count = encode kept := by
  induction count with
  | zero =>
      refine ⟨[], ⟨List.nil_prefix, by simp [hEmpty], ?_⟩, rfl⟩
      intro other hOther _
      exact hOther.length_le
  | succ count ih =>
      by_cases hFits : (encode (text.take (count + 1))).length ≤ length
      · refine ⟨text.take (count + 1), ⟨List.prefix_rfl, hFits, ?_⟩, ?_⟩
        · intro other hOther _
          exact hOther.length_le
        · rw [longestFitting]
          exact if_pos hFits
      · obtain ⟨kept, hKept, hBytes⟩ := ih
        refine ⟨kept, ⟨?_, hKept.fits, ?_⟩, ?_⟩
        · exact hKept.beginning.trans (List.take_prefix_take_left (Nat.le_succ count))
        · intro other hOther hSmall
          obtain ⟨hText, hLength⟩ := List.prefix_take_iff.mp hOther
          apply hKept.longest other _ hSmall
          refine List.prefix_take_iff.mpr ⟨hText, ?_⟩
          -- The one beginning of this length is the one that does not fit.
          by_contra hLonger
          have hWhole : other = text.take (count + 1) := by
            rw [List.prefix_iff_eq_take.mp hText]
            congr 1
            omega
          exact hFits (hWhole ▸ hSmall)
        · rw [longestFitting]
          exact (if_neg hFits).trans hBytes

/-- The cell of a text is the longest beginning that fits, and blanks. -/
theorem fitText_eq (hEmpty : encode [] = []) (length : Nat) (text : List Char) :
    ∃ kept, LongestFitting encode length text kept ∧
      fitText encode length text =
        encode kept ++ List.replicate (length - (encode kept).length) 0x20 := by
  obtain ⟨kept, hKept, hBytes⟩ := longestFitting_spec hEmpty length text text.length
  rw [List.take_length] at hKept
  refine ⟨kept, hKept, ?_⟩
  rw [fitText, hBytes, List.take_of_length_le hKept.fits]

/-! ### Offsets in UTF-8 -/

/-- The characters in front of an offset in the UTF-8 bytes of a text, if one
of its characters begins or the last one ends there. -/
def before? : List Char → Nat → Option (List Char)
  | _, 0 => some []
  | [], _ + 1 => none
  | c :: text, offset + 1 =>
    if c.utf8Size ≤ offset + 1 then
      (before? text (offset + 1 - c.utf8Size)).map (c :: ·)
    else none

theorem before?_eq_some_iff {offset : Nat} {front : List Char} :
    before? text offset = some front ↔ front <+: text ∧ utf8Length front = offset := by
  fun_induction before? text offset generalizing front with
  | case1 text =>
      constructor
      · intro hFront
        cases hFront
        exact ⟨List.nil_prefix, rfl⟩
      · rintro ⟨-, hLength⟩
        cases front with
        | nil => rfl
        | cons c front =>
            have hSize := c.utf8Size_pos
            rw [utf8Length_cons] at hLength
            omega
  | case2 offset =>
      refine iff_of_false nofun ?_
      rintro ⟨hFront, hLength⟩
      rw [List.prefix_nil.mp hFront] at hLength
      cases hLength
  | case3 offset c text hInside ih =>
      rw [Option.map_eq_some_iff]
      constructor
      · rintro ⟨rest, hRest, rfl⟩
        obtain ⟨hFront, hLength⟩ := ih.mp hRest
        refine ⟨List.cons_prefix_cons.mpr ⟨rfl, hFront⟩, ?_⟩
        rw [utf8Length_cons]
        omega
      · rintro ⟨hFront, hLength⟩
        cases front with
        | nil => cases hLength
        | cons d rest =>
            obtain ⟨rfl, hRest⟩ := List.cons_prefix_cons.mp hFront
            rw [utf8Length_cons] at hLength
            exact ⟨rest, ih.mpr ⟨hRest, by omega⟩, rfl⟩
  | case4 offset c text hSplit =>
      refine iff_of_false nofun ?_
      rintro ⟨hFront, hLength⟩
      cases front with
      | nil => cases hLength
      | cons d rest =>
          obtain ⟨rfl, hRest⟩ := List.cons_prefix_cons.mp hFront
          rw [utf8Length_cons] at hLength
          omega

/-- The last offset at or below the given one where no character is split. -/
def boundaryAtMost (text : List Char) : Nat → Nat
  | 0 => 0
  | offset + 1 =>
    if (before? text (offset + 1)).isSome then offset + 1 else boundaryAtMost text offset

theorem boundaryAtMost_le (text : List Char) (offset : Nat) :
    boundaryAtMost text offset ≤ offset := by
  induction offset with
  | zero => exact Nat.le_refl 0
  | succ offset ih =>
      rw [boundaryAtMost]
      split
      · exact Nat.le_refl _
      · exact Nat.le_succ_of_le ih

/-- Step back from a boundary of the text to the one before it until the bytes
of what is in front fit. -/
def walkBack (encode : List Char → List UInt8) (length : Nat) (text : List Char) (stop : Nat)
    (bytes : List UInt8) : List UInt8 :=
  if length < bytes.length ∧ 0 < stop then
    let next := boundaryAtMost text (stop - 1)
    walkBack encode length text next (encode ((before? text next).getD []))
  else bytes
termination_by stop
decreasing_by
  have hBack := boundaryAtMost_le text (stop - 1)
  omega

/-- Text cut by a walk over its offsets, and brought to the width. -/
def fitTextByOffsets (encode : List Char → List UInt8) (length : Nat) (text : List Char) :
    List UInt8 :=
  let bytes := encode text
  let bytes :=
    if length < bytes.length then walkBack encode length text (utf8Length text) bytes else bytes
  bytes.take length ++ List.replicate (length - bytes.length) 0x20

theorem utf8Length_le_of_beginning {front other : List Char} (hFront : front <+: other) :
    utf8Length front ≤ utf8Length other := by
  obtain ⟨rest, rfl⟩ := hFront
  rw [utf8Length_append]
  omega

/-- One more character is at least one more byte. -/
theorem utf8Length_take_lt {count : Nat} (hCount : count < text.length) :
    utf8Length (text.take count) < utf8Length (text.take (count + 1)) := by
  have hSize := text[count].utf8Size_pos
  rw [List.take_succ_eq_append_getElem hCount, utf8Length_append, utf8Length_cons]
  omega

/-- Between the ends of two beginnings that differ by one character, no
character begins. -/
theorem before?_eq_none {count offset : Nat} (hStart : utf8Length (text.take count) < offset)
    (hStop : offset < utf8Length (text.take (count + 1))) : before? text offset = none := by
  rw [Option.eq_none_iff_forall_ne_some]
  intro front hFront
  obtain ⟨hText, hLength⟩ := before?_eq_some_iff.mp hFront
  rcases Nat.lt_or_ge count front.length with hLong | hShort
  · have hOver : text.take (count + 1) <+: front := by
      rw [List.prefix_iff_eq_take.mp hText]
      exact List.take_prefix_take_left hLong
    have hMore := utf8Length_le_of_beginning hOver
    omega
  · have hUnder : front <+: text.take count := List.prefix_take_iff.mpr ⟨hText, hShort⟩
    have hLess := utf8Length_le_of_beginning hUnder
    omega

/-- Walking down from inside a character ends where the character begins. -/
theorem boundaryAtMost_eq {count offset : Nat}
    (hStart : utf8Length (text.take count) ≤ offset)
    (hStop : offset < utf8Length (text.take (count + 1))) :
    boundaryAtMost text offset = utf8Length (text.take count) := by
  induction offset with
  | zero => exact (Nat.le_zero.mp hStart).symm
  | succ offset ih =>
      rw [boundaryAtMost]
      by_cases hHere : utf8Length (text.take count) = offset + 1
      · rw [before?_eq_some_iff.mpr ⟨List.take_prefix count text, hHere⟩, hHere]
        rfl
      · rw [before?_eq_none (by omega) hStop]
        exact ih (by omega) (by omega)

/-- Walking back from the end of a beginning finds what the search among the
beginnings up to it finds. -/
theorem walkBack_eq {count : Nat} (hCount : count ≤ text.length) :
    walkBack encode length text (utf8Length (text.take count)) (encode (text.take count)) =
      longestFitting encode length text count := by
  -- The walk is at the end of a beginning and holds its bytes; a step takes one character off.
  induction count with
  | zero =>
      rw [walkBack, if_neg (by simp [utf8Length])]
      rfl
  | succ count ih =>
      have hBelow := utf8Length_take_lt hCount
      rw [walkBack, longestFitting]
      by_cases hFits : (encode (text.take (count + 1))).length ≤ length
      · rw [if_neg (by omega), if_pos hFits]
      · have hNext : boundaryAtMost text (utf8Length (text.take (count + 1)) - 1) =
            utf8Length (text.take count) := boundaryAtMost_eq (by omega) (by omega)
        have hFront : before? text (utf8Length (text.take count)) = some (text.take count) :=
          before?_eq_some_iff.mpr ⟨List.take_prefix count text, rfl⟩
        rw [if_pos (by omega), if_neg hFits]
        simp only [hNext, hFront, Option.getD_some]
        exact ih (Nat.le_of_succ_le hCount)

/-- The walk over the offsets cuts where the search does, whatever the
encoding. -/
theorem fitTextByOffsets_eq (encode : List Char → List UInt8) (length : Nat) (text : List Char) :
    fitTextByOffsets encode length text = fitText encode length text := by
  have hWalk : walkBack encode length text (utf8Length text) (encode text) =
      longestFitting encode length text text.length := by
    rw [← walkBack_eq (Nat.le_refl text.length), List.take_length]
  have hBytes : (if length < (encode text).length then
      walkBack encode length text (utf8Length text) (encode text) else encode text) =
        longestFitting encode length text text.length := by
    rw [← hWalk]
    split
    next hLong => rfl
    next hShort => rw [walkBack, if_neg (by omega)]
  rw [fitTextByOffsets, fitText]
  simp only [hBytes, List.length_take]
  congr 2
  omega

/-- A text is cut for its field behind the longest of its beginnings whose
bytes fit, and blanks fill what is left, for every encoding that makes nothing
of nothing. The bytes are as many as the field has, and the walk over the UTF-8
offsets of the text ends with them. -/
theorem fitText_keeps_longest (encode : List Char → List UInt8) (hEmpty : encode [] = [])
    (length : Nat) (text : List Char) :
    (fitText encode length text).length = length ∧
      fitTextByOffsets encode length text = fitText encode length text ∧
      ∃ kept, LongestFitting encode length text kept ∧
        (∀ other, LongestFitting encode length text other → other = kept) ∧
        fitText encode length text =
          encode kept ++ List.replicate (length - (encode kept).length) 0x20 := by
  obtain ⟨kept, hKept, hBytes⟩ := fitText_eq hEmpty length text
  exact ⟨length_fitText encode length text, fitTextByOffsets_eq encode length text, kept, hKept,
    fun other hOther => hOther.eq hKept, hBytes⟩

/-- An encoding in which a text that ends outside ASCII is closed by an escape
sequence, so that a longer text can take fewer bytes. -/
def escapeAtEnd (text : List Char) : List UInt8 :=
  ascii text ++ if text.getLast?.any (0x80 ≤ ·.toNat) then [0x1B, 0x28, 0x42] else []

theorem fitText_keeps_longest_escapeAtEnd :
    3 < (escapeAtEnd ['a', 'é']).length ∧
      fitTextByOffsets escapeAtEnd 3 ['a', 'é', 'b', 'é'] = escapeAtEnd ['a', 'é', 'b'] := by
  obtain ⟨_, hWalk, kept, hKept, _, hBytes⟩ :=
    fitText_keeps_longest escapeAtEnd rfl 3 ['a', 'é', 'b', 'é']
  have hLong : 3 ≤ kept.length := hKept.longest ['a', 'é', 'b'] (by decide) (by decide)
  have hShort : kept.length ≠ 4 := by
    intro hWhole
    have hFits := hKept.fits
    rw [hKept.beginning.eq_of_length hWhole] at hFits
    exact absurd hFits (by decide)
  have hThree : kept.length = 3 := by
    have hMost := hKept.beginning.length_le
    simp only [List.length_cons, List.length_nil] at hMost
    omega
  have hSame : kept = ['a', 'é', 'b'] := by
    rw [List.prefix_iff_eq_take.mp hKept.beginning, hThree]
    rfl
  rw [hWalk, hBytes, hSame]
  exact ⟨by decide, rfl⟩

end Shapefile.Field
