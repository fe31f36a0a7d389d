import Mathlib.Tactic.FinCases
import Shapefile.Proofs.Text.BlankPadding
import Shapefile.Proofs.Text.CodePages
import Shapefile.Text.SampleSets

/-! The sample sets have the laws of the sets they stand for. Their characters
are read one by one, and what a sample lacks comes back as question marks. -/
namespace Shapefile.Text.MultiByte

/-- The bytes of a character in a sample, or of a question mark. -/
def sampleBytes (set : MultiByte) (c : Char) : List UInt8 :=
  if c.toNat < 0x80 then [UInt8.ofNat c.toNat]
  else ((set.repertoire.find? fun entry => entry.1 = c).map Prod.snd).getD [0x3F]

theorem encodeSample_cons (set : MultiByte) (c : Char) (text : List Char) :
    set.encodeSample (c :: text) = set.sampleBytes c ++ set.encodeSample text := List.flatMap_cons

theorem encodeSample_singleton (set : MultiByte) (c : Char) :
    set.encodeSample [c] = set.sampleBytes c := List.append_nil _

/-- The character is one of ASCII or of the sample. -/
def Samples (set : MultiByte) (c : Char) : Prop :=
  c.toNat < 0x80 ∨ (c, set.sampleBytes c) ∈ set.repertoire

theorem sampleBytes_ascii {set : MultiByte} {c : Char} (hAscii : c.toNat < 0x80) :
    set.sampleBytes c = [UInt8.ofNat c.toNat] := if_pos hAscii

theorem sampleBytes_of_not_samples {set : MultiByte} {c : Char} (hNone : ¬set.Samples c) :
    set.sampleBytes c = [0x3F] := by
  rw [Samples, not_or] at hNone
  obtain ⟨hHigh, hAbsent⟩ := hNone
  rw [sampleBytes, if_neg hHigh] at hAbsent ⊢
  cases hFound : set.repertoire.find? fun entry => entry.1 = c with
  | none => rfl
  | some entry =>
      have hChar : entry.1 = c := by simpa using List.find?_some hFound
      rw [hFound, ← hChar] at hAbsent
      exact absurd (List.mem_of_find?_eq_some hFound) hAbsent

theorem decodeSample_ascii {set : MultiByte} {b : UInt8} (hAscii : b < 0x80)
    (rest : List UInt8) :
    set.decodeSample (b :: rest) = Char.ofNat b.toNat :: set.decodeSample rest := by
  rw [decodeSample.eq_def]
  exact if_pos hAscii

theorem decodeSample_repertoire {set : MultiByte} {entry : Char × List UInt8}
    (hEntry : entry ∈ set.repertoire) (rest : List UInt8) :
    set.decodeSample (entry.2 ++ rest) = entry.1 :: set.decodeSample rest := by
  cases set
  all_goals
    fin_cases hEntry
    all_goals rfl

/-- A character of the sample is read as itself, whatever follows. -/
theorem decodeSample_of_samples {set : MultiByte} {c : Char} (hSome : set.Samples c)
    (rest : List UInt8) :
    set.decodeSample (set.sampleBytes c ++ rest) = c :: set.decodeSample rest := by
  rcases hSome with hAscii | hEntry
  · obtain ⟨hSame, hLow⟩ := asciiByte hAscii
    rw [sampleBytes_ascii hAscii, List.singleton_append, decodeSample_ascii hLow, hSame,
      Char.ofNat_toNat]
  · exact decodeSample_repertoire hEntry rest

/-- Only texts of the sample are kept. -/
theorem samples_of_lossless {set : MultiByte} {text : List Char}
    (hLossless : set.decodeSample (set.encodeSample text) = text) : ∀ c ∈ text, set.Samples c := by
  induction text with
  | nil => exact List.forall_mem_nil _
  | cons c text ih =>
      rw [encodeSample_cons] at hLossless
      by_cases hSome : set.Samples c
      · rw [decodeSample_of_samples hSome] at hLossless
        exact List.forall_mem_cons.mpr ⟨hSome, ih (List.cons.inj hLossless).2⟩
      · rw [sampleBytes_of_not_samples hSome, List.singleton_append,
          decodeSample_ascii (by decide)] at hLossless
        have hMark : '?' = c := (List.cons.inj hLossless).1
        exact absurd (.inl (hMark ▸ by decide)) hSome

theorem decodeSample_encodeSample_append {set : MultiByte} {text : List Char}
    (hSome : ∀ c ∈ text, set.Samples c) (rest : List UInt8) :
    set.decodeSample (set.encodeSample text ++ rest) = text ++ set.decodeSample rest := by
  induction text with
  | nil => rfl
  | cons c text ih =>
      obtain ⟨hFirst, hRest⟩ := List.forall_mem_cons.mp hSome
      rw [encodeSample_cons, List.append_assoc, decodeSample_of_samples hFirst, ih hRest,
        List.cons_append]

/-- No sample shifts, as that of ISO-2022-JP is ASCII. -/
theorem lawful_sample (set : MultiByte) : set.Lawful where
  encode_nil := rfl
  decode_nil := rfl
  decode_ascii _ rest hAscii _ := decodeSample_ascii hAscii rest
  decode_append _ rest hLossless _ :=
    decodeSample_encodeSample_append (samples_of_lossless hLossless) rest
  decode_shifted text _ hLossless hShifts := by
    obtain ⟨rfl, c, hLast, hHigh⟩ := hShifts
    rcases samples_of_lossless hLossless c (List.mem_of_getLast? hLast) with hAscii | hEntry
    · exact absurd hAscii (Nat.not_lt_of_le hHigh)
    · exact absurd hEntry List.not_mem_nil

theorem length_sampleBytes_le (set : MultiByte) (c : Char) : (set.sampleBytes c).length ≤ 2 := by
  have hEntries : ∀ entry ∈ set.repertoire, entry.2.length ≤ 2 := by
    cases set <;> decide
  by_cases hSome : set.Samples c
  · rcases hSome with hAscii | hEntry
    · rw [sampleBytes_ascii hAscii]
      exact Nat.le_succ 1
    · exact hEntries _ hEntry
  · rw [sampleBytes_of_not_samples hSome]
    exact Nat.le_succ 1

theorem isCompact_sample (set : MultiByte) : (CodePage.multi set).IsCompact where
  encode_append _ _ := List.flatMap_append
  encode_ascii _ hAscii := (set.encodeSample_singleton _).trans (sampleBytes_ascii hAscii)
  length_le c := by
    change (set.encodeSample [c]).length ≤ 2
    rw [encodeSample_singleton]
    exact set.length_sampleBytes_le c
  replacement_lost text hLossless hMember := by
    have hAbsent : ∀ entry ∈ set.repertoire, entry.1 ≠ Utf8.replacement := by
      cases set <;> decide
    rcases samples_of_lossless hLossless _ hMember with hAscii | hEntry
    · exact absurd hAscii (by decide)
    · exact hAbsent _ hEntry rfl

end Shapefile.Text.MultiByte
