import Shapefile.Proofs.Shape.WatchedReading
import Shapefile.Proofs.Storage.WindowView

/-! Decoding a record of parts from any bytes at all. Polyline and polygon
formats accept exactly the bytes that hold a record, refuse all others with an
error of the right kind, and cut the points into the parts of the table. -/
namespace Shapefile

namespace RecordFormat

variable {f : RecordFormat} {recordType : ShapeType}

/-- A record of this type from its own bytes, through a window of any capacity. -/
def decode (f : RecordFormat) (recordType : ShapeType) (capacity : Nat) (d : Bytes) :
    Except ShapeError (Option Geometry) :=
  ((Window.onChannel d capacity).run d
    ((Reading.setOrder .little).bind fun _ => f.read recordType)).1

/-- The same under watch. -/
def decodeWatched (f : RecordFormat) (recordType : ShapeType) (capacity : Nat) (d : Bytes) :
    Except Ending (Option Geometry) :=
  ((Window.onChannel d capacity).run d
    ((Reading.setOrder .little).bind fun _ => Watched.read f recordType)).1

theorem decode_eq (f : RecordFormat) (recordType : ShapeType) (capacity : Nat) (d : Bytes) :
    f.decode recordType capacity d = ((f.read recordType).onBytes d ⟨0, .little⟩).1 :=
  (Window.run_onChannel d capacity _).1

theorem decodeWatched_eq (f : RecordFormat) (recordType : ShapeType) (capacity : Nat) (d : Bytes) :
    f.decodeWatched recordType capacity d = (f.decode recordType capacity d).mapError .refused := by
  have hWatched : f.decodeWatched recordType capacity d =
      ((Watched.read f recordType).onBytes d ⟨0, .little⟩).1 :=
    (Window.run_onChannel d capacity _).1
  rw [hWatched, decode_eq]
  exact congrArg Prod.fst (Watched.noMishap_read f recordType d ⟨0, .little⟩)

open Reading MultiPart

/-- The shape of a record of parts is made of its parts. -/
theorem readShape_of_family (hFamily : f.family = .polyLine ∨ f.family = .polygon) :
    ∃ field, f.readShape = (Block.readMultiPart f field).bind fun parts =>
      .done (match f.family with
        | .polygon => .multiPolygon (Polygon.assemble (usableRings parts))
        | _ => .multiLineString (parts.map line)) := by
  rcases f with ⟨family, dimensions⟩
  rcases hFamily with rfl | rfl
  · exact ⟨.parts, rfl⟩
  · exact ⟨.rings, rfl⟩

section Decoding

variable (hFamily : f.family = .polyLine ∨ f.family = .polygon) (hType : recordType ≠ .null)
  (capacity : Nat) {d : Bytes}

include hFamily hType

/-- What decoding gives, whatever the bytes are. -/
theorem decode_cases (d : Bytes) :
    (Decodes f d ∧
        f.decode recordType capacity d = .ok (some { shape := MultiPart.shape f d })) ∨
      (Malformed d ∧ ∃ fault, f.decode recordType capacity d = .error (.malformed fault)) ∨
      (Truncated f d ∧ ∃ cause, f.decode recordType capacity d = .error (.storage cause)) := by
  obtain ⟨field, hShape⟩ := readShape_of_family hFamily
  have hRead : f.read recordType = f.readShape.bind fun shape => .done (some { shape }) := by
    cases recordType with
    | null => exact absurd rfl hType
    | record format => rfl
    | multiPatch => rfl
  rw [decode_eq, hRead, hShape, onBytes_bind, onBytes_bind]
  rcases hRun : (Block.readMultiPart f field).onBytes d ⟨0, .little⟩ with ⟨result, last⟩
  have hCases := readMultiPart_cases f field d
  rw [hRun] at hCases
  rcases hCases with ⟨hDecodes, rfl⟩ | ⟨hMalformed, fault, rfl⟩ | ⟨hTruncated, cause, rfl⟩
  · exact Or.inl ⟨hDecodes, rfl⟩
  · exact Or.inr (Or.inl ⟨hMalformed, fault, rfl⟩)
  · exact Or.inr (Or.inr ⟨hTruncated, cause, rfl⟩)

theorem decode_of_decodes (h : Decodes f d) :
    f.decode recordType capacity d = .ok (some { shape := MultiPart.shape f d }) := by
  rcases decode_cases hFamily hType capacity d with ⟨_, hResult⟩ | ⟨hOther, _⟩ | ⟨hOther, _⟩
  · exact hResult
  · exact absurd hOther h.not_malformed
  · exact absurd hOther h.not_truncated

theorem decode_of_malformed (h : Malformed d) :
    ∃ fault, f.decode recordType capacity d = .error (.malformed fault) := by
  rcases decode_cases hFamily hType capacity d with ⟨hOther, _⟩ | ⟨_, hResult⟩ | ⟨hOther, _⟩
  · exact absurd h hOther.not_malformed
  · exact hResult
  · exact absurd hOther h.not_truncated

theorem decode_of_truncated (h : Truncated f d) :
    ∃ cause, f.decode recordType capacity d = .error (.storage cause) := by
  rcases decode_cases hFamily hType capacity d with ⟨hOther, _⟩ | ⟨hOther, _⟩ | ⟨_, hResult⟩
  · exact absurd h hOther.not_truncated
  · exact absurd h hOther.not_truncated
  · exact hResult

end Decoding

/-- Exactly which bytes decode as a record of parts. A polyline or polygon
record is given for the bytes that hold one and for no others. Of those, the
ones that contradict themselves are malformed, the ones that end inside an item
of fixed width are a storage error, and there are no more. Whatever the bytes
are, no list is made that the remaining ones could not fill, and no index is
out of range. The parts of a record cut its points from the first start on. -/
theorem decode_multiPart (hFamily : f.family = .polyLine ∨ f.family = .polygon)
    (hType : recordType ≠ .null) (capacity : Nat) (d : Bytes) :
    let result := f.decode recordType capacity d
    ((∃ g, result = .ok g) ↔ Decodes f d) ∧
      ((∃ fault, result = .error (.malformed fault)) ↔ Malformed d) ∧
      ((∃ cause, result = .error (.storage cause)) ↔ Truncated f d) ∧
      (Decodes f d ∨ Malformed d ∨ Truncated f d) ∧
      f.decodeWatched recordType capacity d = result.mapError .refused ∧
      (Decodes f d →
        result = .ok (some { shape := MultiPart.shape f d }) ∧ CutsPoints f d) := by
  intro result
  have hOk (h : Decodes f d) := decode_of_decodes hFamily hType capacity h
  have hMalformed (h : Malformed d) := decode_of_malformed hFamily hType capacity h
  have hTruncated (h : Truncated f d) := decode_of_truncated hFamily hType capacity h
  have hKinds : Decodes f d ∨ Malformed d ∨ Truncated f d := by
    rcases decode_cases hFamily hType capacity d with ⟨h, _⟩ | ⟨h, _⟩ | ⟨h, _⟩
    · exact Or.inl h
    · exact Or.inr (Or.inl h)
    · exact Or.inr (Or.inr h)
  refine ⟨⟨?_, fun h => ⟨_, hOk h⟩⟩, ⟨?_, hMalformed⟩, ⟨?_, hTruncated⟩, hKinds,
    decodeWatched_eq f recordType capacity d, fun h => ⟨hOk h, h.toHoldsTable.cutsPoints⟩⟩
  · rintro ⟨g, hResult⟩
    rcases hKinds with h | h | h
    · exact h
    · obtain ⟨fault, hError⟩ := hMalformed h
      cases hResult.symm.trans hError
    · obtain ⟨cause, hError⟩ := hTruncated h
      cases hResult.symm.trans hError
  · rintro ⟨fault, hResult⟩
    rcases hKinds with h | h | h
    · cases hResult.symm.trans (hOk h)
    · exact h
    · obtain ⟨cause, hError⟩ := hTruncated h
      cases hResult.symm.trans hError
  · rintro ⟨cause, hResult⟩
    rcases hKinds with h | h | h
    · cases hResult.symm.trans (hOk h)
    · obtain ⟨fault, hError⟩ := hMalformed h
      cases hResult.symm.trans hError
    · exact h

/-- Three points, the last two of which are a part each. -/
def twoParts : Bytes :=
  (List.replicate 32 0 ++ [2, 0, 0, 0, 3, 0, 0, 0, 1, 0, 0, 0, 2, 0, 0, 0] ++
    List.replicate 48 0 : List UInt8).toArray

theorem decode_multiPart_twoParts :
    let f : RecordFormat := ⟨.polyLine, .plane⟩
    (f.family = .polyLine ∨ f.family = .polygon) ∧ ShapeType.record f ≠ .null ∧
      ranges twoParts = [(1, 2), (2, 3)] ∧
      ∃ g, f.decode (.record f) 16 twoParts = .ok (some g) := by
  have hDecodes : Decodes ⟨.polyLine, .plane⟩ twoParts := by
    refine ⟨⟨⟨?_, ?_, ?_, ?_, ?_, ?_⟩, ?_⟩, nofun⟩ <;> decide +kernel
  have hType : ShapeType.record ⟨.polyLine, .plane⟩ ≠ .null := nofun
  have hFamily : Family.polyLine = .polyLine ∨ Family.polyLine = .polygon := Or.inl rfl
  obtain ⟨_, _, _, _, _, hResult⟩ :=
    decode_multiPart (f := ⟨.polyLine, .plane⟩) hFamily hType 16 twoParts
  exact ⟨hFamily, hType, by decide +kernel, _, (hResult hDecodes).1⟩

end RecordFormat

end Shapefile
