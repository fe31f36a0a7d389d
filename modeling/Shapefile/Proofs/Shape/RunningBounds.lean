import Shapefile.Proofs.Geometry.BoundingBox
import Shapefile.Proofs.Shape.WrittenFiles

/-! The box that a shape writer keeps. It is widened by the box of one geometry
after the other, and is the box around the coordinates of all of them. Closing
puts it into the headers of both files. -/
namespace Shapefile

namespace RecordFormat

theorem widen_eq_merge (bounds : Option Envelope) (g : Geometry) :
    widen bounds (some g) = bounds.merge Envelope.union g.envelope? := by
  cases bounds <;> cases hBox : g.envelope? <;> simp [widen, ShapeWriter.widened, hBox]

/-- Widening a box record by record adds the coordinates of all of them. -/
theorem foldl_widen (cs : List Coordinate) (records : List (Option Geometry)) :
    records.foldl widen (Envelope.of? cs) =
      Envelope.of? (cs ++ records.reduceOption.flatMap Geometry.coordinates) := by
  induction records generalizing cs with
  | nil => simp
  | cons record records ih =>
      cases record with
      | none => simpa [widen] using ih cs
      | some g =>
          have hNext : widen (Envelope.of? cs) (some g) = Envelope.of? (cs ++ g.coordinates) := by
            rw [widen_eq_merge, Envelope.of?_append]
            rfl
          rw [List.foldl_cons, hNext, ih, List.reduceOption_cons_of_some, List.flatMap_cons,
            List.append_assoc]

end RecordFormat

namespace ShapeHeader

/-- The box stands behind the first 36 bytes of a header. -/
theorem hasAt_bounds {channel : Bytes} {h : ShapeHeader} {behind : List UInt8}
    (hChannel : channel.toList = h.bytes ++ behind) :
    channel.HasAt 36 (boundsPuts h.bounds).flatten := by
  let front := (ByteOrder.big.int32 magicNumber :: List.replicate 5 (ByteOrder.big.int32 0) ++
    [ByteOrder.big.int32 h.fileLength, ByteOrder.little.int32 h.version,
      ByteOrder.little.int32 (Int32.ofNat h.shapeType.id)]).flatten
  have hFront : front.length = 36 := by simp [front]
  rw [← hFront]
  apply Bytes.HasAt.of_toList front
    ((List.replicate 8 (ByteOrder.big.int32 0)).flatten ++ behind)
  rw [hChannel, bytes, puts]
  simp only [front, List.flatten_append, List.append_assoc]

end ShapeHeader

namespace ShapeWriter

/-- The box of a writer that holds records is the box around the coordinates
of the geometries among them. -/
theorem Holds.bounds_eq_of? {w : ShapeWriter} {f : RecordFormat} {shapesSent indexSent : List UInt8}
    {records : List (Option Geometry)} (h : w.Holds f shapesSent indexSent records) :
    w.bounds = Envelope.of? (records.reduceOption.flatMap Geometry.coordinates) := by
  rw [h.bounds_eq]
  exact RecordFormat.foldl_widen [] records

/-- Closing puts the box into both headers, or the zero box if there is none. -/
theorem Holds.close_bounds {w : ShapeWriter} {f : RecordFormat}
    {records : List (Option Geometry)} (h : w.Holds f [] [] records) :
    w.close.shapesFile.HasAt 36 (ShapeHeader.boundsPuts (w.bounds.getD .zero)).flatten ∧
      w.close.indexFile.HasAt 36 (ShapeHeader.boundsPuts (w.bounds.getD .zero)).flatten := by
  obtain ⟨hShapes, hIndex⟩ := h.close_files
  have hInShapes := ShapeHeader.hasAt_bounds hShapes
  have hInIndex := ShapeHeader.hasAt_bounds hIndex
  rw [h.bounds_eq]
  exact ⟨hInShapes, hInIndex⟩

/-- After any calls, also refused ones, checks and null records, the box of a
writer is the box around the coordinates of all accepted geometries, taken
together in one pass. There is none exactly if there are no coordinates. Each
side of it is an ordinate that no number lies beyond, or a NaN if the axis has
no number. It is stored in the headers of both files when the writer is closed,
or zeros for none. -/
theorem bounds_of_run (f : RecordFormat) (capacity : Nat) (calls : List Call) :
    ∃ w, create (.record f) capacity = .ok w ∧
      (w.run calls).1 = calls.filterMap (acceptedBy f) ∧
      let coordinates := (w.run calls).1.reduceOption.flatMap Geometry.coordinates
      let last := (w.run calls).2
      last.bounds = Envelope.of? coordinates ∧
      (last.bounds = none ↔ coordinates = []) ∧
      (∀ box, last.bounds = some box → box.Spans coordinates) ∧
      let stored := (ShapeHeader.boundsPuts (last.bounds.getD ⟨0, 0, 0, 0⟩)).flatten
      last.close.shapesFile.HasAt 36 stored ∧ last.close.indexFile.HasAt 36 stored := by
  obtain ⟨w, hCreate, hNew⟩ := create_holds f capacity
  obtain ⟨hAccepted, hLast⟩ := hNew.run calls
  rw [List.nil_append] at hLast
  have hBounds := hLast.bounds_eq_of?
  refine ⟨w, hCreate, hAccepted, hBounds, ?_, fun box hBox => ?_, hLast.close_bounds⟩
  · rw [hBounds, Envelope.of?_eq_none_iff]
  · rw [hBounds] at hBox
    exact Envelope.spans_of_of? hBox

end ShapeWriter

end Shapefile
