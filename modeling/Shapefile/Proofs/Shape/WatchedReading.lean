import Shapefile.Proofs.Shape.WatchedAssembly
import Shapefile.Proofs.Storage.SuccessfulReads

/-! Reading a record under watch. The counts in the bytes drive loops, lists
and indices, and no bytes lead to a mishap. -/
namespace Shapefile.Watched

open Reading

/-! ### The part table -/

/-- Where a part stops: at the next start, or behind the last point. -/
def partStop (points : Nat) (starts : List Nat) (i : Nat) : Except Ending Nat :=
  if i + 1 = starts.length then .ok points else element starts (i + 1)

/-- The range of a part, from the starts of all. -/
def partRange (points : Nat) (starts : List Nat) (i : Nat) : Except Ending (Nat × Nat) := do
  let start ← element starts i
  let stop ← partStop points starts i
  if stop < start ∨ points < stop then
    .error (.refused (.malformed (.partOutOfRange start stop points)))
  return (start, stop)

def partRanges (points : Nat) (starts : List Nat) : Except Ending (List (Nat × Nat)) :=
  (List.range starts.length).mapM (partRange points starts)

/-- There is one range for every start, so room for the starts is room for both. -/
def readParts (parts points : Nat) : Reading Ending (List (Nat × Nat)) := do
  (Block.ensureFits .parts parts 4).watched
  reserve parts 4
  let starts ← (Reading.replicate parts (Block.readCount .partOffset)).watched
  Reading.ofExcept (partRanges points starts)

/-! ### The coordinates -/

def readPositions (points : Nat) : Reading Ending (List Coordinate) := do
  (Block.ensureFits .points points 16).watched
  reserve points 16
  (Reading.replicate points Block.readPosition).watched

def readCoordinates (f : RecordFormat) (points : Nat) : Reading Ending (List Coordinate) := do
  let plane ← readPositions points
  let cs ← (if f.hasElevation then Block.readElevations plane else .done plane).watched
  (if f.hasMeasure then Reading.skip (16 + 8 * points) else .done () :
    Reading ShapeError Unit).watched
  return cs

def readMultiPart (f : RecordFormat) (field : CountField) :
    Reading Ending (List (List Coordinate)) := do
  (Reading.skip Block.boundsSize : Reading ShapeError Unit).watched
  let parts ← (Block.readCount field).watched
  let points ← (Block.readCount .points).watched
  let ranges ← readParts parts points
  let cs ← readCoordinates f points
  Reading.ofExcept (ranges.mapM (elements cs))

/-! ### Records -/

def readPolyLine (f : RecordFormat) : Reading Ending Shape := do
  let parts ← readMultiPart f .parts
  let lines ← Reading.ofExcept (parts.mapM line)
  return .multiLineString lines

def readPolygon (f : RecordFormat) : Reading Ending Shape := do
  let parts ← readMultiPart f .rings
  let rings ← Reading.ofExcept (parts.mapM closed)
  let usable := rings.filter fun ring => RecordFormat.leastRing ≤ ring.length
  let polygons ← Reading.ofExcept (assemble usable)
  return .multiPolygon polygons

def readMultiPoint (f : RecordFormat) : Reading Ending Shape := do
  (Reading.skip Block.boundsSize : Reading ShapeError Unit).watched
  let points ← (Block.readCount .points).watched
  let cs ← readCoordinates f points
  return .multiPoint cs

def readShape (f : RecordFormat) : Reading Ending Shape :=
  match f.family with
  | .point => f.readPoint.watched
  | .multiPoint => readMultiPoint f
  | .polyLine => readPolyLine f
  | .polygon => readPolygon f

def read (f : RecordFormat) (recordType : ShapeType) : Reading Ending (Option Geometry) :=
  match recordType with
  | .null => pure none
  | _ => do
    let shape ← readShape f
    return some { shape }

/-! ### No mishap -/

variable {channel : Bytes} {cursor : Cursor}

theorem partRange_cons (points start : Nat) {starts : List Nat} {i : Nat}
    (hBelow : i < starts.length) :
    partRange points (start :: starts) (i + 1) = partRange points starts i := by
  have hStop : partStop points (start :: starts) (i + 1) = partStop points starts i := by
    unfold partStop
    by_cases hLast : i + 1 = starts.length
    · rw [if_pos hLast, if_pos (by rw [List.length_cons, hLast])]
    · rw [if_neg hLast, if_neg (by rw [List.length_cons]; omega), element_cons (by omega)]
  rw [partRange, partRange, element_cons hBelow, hStop]

theorem partRange_zero (points start : Nat) (starts : List Nat) :
    partRange points (start :: starts) 0 =
      if starts.head?.getD points < start ∨ points < starts.head?.getD points then
        .error (.refused (.malformed (.partOutOfRange start (starts.head?.getD points) points)))
      else .ok (start, starts.head?.getD points) := by
  have hStop : partStop points (start :: starts) 0 = .ok (starts.head?.getD points) := by
    cases starts with
    | nil => rfl
    | cons next starts => rfl
  have hStart : element (start :: starts) 0 = .ok start := rfl
  rw [partRange, hStart, ok_bind, hStop, ok_bind]
  split
  · rfl
  · rfl

/-- The ranges by index are those by recursion on the starts. -/
theorem partRanges_eq (points : Nat) (starts : List Nat) :
    partRanges points starts = (Block.partRanges points starts).mapError .refused := by
  induction starts with
  | nil => rfl
  | cons start starts ih =>
      have hRest : (List.range starts.length).mapM
            (partRange points (start :: starts) ∘ Nat.succ) =
          (Block.partRanges points starts).mapError .refused := by
        rw [← ih]
        exact mapM_congr fun i hIndex => partRange_cons points start (List.mem_range.mp hIndex)
      rw [partRanges, List.length_cons, List.range_succ_eq_map, List.mapM_cons, List.mapM_map,
        partRange_zero, Block.partRanges]
      by_cases hRefused : starts.head?.getD points < start ∨ points < starts.head?.getD points
      · rw [if_pos hRefused, if_pos hRefused]
        rfl
      · rw [if_neg hRefused, if_neg hRefused, ok_bind, hRest]
        cases Block.partRanges points starts with
        | error e => rfl
        | ok ranges => rfl

theorem noMishap_readParts (parts points : Nat) :
    NoMishap (readParts parts points) (Block.readParts parts points) channel cursor := by
  refine noMishap_reserve .parts ?_
  refine (NoMishap.watched _ channel cursor).bind fun starts middle _ => ?_
  exact NoMishap.ofExcept (partRanges_eq points starts)

theorem noMishap_readPositions (points : Nat) :
    NoMishap (readPositions points) (Block.readPositions points) channel cursor :=
  noMishap_reserve .points (NoMishap.watched _ channel cursor)

theorem noMishap_readCoordinates (f : RecordFormat) (points : Nat) :
    NoMishap (readCoordinates f points) (Block.readCoordinates f points) channel cursor := by
  rw [MultiPart.readCoordinates_eq]
  refine (noMishap_readPositions points).bind fun plane middle _ => ?_
  refine (NoMishap.watched _ channel middle).bind fun cs last _ => ?_
  exact (NoMishap.watched _ channel last).bind fun _ _ _ => rfl

/-- Ranges that were read lie among the points. -/
theorem range_le_of_readParts {parts points : Nat} {ranges : List (Nat × Nat)} {last : Cursor}
    (hRun : (Block.readParts parts points).onBytes channel cursor = (.ok ranges, last)) :
    ∀ range ∈ ranges, range.1 ≤ range.2 ∧ range.2 ≤ points := by
  rw [MultiPart.readParts_eq] at hRun
  obtain ⟨_, _, _, hRun⟩ := onBytes_bind_ok hRun
  obtain ⟨starts, _, _, hRun⟩ := onBytes_bind_ok hRun
  obtain ⟨hRanges, _⟩ := onBytes_ofExcept_ok hRun
  by_cases hOrdered : Block.Ordered points starts
  · rw [Block.partRanges_of_ordered hOrdered] at hRanges
    cases hRanges
    exact hOrdered.range_le
  · obtain ⟨fault, hRefused⟩ := Block.partRanges_of_not_ordered hOrdered
    rw [hRefused] at hRanges
    cases hRanges

/-- Coordinates that were read are as many as were asked for. -/
theorem length_of_readCoordinates {f : RecordFormat} {points : Nat} {cs : List Coordinate}
    {last : Cursor}
    (hRun : (Block.readCoordinates f points).onBytes channel cursor = (.ok cs, last)) :
    cs.length = points := by
  rw [MultiPart.readCoordinates_eq] at hRun
  obtain ⟨plane, middle, hPlane, hRun⟩ := onBytes_bind_ok hRun
  obtain ⟨all, behind, hAll, hRun⟩ := onBytes_bind_ok hRun
  have hSame : all = cs := by
    split at hRun
    · cases hRun
      rfl
    · cases hRun
      rfl
  have hPoints : plane.length = points := by
    rw [MultiPart.readPositions_eq] at hPlane
    obtain ⟨_, _, _, hPlane⟩ := onBytes_bind_ok hPlane
    rw [replicate_eq_mapM] at hPlane
    rw [length_of_onBytes_mapM hPlane, List.length_range]
  rw [← hSame, ← hPoints]
  split at hAll
  · obtain ⟨_, _, _, hAll⟩ := onBytes_bind_ok hAll
    exact length_of_onBytes_mapM hAll
  · cases hAll
    rfl

theorem noMishap_readMultiPart (f : RecordFormat) (field : CountField) :
    NoMishap (readMultiPart f field) (Block.readMultiPart f field) channel cursor := by
  rw [MultiPart.readMultiPart_eq]
  refine (NoMishap.watched _ _ _).bind fun _ first _ => ?_
  refine (NoMishap.watched _ _ _).bind fun parts second _ => ?_
  refine (NoMishap.watched _ _ _).bind fun points third _ => ?_
  refine (noMishap_readParts parts points).bind fun ranges fourth hRanges => ?_
  refine (noMishap_readCoordinates f points).bind fun cs fifth hCoordinates => ?_
  have hAll : ranges.mapM (elements cs) = .ok (ranges.map (Block.slice cs)) := by
    refine mapM_eq_map fun range hRange => if_pos ?_
    rw [length_of_readCoordinates hCoordinates]
    exact range_le_of_readParts hRanges range hRange
  rw [hAll]
  rfl

theorem noMishap_readPolyLine (f : RecordFormat) :
    NoMishap (readPolyLine f) f.readPolyLine channel cursor := by
  have hPlain : f.readPolyLine = (Block.readMultiPart f .parts).bind fun parts =>
      .done (.multiLineString (parts.map RecordFormat.line)) := rfl
  rw [hPlain]
  refine (noMishap_readMultiPart f .parts).bind fun parts middle _ => ?_
  have hLines : parts.mapM line = .ok (parts.map RecordFormat.line) :=
    mapM_eq_map fun part _ => line_eq part
  exact NoMishap.computed hLines rfl

theorem noMishap_readPolygon (f : RecordFormat) :
    NoMishap (readPolygon f) f.readPolygon channel cursor := by
  have hPlain : f.readPolygon = (Block.readMultiPart f .rings).bind fun parts =>
      .done (.multiPolygon (Polygon.assemble (RecordFormat.usableRings parts))) := rfl
  rw [hPlain]
  refine (noMishap_readMultiPart f .rings).bind fun parts middle _ => ?_
  have hRings : parts.mapM closed = .ok (parts.map Ring.closed) :=
    mapM_eq_map fun part _ => closed_eq part
  have hPolygons : assemble (RecordFormat.usableRings parts) =
      .ok (Polygon.assemble (RecordFormat.usableRings parts)) := by
    refine assemble_eq fun ring hRing hNone => ?_
    have hLong := of_decide_eq_true (List.mem_filter.mp hRing).2
    rw [hNone] at hLong
    exact absurd hLong (by decide)
  exact NoMishap.computed hRings (NoMishap.computed hPolygons rfl)

theorem noMishap_readMultiPoint (f : RecordFormat) :
    NoMishap (readMultiPoint f) f.readMultiPoint channel cursor := by
  refine (NoMishap.watched _ _ _).bind fun _ first _ => ?_
  refine (NoMishap.watched _ _ _).bind fun points second _ => ?_
  exact (noMishap_readCoordinates f points).bind fun _ _ _ => rfl

theorem noMishap_readShape (f : RecordFormat) :
    NoMishap (readShape f) f.readShape channel cursor := by
  rcases f with ⟨_ | _ | _ | _, dimensions⟩
  · exact NoMishap.watched _ _ _
  · exact noMishap_readPolyLine _
  · exact noMishap_readPolygon _
  · exact noMishap_readMultiPoint _

/-- No record of any format leads to an oversized list or to an index out of range. -/
theorem noMishap_read (f : RecordFormat) (recordType : ShapeType) (channel : Bytes)
    (cursor : Cursor) : NoMishap (read f recordType) (f.read recordType) channel cursor := by
  cases recordType with
  | null => rfl
  | record format => exact (noMishap_readShape f).bind fun _ _ _ => rfl
  | multiPatch => exact (noMishap_readShape f).bind fun _ _ _ => rfl

end Shapefile.Watched
