import Shapefile.Proofs.Shape.RecordCounts
import Shapefile.Proofs.Storage.ReadingBack

/-! What a record reads back as. Reading behaves as the inverse of writing up
to what the format cannot hold: elevations it has no room for, the split of a
multipolygon into polygons, and lines of one point. -/
namespace Shapefile

namespace Block

open Reading

variable {f : RecordFormat}

/-- A count that fits a signed word is read back. -/
theorem reads_readCount (field : CountField) {n : Nat} (hSmall : n < 2 ^ 31) :
    Reads (readCount field) .little (count n) .little n := by
  have hValue : (Int32.ofNat n).toInt = n := Int32.toInt_ofNat_of_lt hSmall
  have hNotNegative : ¬Int32.ofNat n < 0 := by
    rw [Int32.lt_iff_toInt_lt, hValue]
    exact Int.not_lt.mpr (Int.natCast_nonneg n)
  intro channel position hBytes
  have hWord := Reads.int32 (ε := ShapeError) .little (Int32.ofNat n) channel position hBytes
  have hProgram : readCount field = Reading.int32.bind fun n =>
      if n < 0 then .fail (.malformed (.negativeCount field n)) else .done n.toInt.toNat := rfl
  rw [hProgram, onBytes_bind, hWord]
  simp only [if_neg hNotNegative, hValue]
  rfl

/-- Bytes that are there leave room for the items that they hold. -/
theorem reads_ensureFits {α : Type} (item : RecordItem) {items size : Nat}
    {next : Unit → Reading ShapeError α} {bytes : List UInt8} {order after : ByteOrder} {value : α}
    (hRoom : items * size ≤ bytes.length) (hNext : Reads (next ()) order bytes after value) :
    Reads ((ensureFits item items size).bind next) order bytes after value := by
  intro channel position hBytes
  have hFits : ¬channel.size - position < items * size := by
    have hLength := hBytes.length_le
    omega
  have hProgram : (ensureFits item items size).onBytes channel ⟨position, order⟩ =
      (.ok (), ⟨position, order⟩) := by
    simp only [ensureFits, Reading.remaining, bind_eq, Reading.bind, onBytes]
    rw [if_neg hFits]
    rfl
  rw [onBytes_bind, hProgram]
  exact hNext channel position hBytes

/-- A position as it is read before elevations are. -/
def planar (c : Coordinate) : Coordinate := { x := c.x, y := c.y }

theorem reads_readPositions (cs : List Coordinate) :
    Reads (readPositions cs.length) .little (positions cs).flatten .little (cs.map planar) := by
  have hBytes : (positions cs).flatten =
      cs.flatMap fun c => float64 c.x ++ (float64 c.y ++ []) := by
    rw [positions, List.flatMap_def, List.flatMap_def, List.flatten_flatten, List.map_map]
    rfl
  have hLength := length_positions cs
  apply reads_ensureFits .points (by omega)
  rw [hBytes]
  refine Reads.replicate fun c _ => ?_
  exact (Reads.float64 .little c.x).bind ((Reads.float64 .little c.y).bind (Reads.done .little _))

/-- The elevation that a written coordinate is given back. -/
def elevated (c : Coordinate) : Coordinate := { c with z := storedElevation c.z }

theorem reads_readElevations (cs : List Coordinate) :
    Reads (readElevations (cs.map planar)) .little (elevations cs).flatten .little
      (cs.map elevated) := by
  have hItems : Reads ((cs.map planar).mapM fun c =>
        (Reading.float64 : Reading ShapeError Float).bind fun z => .done { c with z }) .little
      (cs.flatMap fun c => float64 (storedElevation c.z) ++ []) .little (cs.map elevated) := by
    rw [List.mapM_map]
    refine Reads.mapM fun c _ => ?_
    exact (Reads.float64 .little (storedElevation c.z)).bind (Reads.done .little _)
  have hRange : (float64 (elevationRange cs).1 ++ float64 (elevationRange cs).2).length = 16 := by
    rw [List.length_append, length_float64, length_float64]
  have hBytes : (elevations cs).flatten =
      (float64 (elevationRange cs).1 ++ float64 (elevationRange cs).2) ++
        cs.flatMap fun c => float64 (storedElevation c.z) ++ [] := by
    simp [elevations, List.flatMap_def]
  rw [hBytes]
  exact (Reads.skip .little hRange).bind hItems

end Block

namespace RecordFormat

/-- What a record of the format keeps of a coordinate. -/
def keep (f : RecordFormat) (c : Coordinate) : Coordinate :=
  if f.hasElevation then Block.elevated c else Block.planar c

end RecordFormat

namespace Block

open Reading

variable {f : RecordFormat}

theorem reads_readCoordinates (f : RecordFormat) (cs : List Coordinate) :
    Reads (readCoordinates f cs.length) .little
      ((positions cs).flatten ++ (extras f cs).flatten) .little (cs.map f.keep) := by
  have hSkipped : (measures cs).flatten.length = 16 + 8 * cs.length := length_measures cs
  have hPositions := reads_readPositions cs
  rcases f with ⟨family, _ | _ | _⟩
  · exact hPositions.bind (Reads.done .little _)
  · have hTail : Reads ((Reading.skip (16 + 8 * cs.length)).bind fun _ => .done (cs.map planar))
        .little ((measures cs).flatten ++ []) .little (cs.map planar) :=
      (Reads.skip .little hSkipped).bind (Reads.done (ε := ShapeError) .little _)
    rw [List.append_nil] at hTail
    exact hPositions.bind hTail
  · have hTail : Reads ((Reading.skip (16 + 8 * cs.length)).bind fun _ => .done (cs.map elevated))
        .little ((measures cs).flatten ++ []) .little (cs.map elevated) :=
      (Reads.skip .little hSkipped).bind (Reads.done (ε := ShapeError) .little _)
    rw [List.append_nil] at hTail
    have hExtras : (extras ⟨family, .elevated⟩ cs).flatten =
        (elevations cs).flatten ++ (measures cs).flatten := List.flatten_append
    rw [hExtras]
    exact hPositions.bind ((reads_readElevations cs).bind hTail)

/-- The range of each part in the coordinates of all, if the first one starts
at `start`. -/
def ranges {α : Type} (start : Nat) : List (List α) → List (Nat × Nat)
  | [] => []
  | part :: parts => (start, start + part.length) :: ranges (start + part.length) parts

/-- The starts that are written give back the ranges. -/
theorem partRanges_starts {start points : Nat} {parts : List (List Coordinate)}
    (hPoints : start + parts.flatten.length = points) :
    partRanges points (starts start parts) = .ok (ranges start parts) := by
  induction parts generalizing start with
  | nil => rfl
  | cons part parts ih =>
      rw [List.flatten_cons, List.length_append] at hPoints
      have hTail : start + part.length + parts.flatten.length = points := by omega
      have hRest := ih hTail
      have hStop : (starts (start + part.length) parts).head?.getD points =
          start + part.length := by
        cases parts with
        | nil =>
            rw [List.flatten_nil, List.length_nil] at hPoints
            exact hPoints.symm
        | cons next parts => rfl
      have hOrdered : ¬(start + part.length < start ∨ points < start + part.length) := by omega
      rw [starts, partRanges]
      simp only [hStop, if_neg hOrdered, hRest]
      rfl

/-- Cutting the coordinates at the ranges gives the parts. -/
theorem map_slice_ranges {α : Type} (before : List α) (parts : List (List α)) :
    (ranges before.length parts).map (slice (before ++ parts.flatten)) = parts := by
  induction parts generalizing before with
  | nil => rfl
  | cons part parts ih =>
      have hRest := ih (before ++ part)
      rw [List.length_append, List.append_assoc] at hRest
      have hFirst : slice (before ++ (part ++ parts.flatten))
          (before.length, before.length + part.length) = part := by
        simp [slice]
      rw [ranges, List.flatten_cons, List.map_cons, hFirst, hRest]

/-- Ranges depend on the lengths of the parts only. -/
theorem ranges_map {α β : Type} (change : α → β) (start : Nat) (parts : List (List α)) :
    ranges start (parts.map (List.map change)) = ranges start parts := by
  induction parts generalizing start with
  | nil => rfl
  | cons part parts ih => rw [List.map_cons, ranges, ranges, List.length_map, ih]

/-- The start of every part is a number that fits a signed word. -/
theorem lt_of_mem_starts {start bound : Nat} {parts : List (List Coordinate)}
    (hBound : start + parts.flatten.length < bound) {offset : Nat}
    (hOffset : offset ∈ starts start parts) : offset < bound := by
  induction parts generalizing start with
  | nil => cases hOffset
  | cons part parts ih =>
      rw [List.flatten_cons, List.length_append] at hBound
      rcases List.mem_cons.mp hOffset with hFirst | hRest
      · omega
      · exact ih (by omega) hRest

theorem reads_readParts {parts : List (List Coordinate)} {bytes : List UInt8} {α : Type}
    {next : List (Nat × Nat) → Reading ShapeError α} {value : α}
    (hPoints : parts.flatten.length < 2 ^ 31)
    (hNext : Reads (next (ranges 0 parts)) .little bytes .little value) :
    Reads ((readParts parts.length parts.flatten.length).bind next) .little
      (((starts 0 parts).map count).flatten ++ bytes) .little value := by
  have hStarts : Reads (Reading.replicate parts.length (readCount .partOffset)) .little
      ((starts 0 parts).flatMap count) .little ((starts 0 parts).map id) := by
    rw [← length_starts 0 parts]
    refine Reads.replicate fun offset hOffset => ?_
    exact reads_readCount .partOffset (lt_of_mem_starts (by omega) hOffset)
  rw [List.map_id, List.flatMap_def] at hStarts
  have hRanges : Reading.ofExcept (partRanges parts.flatten.length (starts 0 parts)) =
      .done (ranges 0 parts) := by
    rw [partRanges_starts (Nat.zero_add _)]
    rfl
  have hTable : Reads (readParts parts.length parts.flatten.length) .little
      (((starts 0 parts).map count).flatten ++ []) .little (ranges 0 parts) := by
    refine reads_ensureFits .parts ?_ (hStarts.bind ?_)
    · rw [List.append_nil, length_flatten_map _ length_count, length_starts]
      exact Nat.le_of_eq (Nat.mul_comm _ _)
    · rw [hRanges]
      exact Reads.done .little _
  rw [List.append_nil] at hTable
  exact hTable.bind hNext

/-- Parts are read back as what the format keeps of them. -/
theorem reads_readMultiPart (f : RecordFormat) (field : CountField) (g : Geometry)
    {parts : List (List Coordinate)} (hParts : parts.length < 2 ^ 31)
    (hPoints : parts.flatten.length < 2 ^ 31) :
    Reads (readMultiPart f field) .little (f.multiPartPuts g parts).flatten .little
      (parts.map (List.map f.keep)) := by
  have hCut : (ranges 0 parts).map (slice (parts.flatten.map f.keep)) =
      parts.map (List.map f.keep) := by
    rw [List.map_flatten, ← ranges_map f.keep]
    exact map_slice_ranges [] _
  have hCoordinates : Reads ((readCoordinates f parts.flatten.length).bind fun cs =>
        .done ((ranges 0 parts).map (slice cs))) .little
      ((positions parts.flatten).flatten ++ (extras f parts.flatten).flatten ++ []) .little
      (parts.map (List.map f.keep)) := by
    rw [← hCut]
    exact (reads_readCoordinates f parts.flatten).bind (Reads.done .little _)
  rw [List.append_nil] at hCoordinates
  have hBytes : (f.multiPartPuts g parts).flatten = (bounds g).flatten ++
      (count parts.length ++ (count parts.flatten.length ++
        (((starts 0 parts).map count).flatten ++
          ((positions parts.flatten).flatten ++ (extras f parts.flatten).flatten)))) := by
    simp [RecordFormat.multiPartPuts, partTable]
  rw [hBytes]
  exact (Reads.skip .little (length_bounds g)).bind ((reads_readCount field hParts).bind
    ((reads_readCount .points hPoints).bind (reads_readParts hPoints hCoordinates)))

end Block

namespace RecordFormat

open Reading

/-- The shape that a record of this format gives back for a shape. Points
keep what the format holds of them; polygons are put together anew from
their rings. -/
def readBack (f : RecordFormat) (shape : Shape) : Shape :=
  match f.family with
  | .point =>
    match shape with
    | .point c => .point (f.keep c)
    | other => other
  | .multiPoint => .multiPoint (((pointSet? shape).getD []).map f.keep)
  | .polyLine => .multiLineString (((lines? shape).getD []).map fun cs => line (cs.map f.keep))
  | .polygon =>
    let rings := Polygon.orientedRings ((polygons? shape).getD [])
    .multiPolygon (Polygon.assemble (usableRings (rings.map (List.map f.keep))))

theorem reads_readPoint (f : RecordFormat) (c : Coordinate) :
    Reads f.readPoint .little (f.pointPuts c).flatten .little (.point (f.keep c)) := by
  have hMeasure (shape : Shape) : Reads ((Reading.skip 8).bind fun _ => .done shape) .little
      (Block.float64 Block.noMeasure ++ []) .little shape :=
    (Reads.skip .little (Block.length_float64 _)).bind (Reads.done (ε := ShapeError) .little _)
  have hX := Reads.float64 (ε := ShapeError) .little c.x
  have hY := Reads.float64 (ε := ShapeError) .little c.y
  have hZ := Reads.float64 (ε := ShapeError) .little (Block.storedElevation c.z)
  rcases f with ⟨family, _ | _ | _⟩
  · exact hX.bind (hY.bind (Reads.done .little _))
  · exact hX.bind (hY.bind (hMeasure _))
  · exact hX.bind (hY.bind (hZ.bind (hMeasure _)))

theorem reads_readMultiPoint (f : RecordFormat) (g : Geometry) {cs : List Coordinate}
    (hPoints : cs.length < 2 ^ 31) :
    Reads f.readMultiPoint .little (f.multiPointPuts g cs).flatten .little
      (.multiPoint (cs.map f.keep)) := by
  have hBytes : (f.multiPointPuts g cs).flatten = (Block.bounds g).flatten ++
      (Block.count cs.length ++ ((Block.positions cs).flatten ++
        (Block.extras f cs).flatten ++ [])) := by
    simp [multiPointPuts]
  rw [hBytes]
  exact (Reads.skip .little (Block.length_bounds g)).bind
    ((Block.reads_readCount .points hPoints).bind
      ((Block.reads_readCoordinates f cs).bind (Reads.done .little _)))

theorem reads_readPolyLine (f : RecordFormat) (g : Geometry) {lines : List (List Coordinate)}
    (hParts : lines.length < 2 ^ 31) (hPoints : lines.flatten.length < 2 ^ 31) :
    Reads f.readPolyLine .little (f.multiPartPuts g lines).flatten .little
      (.multiLineString (lines.map fun cs => line (cs.map f.keep))) := by
  have hLines : (lines.map (List.map f.keep)).map line =
      lines.map fun cs => line (cs.map f.keep) := List.map_map
  have hRead : Reads f.readPolyLine .little ((f.multiPartPuts g lines).flatten ++ []) .little
      (.multiLineString ((lines.map (List.map f.keep)).map line)) :=
    (Block.reads_readMultiPart f .parts g hParts hPoints).bind (Reads.done .little _)
  rwa [List.append_nil, hLines] at hRead

theorem reads_readPolygon (f : RecordFormat) (g : Geometry) {rings : List Ring}
    (hParts : rings.length < 2 ^ 31) (hPoints : rings.flatten.length < 2 ^ 31) :
    Reads f.readPolygon .little (f.multiPartPuts g rings).flatten .little
      (.multiPolygon (Polygon.assemble (usableRings (rings.map (List.map f.keep))))) := by
  have hRead : Reads f.readPolygon .little ((f.multiPartPuts g rings).flatten ++ []) .little
      (.multiPolygon (Polygon.assemble (usableRings (rings.map (List.map f.keep))))) :=
    (Block.reads_readMultiPart f .rings g hParts hPoints).bind (Reads.done .little _)
  rwa [List.append_nil] at hRead

/-- The payload of every countable geometry is read back, wherever it stands. -/
theorem reads_readShape {f : RecordFormat} {g : Geometry} {puts : List (List UInt8)}
    (hPuts : f.puts g = .ok puts) (hCounts : g.Countable) :
    Reads f.readShape .little puts.flatten .little (f.readBack g.shape) := by
  obtain ⟨hPoints, hParts⟩ := hCounts
  rw [Geometry.numPoints, Geometry.coordinates, ← Shape.flatten_parts] at hPoints
  rcases puts_cases hPuts with ⟨hFamily, c, hShape, rfl⟩ | ⟨hFamily, cs, hSet, rfl⟩ |
    ⟨hFamily, lines, hLines, rfl⟩ | ⟨hFamily, polygons, hPolygons, rfl⟩
  · simp only [readShape, readBack, hFamily, hShape]
    exact reads_readPoint f c
  · simp only [readShape, readBack, hFamily, hSet, Option.getD_some]
    rw [parts_of_pointSet? hSet, List.flatten_singleton] at hPoints
    exact reads_readMultiPoint f g hPoints
  · simp only [readShape, readBack, hFamily, hLines, Option.getD_some]
    rw [parts_of_lines? hLines] at hParts hPoints
    exact reads_readPolyLine f g hParts hPoints
  · simp only [readShape, readBack, hFamily, hPolygons, Option.getD_some]
    obtain ⟨hRings, hAll⟩ := orientedRings_counts polygons
    rw [parts_of_polygons? hPolygons] at hParts hPoints
    exact reads_readPolygon f g (by rwa [hRings]) (by rwa [hAll])

end RecordFormat

end Shapefile
