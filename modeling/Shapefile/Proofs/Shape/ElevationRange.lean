import Mathlib.Data.List.Perm.Basic
import Shapefile.Proofs.Geometry.NumericOrder
import Shapefile.Proofs.Shape.RecordCounts

/-! The range of elevations in a record, and the elevations behind it. The range
spans the elevations that a geometry has. A missing one is stored as zero,
whether zero lies in the range or not. -/
namespace Shapefile

namespace Ring

theorem wound_perm (order : Winding) (ring : Ring) : (wound order ring).Perm ring := by
  rw [wound]
  split
  · exact List.reverse_perm ring
  · rfl

end Ring

namespace Polygon

/-- Turning rings round keeps their coordinates. -/
theorem flatten_orientedRings_perm (polygons : List Polygon) :
    (orientedRings polygons).flatten.Perm (polygons.flatMap rings).flatten := by
  induction polygons with
  | nil => rfl
  | cons p polygons ih =>
      have hHoles : (p.interiors.map (Ring.wound .counterClockwise)).flatten.Perm
          p.interiors.flatten := by
        rw [← List.flatMap_def, ← List.flatMap_id]
        exact List.Perm.flatMap_left _ fun hole _ => Ring.wound_perm _ hole
      simp only [orientedRings, rings, List.flatMap_cons, List.flatten_append,
        List.flatten_cons] at ih ⊢
      exact ((Ring.wound_perm _ p.exterior).append hHoles).append ih

end Polygon

namespace Block

/-- The least and the greatest of some values. Both are among them, and all of
them lie between the two. -/
structure IsRange (least greatest : Float) (values : List Float) : Prop where
  least_mem : least ∈ values
  greatest_mem : greatest ∈ values
  between : ∀ v ∈ values, least ≤ v ∧ v ≤ greatest

variable {cs : List Coordinate}

/-- The elevations that are there. -/
def presentElevations (cs : List Coordinate) : List Float :=
  (cs.map Coordinate.z).filter fun z => !z.isNaN

theorem mem_presentElevations {z : Float} :
    z ∈ presentElevations cs ↔ ∃ c ∈ cs, c.z.isNaN = false ∧ c.z = z := by
  simp only [presentElevations, List.mem_filter, List.mem_map, Bool.not_eq_true']
  constructor
  · rintro ⟨⟨c, hMem, rfl⟩, hNumber⟩
    exact ⟨c, hMem, hNumber, rfl⟩
  · rintro ⟨c, hMem, hNumber, rfl⟩
    exact ⟨⟨c, hMem, rfl⟩, hNumber⟩

/-- The range is that of the elevations that are there, or zero if none is. -/
theorem elevationRange_cases (cs : List Coordinate) :
    ((∀ c ∈ cs, c.z.isNaN = true) ∧ elevationRange cs = (0, 0)) ∨
      IsRange (elevationRange cs).1 (elevationRange cs).2 (presentElevations cs) := by
  cases hPresent : presentElevations cs with
  | nil =>
      left
      constructor
      · intro c hMem
        rw [← Bool.not_eq_false]
        intro hNumber
        have hThere := mem_presentElevations.mpr ⟨c, hMem, hNumber, rfl⟩
        rw [hPresent] at hThere
        cases hThere
      · unfold presentElevations at hPresent
        rw [elevationRange, hPresent]
  | cons first rest =>
      right
      have hNumbers : ∀ z ∈ first :: rest, z.isNaN = false := by
        intro z hMem
        rw [← hPresent] at hMem
        obtain ⟨c, _, hNumber, rfl⟩ := mem_presentElevations.mp hMem
        exact hNumber
      unfold presentElevations at hPresent
      rw [elevationRange, hPresent]
      have hLeast := Double.picks_lesser.firstOf_foldl first rest
      have hGreatest := Double.picks_greater.firstOf_foldl first rest
      refine ⟨hLeast.mem, hGreatest.mem, fun z hMem => ?_⟩
      exact ⟨hLeast.before_number z hMem (hNumbers z hMem),
        hGreatest.before_number z hMem (hNumbers z hMem)⟩

theorem storedElevation_present {z : Float} (hNumber : z.isNaN = false) :
    storedElevation z = z := by
  rw [storedElevation, hNumber, if_neg Bool.false_ne_true]

theorem storedElevation_missing {z : Float} (hMissing : z.isNaN = true) :
    storedElevation z = 0 := by
  rw [storedElevation, if_pos hMissing]

/-- A range of the elevations that are there is one of those that are stored if
zero lies in it, in case one is missing. -/
theorem IsRange.stored_iff {least greatest : Float}
    (h : IsRange least greatest (presentElevations cs)) :
    IsRange least greatest (cs.map fun c => storedElevation c.z) ↔
      ∀ c ∈ cs, c.z.isNaN = true → least ≤ 0 ∧ 0 ≤ greatest := by
  have hThere {z : Float} (hMem : z ∈ presentElevations cs) :
      z ∈ cs.map fun c => storedElevation c.z := by
    obtain ⟨c, hIn, hNumber, rfl⟩ := mem_presentElevations.mp hMem
    exact List.mem_map.mpr ⟨c, hIn, storedElevation_present hNumber⟩
  constructor
  · intro hStored c hMem hMissing
    exact hStored.between 0 (List.mem_map.mpr ⟨c, hMem, storedElevation_missing hMissing⟩)
  · intro hZero
    refine ⟨hThere h.least_mem, hThere h.greatest_mem, fun v hMem => ?_⟩
    obtain ⟨c, hIn, rfl⟩ := List.mem_map.mp hMem
    cases hNumber : c.z.isNaN with
    | false =>
        rw [storedElevation_present hNumber]
        exact h.between c.z (mem_presentElevations.mpr ⟨c, hIn, hNumber, rfl⟩)
    | true =>
        rw [storedElevation_missing hNumber]
        exact hZero c hIn hNumber

/-- The range of a block of elevations describes the stored ones if none or all
are missing, or if those that are there lie on both sides of zero. -/
theorem elevationRange_stored_iff (hSome : cs ≠ []) :
    IsRange (elevationRange cs).1 (elevationRange cs).2 (cs.map fun c => storedElevation c.z) ↔
      (∀ c ∈ cs, c.z.isNaN = false) ∨ (∀ c ∈ cs, c.z.isNaN = true) ∨
        ((∃ c ∈ cs, c.z ≤ 0) ∧ ∃ c ∈ cs, 0 ≤ c.z) := by
  rcases elevationRange_cases cs with ⟨hNone, hZero⟩ | hRange
  · have hStored : (cs.map fun c => storedElevation c.z) = List.replicate cs.length 0 := by
      rw [← List.map_const']
      exact List.map_congr_left fun c hMem => storedElevation_missing (hNone c hMem)
    have hMem : (0 : Float) ∈ List.replicate cs.length 0 :=
      List.mem_replicate.mpr ⟨fun hEmpty => hSome (List.length_eq_zero_iff.mp hEmpty), rfl⟩
    have hNumber : (0 : Float).isNaN = false := by decide +kernel
    rw [hZero, hStored]
    refine iff_of_true ⟨hMem, hMem, fun v hV => ?_⟩ (Or.inr (Or.inl hNone))
    rw [List.eq_of_mem_replicate hV]
    exact ⟨Double.le_self hNumber, Double.le_self hNumber⟩
  · rw [hRange.stored_iff]
    constructor
    · intro hZero
      by_cases hMissing : ∃ c ∈ cs, c.z.isNaN = true
      · obtain ⟨c, hMem, hNaN⟩ := hMissing
        obtain ⟨hBelow, hAbove⟩ := hZero c hMem hNaN
        obtain ⟨low, hLow, _, hLeast⟩ := mem_presentElevations.mp hRange.least_mem
        obtain ⟨high, hHigh, _, hGreatest⟩ := mem_presentElevations.mp hRange.greatest_mem
        exact Or.inr (Or.inr ⟨⟨low, hLow, hLeast ▸ hBelow⟩, high, hHigh, hGreatest ▸ hAbove⟩)
      · left
        intro c hMem
        rw [← Bool.not_eq_true]
        exact fun hNaN => hMissing ⟨c, hMem, hNaN⟩
    · have hInside {c : Coordinate} (hMem : c ∈ cs) (hNumber : c.z.isNaN = false) :=
        hRange.between c.z (mem_presentElevations.mpr ⟨c, hMem, hNumber, rfl⟩)
      rintro (hAll | hNone | ⟨⟨low, hLow, hBelow⟩, high, hHigh, hAbove⟩) c hMem hMissing
      · rw [hAll c hMem] at hMissing
        cases hMissing
      · obtain ⟨other, hOther, hNumber, _⟩ := mem_presentElevations.mp hRange.least_mem
        rw [hNone other hOther] at hNumber
        cases hNumber
      · have hLeast := (hInside hLow (Double.le_iff.mp hBelow).1).1
        have hGreatest := (hInside hHigh (Double.le_iff.mp hAbove).2.1).2
        exact ⟨Double.le_trans hLeast hBelow, Double.le_trans hAbove hGreatest⟩

/-- The blocks behind the positions, in a format with elevations. -/
theorem extras_elevated {f : RecordFormat} (hElevated : f.dimensions = .elevated) :
    extras f cs = (float64 (elevationRange cs).1 :: float64 (elevationRange cs).2 ::
      (cs.map fun c => storedElevation c.z).map float64) ++ measures cs := by
  rw [extras, RecordFormat.hasElevation, RecordFormat.hasMeasure, hElevated, elevations,
    List.map_map]
  rfl

end Block

namespace RecordFormat

variable {f : RecordFormat} {g : Geometry} {puts : List (List UInt8)}

/-- A record of many points ends with the blocks behind their positions. -/
theorem puts_extras (hFamily : f.family ≠ .point) (hPuts : f.puts g = .ok puts) :
    ∃ front cs, puts = front ++ Block.extras f cs ∧ cs.Perm g.coordinates := by
  rw [Geometry.coordinates, ← Shape.flatten_parts]
  rcases puts_cases hPuts with ⟨hPoint, _⟩ | ⟨_, cs, hSet, rfl⟩ | ⟨_, lines, hLines, rfl⟩ |
    ⟨_, polygons, hPolygons, rfl⟩
  · exact absurd hPoint hFamily
  · rw [parts_of_pointSet? hSet, List.flatten_singleton]
    exact ⟨_, cs, rfl, .refl cs⟩
  · rw [parts_of_lines? hLines]
    exact ⟨_, lines.flatten, rfl, .refl _⟩
  · rw [parts_of_polygons? hPolygons]
    exact ⟨_, _, rfl, Polygon.flatten_orientedRings_perm polygons⟩

/-- In front of the elevations of a record stand two numbers. They are the least
and the greatest of the elevations behind them if the geometry has all
elevations or none, or if it has one that is at most zero and one that is at
least zero. Otherwise they are not, as a missing elevation is stored as zero
and left out of the range. -/
theorem elevation_range_iff (hFamily : f.family ≠ .point) (hElevated : f.dimensions = .elevated)
    (hPuts : f.puts g = .ok puts) (hSome : g.coordinates ≠ []) :
    ∃ front least greatest values,
      puts = front ++ (Block.float64 least :: Block.float64 greatest :: values.map Block.float64) ++
        Block.measures g.coordinates ∧
      values.Perm (g.coordinates.map fun c => Block.storedElevation c.z) ∧
      (Block.IsRange least greatest values ↔
        (∀ c ∈ g.coordinates, c.z.isNaN = false) ∨ (∀ c ∈ g.coordinates, c.z.isNaN = true) ∨
          ((∃ c ∈ g.coordinates, c.z ≤ 0) ∧ ∃ c ∈ g.coordinates, 0 ≤ c.z)) := by
  obtain ⟨front, cs, rfl, hSame⟩ := puts_extras hFamily hPuts
  have hThere : cs ≠ [] := by
    rintro rfl
    exact hSome hSame.nil_eq.symm
  refine ⟨front, (Block.elevationRange cs).1, (Block.elevationRange cs).2,
    cs.map fun c => Block.storedElevation c.z, ?_, ?_, ?_⟩
  · rw [Block.extras_elevated hElevated, Block.measures, Block.measures, hSame.length_eq,
      List.append_assoc]
  · exact List.Perm.map _ hSame
  · rw [Block.elevationRange_stored_iff hThere]
    simp only [hSame.mem_iff]

/-- A line that crosses zero and lacks an elevation between. -/
def divingLine : Geometry where
  shape := .lineString [⟨0, 0, 2⟩, { x := 1, y := 0 }, ⟨2, 0, -3⟩]

/-- Its range holds the zero that stands for the missing elevation. -/
theorem elevation_range_diving_line : ∃ puts front least greatest values,
    RecordFormat.puts ⟨.polyLine, .elevated⟩ divingLine = .ok puts ∧
      puts = front ++ (Block.float64 least :: Block.float64 greatest :: values.map Block.float64) ++
        Block.measures divingLine.coordinates ∧
      values.Perm [2, 0, -3] ∧ Block.IsRange least greatest values := by
  have hStored : (divingLine.coordinates.map fun c => Block.storedElevation c.z) = [2, 0, -3] := by
    decide +kernel
  obtain ⟨front, least, greatest, values, hLayout, hValues, hRange⟩ :=
    elevation_range_iff (f := ⟨.polyLine, .elevated⟩) (g := divingLine) (by decide) rfl rfl
      (by decide)
  rw [hStored] at hValues
  have hBelow : ∃ c ∈ divingLine.coordinates, c.z ≤ 0 := by decide +kernel
  have hAbove : ∃ c ∈ divingLine.coordinates, 0 ≤ c.z := by decide +kernel
  exact ⟨_, front, least, greatest, values, rfl, hLayout, hValues,
    hRange.mpr (Or.inr (Or.inr ⟨hBelow, hAbove⟩))⟩

/-- Two points, the second one without an elevation. -/
def halfKnown : Geometry where
  shape := .multiPoint [⟨1, 2, 5⟩, { x := 3, y := 4 }]

/-- The range goes from 5 to 5, and behind it stand 5 and 0. -/
theorem missing_elevation_out_of_range :
    halfKnown.coordinates ≠ [] ∧ ∃ front,
      RecordFormat.puts ⟨.multiPoint, .elevated⟩ halfKnown = .ok (front ++
        (Block.float64 5 :: Block.float64 5 :: [5, 0].map Block.float64) ++
          Block.measures halfKnown.coordinates) ∧
      ¬Block.IsRange 5 5 [5, 0] := by
  refine ⟨by decide, Block.bounds halfKnown ++ Block.count 2 ::
    Block.positions halfKnown.coordinates, by decide +kernel, ?_⟩
  intro hRange
  have hZero := (hRange.between 0 (by simp)).1
  exact absurd hZero (by decide +kernel)

end RecordFormat

end Shapefile
