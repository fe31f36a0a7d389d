import Shapefile.Proofs.Shape.RecordReading
import Shapefile.Proofs.Shape.SettledPolygons

/-! Polygons that are read, written and read again. -/
namespace Shapefile.RecordFormat

/-- Reading polygons back gives no ring more than was written, and at most one
point more for each ring. -/
theorem reread_counts (f : RecordFormat) (polygons : List Polygon) :
    ((f.reread polygons).flatMap Polygon.rings).length ≤
        (Polygon.orientedRings polygons).length ∧
      ((f.reread polygons).flatMap Polygon.rings).flatten.length ≤
        (Polygon.orientedRings polygons).flatten.length +
          (Polygon.orientedRings polygons).length := by
  have hKept := Polygon.assemble_keeps (Polygon.length_wound .clockwise)
    (f.restoredRings polygons)
  have hSome : (f.restoredRings polygons).Sublist
      ((Polygon.orientedRings polygons).map fun ring => Ring.shut (ring.map f.held)) :=
    List.filter_sublist
  constructor
  · have hRings := hKept.length_eq
    have hFewer := hSome.length_le
    rw [List.length_map, List.length_map] at hRings
    rw [List.length_map] at hFewer
    rw [reread, hRings]
    exact hFewer
  · have hFewer := (hSome.map List.length).sum_le_sum fun _ _ => Nat.zero_le _
    have hEach : (((Polygon.orientedRings polygons).map fun ring =>
        Ring.shut (ring.map f.held)).map List.length).sum ≤
          ((Polygon.orientedRings polygons).map fun ring => ring.length + 1).sum := by
      rw [List.map_map]
      apply List.sum_le_sum
      intro ring _
      have hOne := Ring.length_shut_le (ring.map f.held)
      rwa [List.length_map] at hOne
    rw [List.sum_map_add] at hEach
    rw [reread, List.length_flatten, hKept.sum_eq, List.length_flatten]
    apply hFewer.trans
    simpa using hEach

variable {f : RecordFormat} {g : Geometry} {polygons : List Polygon}

theorem puts_of_multiPolygon (hFamily : f.family = .polygon)
    (hShape : g.shape = .multiPolygon polygons) :
    f.puts g = .ok (f.multiPartPuts g (Polygon.orientedRings polygons)) := by
  simp only [puts, hFamily, hShape, polygons?]

/-- What a record of few enough rings and points is read as. -/
theorem readPayload_of_multiPolygon (hFamily : f.family = .polygon)
    (hShape : g.shape = .multiPolygon polygons) (hCounts : g.Countable) :
    f.readPayload g = .ok (some { shape := .multiPolygon (f.reread polygons) }) := by
  have hBack : f.readBack g.shape = .multiPolygon (f.reread polygons) := by
    simp only [readBack, hFamily, hShape, polygons?, Option.getD_some, usableRings_eq, reread]
  rw [readPayload_of_countable (puts_of_multiPolygon hFamily hShape) hCounts, hBack]

/-- What was read from a record that fits a file can be written and read
again. -/
theorem countable_reread (hFamily : f.family = .polygon)
    (hShape : g.shape = .multiPolygon polygons)
    (hLength : (f.recordPayload (some g)).length < 2 ^ 32) :
    g.Countable ∧ Geometry.Countable { shape := .multiPolygon (f.reread polygons) } := by
  have hPuts := puts_of_multiPolygon hFamily hShape
  rw [recordPayload_of_puts hPuts] at hLength
  refine ⟨countable_of_puts hPuts hLength, ?_⟩
  have hExact := length_multiPartPuts f g (Polygon.orientedRings polygons)
  rw [multiPartLength, typeSize] at hExact
  obtain ⟨hRings, hPoints⟩ := f.reread_counts polygons
  constructor
  · rw [Geometry.numPoints, Geometry.coordinates, ← Shape.flatten_parts, Shape.parts]
    omega
  · rw [Shape.parts]
    omega

/-- Polygons of a record that fits a file are read back, and what was read can
be written and read once more. The second reading gives the same polygons
exactly if these are settled. If all their shells wind clockwise, it keeps all
shells and all holes in any case, and at most a hole goes to another shell. -/
theorem multiPolygon_reread (hFamily : f.family = .polygon)
    (hShape : g.shape = .multiPolygon polygons) (hPlaces : ∀ c ∈ g.coordinates, c.IsPlace)
    (hLength : (f.recordPayload (some g)).length < 2 ^ 32) :
    let once := f.reread polygons
    let twice := f.reread once
    f.readPayload g = .ok (some { shape := .multiPolygon once }) ∧
      f.readPayload { shape := .multiPolygon once } =
        .ok (some { shape := .multiPolygon twice }) ∧
      (twice = once ↔ Polygon.Settled once) ∧
      ((∀ p ∈ once, Ring.winding p.exterior = .clockwise) →
        twice.map Polygon.exterior = once.map Polygon.exterior ∧
          (twice.flatMap Polygon.interiors).Perm (once.flatMap Polygon.interiors)) := by
  obtain ⟨hCounts, hCountsAgain⟩ := countable_reread hFamily hShape hLength
  have hSource : ∀ ring ∈ f.restoredRings polygons, f.Restored ring := by
    apply f.restored_of_mem_restoredRings
    intro p hMem ring hRing c hCoordinate
    apply hPlaces
    rw [Geometry.coordinates, hShape]
    exact List.mem_flatMap.mpr ⟨p, hMem, List.mem_flatten.mpr ⟨ring, hRing, hCoordinate⟩⟩
  intro once twice
  refine ⟨readPayload_of_multiPolygon hFamily hShape hCounts,
    readPayload_of_multiPolygon hFamily rfl hCountsAgain, ⟨?_, ?_⟩, ?_⟩
  · exact settled_of_reread hSource
  · exact reread_of_settled hSource
  · exact reread_of_clockwise hSource

/-- A triangle, clockwise. -/
def wideTriangle : Ring :=
  [{ x := 0, y := 0 }, { x := 0, y := 10 }, { x := 10, y := 0 }, { x := 0, y := 0 }]

/-- A triangle inside the wide one, counter-clockwise. -/
def innerTriangle : Ring :=
  [{ x := 2, y := 2 }, { x := 3, y := 2 }, { x := 2, y := 3 }, { x := 2, y := 2 }]

/-- A triangle far away, clockwise. -/
def farTriangle : Ring :=
  [{ x := 20, y := 0 }, { x := 20, y := 1 }, { x := 21, y := 0 }, { x := 20, y := 0 }]

/-- Two triangles apart, one with a hole, are read as they are, as often as
one likes. -/
theorem multiPolygon_reread_two_triangles :
    let twoTriangles : List Polygon := [⟨wideTriangle, [innerTriangle]⟩, ⟨farTriangle, []⟩]
    Polygon.Settled twoTriangles ∧
      readPayload ⟨.polygon, .plane⟩ { shape := .multiPolygon twoTriangles } =
        .ok (some { shape := .multiPolygon twoTriangles }) := by
  intro twoTriangles
  have hOnce : reread ⟨.polygon, .plane⟩ twoTriangles = twoTriangles := by decide +kernel
  obtain ⟨hRead, _, hSettled, _⟩ := multiPolygon_reread (f := ⟨.polygon, .plane⟩)
    (g := { shape := .multiPolygon twoTriangles }) rfl rfl (by decide +kernel) (by decide +kernel)
  rw [hOnce] at hRead hSettled
  exact ⟨hSettled.mp hOnce, hRead⟩

/-- A square around the inner triangle that reaches out of the wide one,
counter-clockwise. -/
def reachingSquare : Ring :=
  [{ x := 8, y := 8 }, { x := 1, y := 8 }, { x := 1, y := 1 }, { x := 8, y := 1 },
    { x := 8, y := 8 }]

/-- The square is read as a shell, after the inner triangle was placed. When
that is written and read again, the inner triangle lies in the square. -/
theorem hole_moves_on_rereading :
    let drawn : List Polygon :=
      [⟨wideTriangle, [innerTriangle, reachingSquare]⟩, ⟨farTriangle, []⟩]
    let once : List Polygon :=
      [⟨wideTriangle, [innerTriangle]⟩, ⟨farTriangle, []⟩, ⟨reachingSquare.reverse, []⟩]
    let twice : List Polygon :=
      [⟨wideTriangle, []⟩, ⟨farTriangle, []⟩, ⟨reachingSquare.reverse, [innerTriangle]⟩]
    readPayload ⟨.polygon, .plane⟩ { shape := .multiPolygon drawn } =
        .ok (some { shape := .multiPolygon once }) ∧
      readPayload ⟨.polygon, .plane⟩ { shape := .multiPolygon once } =
        .ok (some { shape := .multiPolygon twice }) ∧
      twice ≠ once := by
  intro drawn once twice
  have hOnce : reread ⟨.polygon, .plane⟩ drawn = once := by decide +kernel
  have hTwice : reread ⟨.polygon, .plane⟩ once = twice := by decide +kernel
  refine ⟨?_, ?_, by decide +kernel⟩
  · rw [← hOnce]
    exact readPayload_of_multiPolygon rfl rfl ⟨by decide +kernel, by decide +kernel⟩
  · rw [← hTwice]
    exact readPayload_of_multiPolygon rfl rfl ⟨by decide +kernel, by decide +kernel⟩

end Shapefile.RecordFormat
