import Shapefile.Proofs.Shape.RecordLength

/-! The points and the parts of a geometry, which a record counts in signed
words. A record that fits a file has few enough of both. -/
namespace Shapefile

namespace Shape

/-- The lists that a shape is made of: its lines or its rings, or else all of
its points together. -/
def parts : Shape → List (List Coordinate)
  | point c => [[c]]
  | multiPoint cs | lineString cs => [cs]
  | multiLineString lines => lines
  | polygon p => p.rings
  | multiPolygon ps => ps.flatMap Polygon.rings

theorem flatten_parts (shape : Shape) : shape.parts.flatten = shape.coordinates := by
  cases shape with
  | point c => rfl
  | multiPoint cs => exact List.flatten_singleton
  | lineString cs => exact List.flatten_singleton
  | multiLineString lines => rfl
  | polygon p => rfl
  | multiPolygon ps =>
      rw [parts, coordinates, List.flatMap_def, List.flatten_flatten, List.map_map]
      rfl

end Shape

/-- Points and parts are few enough to be counted in signed words. -/
structure Geometry.Countable (g : Geometry) : Prop where
  points_lt : g.numPoints < 2 ^ 31
  parts_lt : g.shape.parts.length < 2 ^ 31

namespace RecordFormat

theorem parts_of_pointSet? {shape : Shape} {cs : List Coordinate}
    (hSet : pointSet? shape = some cs) : shape.parts = [cs] := by
  cases shape with
  | point c =>
      cases hSet
      rfl
  | multiPoint points =>
      cases hSet
      rfl
  | _ => cases hSet

theorem parts_of_lines? {shape : Shape} {lines : List (List Coordinate)}
    (hLines : lines? shape = some lines) : shape.parts = lines := by
  cases shape with
  | lineString cs => exact Option.some.inj hLines
  | multiLineString all => exact Option.some.inj hLines
  | _ => cases hLines

theorem parts_of_polygons? {shape : Shape} {polygons : List Polygon}
    (hPolygons : polygons? shape = some polygons) :
    shape.parts = polygons.flatMap Polygon.rings := by
  cases shape with
  | polygon p =>
      cases hPolygons
      rw [Shape.parts, List.flatMap_cons, List.flatMap_nil, List.append_nil]
  | multiPolygon ps =>
      cases hPolygons
      rfl
  | _ => cases hPolygons

variable {f : RecordFormat} {g : Geometry} {puts : List (List UInt8)}

/-- The counts of a record of parts, from the length of its bytes. -/
theorem counts_lt_of_length_lt {parts : List (List Coordinate)}
    (hLength : (f.multiPartPuts g parts).flatten.length < 2 ^ 32) :
    parts.flatten.length < 2 ^ 31 ∧ parts.length < 2 ^ 31 := by
  have hExact := length_multiPartPuts f g parts
  rw [multiPartLength, typeSize] at hExact
  constructor
  · omega
  · omega

/-- Rings that were turned round are as many as before, and as long. -/
theorem orientedRings_counts (polygons : List Polygon) :
    (Polygon.orientedRings polygons).length = (polygons.flatMap Polygon.rings).length ∧
      (Polygon.orientedRings polygons).flatten.length =
        (polygons.flatMap Polygon.rings).flatten.length := by
  have hLengths := Polygon.map_length_orientedRings polygons
  constructor
  · simpa using congrArg List.length hLengths
  · rw [List.length_flatten, List.length_flatten, hLengths]

/-- A record that is not longer than a file can be counts its points and its
parts without loss. -/
theorem countable_of_puts (hPuts : f.puts g = .ok puts) (hLength : puts.flatten.length < 2 ^ 32) :
    g.Countable := by
  have hCounts (hBoth : g.shape.parts.flatten.length < 2 ^ 31 ∧ g.shape.parts.length < 2 ^ 31) :
      g.Countable := by
    refine ⟨?_, hBoth.2⟩
    rw [Geometry.numPoints, Geometry.coordinates, ← Shape.flatten_parts]
    exact hBoth.1
  apply hCounts
  rcases puts_cases hPuts with ⟨_, c, hShape, _⟩ | ⟨_, cs, hSet, rfl⟩ | ⟨_, lines, hLines, rfl⟩ |
    ⟨_, polygons, hPolygons, rfl⟩
  · rw [hShape]
    simp [Shape.parts]
  · have hExact := length_multiPointPuts f g cs
    rw [multiPointLength, typeSize] at hExact
    rw [parts_of_pointSet? hSet, List.flatten_singleton, List.length_singleton]
    omega
  · rw [parts_of_lines? hLines]
    exact counts_lt_of_length_lt hLength
  · obtain ⟨hParts, hPoints⟩ := orientedRings_counts polygons
    rw [parts_of_polygons? hPolygons, ← hParts, ← hPoints]
    exact counts_lt_of_length_lt hLength

end RecordFormat

end Shapefile
