import Shapefile.Proofs.Storage.ByteLayout
import Shapefile.Shape.Record.Format

/-! The length of a record is known before its bytes are made up: a format
that gives a geometry a length also gives it a payload, and the payload is
as long as the length says. -/
namespace Shapefile

namespace Block

@[simp] theorem length_float64 (x : Float) : (float64 x).length = 8 :=
  ByteOrder.length_float64 .little x

@[simp] theorem length_count (n : Nat) : (count n).length = 4 :=
  ByteOrder.length_int32 .little _

/-- Items that are laid out in one put of one size each. -/
theorem length_flatten_map {α : Type} (items : List α) {encode : α → List UInt8} {size : Nat}
    (hSize : ∀ item, (encode item).length = size) :
    (items.map encode).flatten.length = size * items.length := by
  rw [Bytes.length_flatten_pieces (by simpa using fun item _ => hSize item), List.length_map]

theorem length_bounds (g : Geometry) : (bounds g).flatten.length = boundsSize := by
  simp [bounds, ShapeHeader.boundsPuts, boundsSize]

theorem length_positions (cs : List Coordinate) :
    (positions cs).flatten.length = 16 * cs.length := by
  have hEach (c : Coordinate) : [float64 c.x, float64 c.y].flatten.length = 16 := by
    simp
  exact Bytes.length_flatten_flatMap cs hEach

theorem length_elevations (cs : List Coordinate) :
    (elevations cs).flatten.length = 16 + 8 * cs.length := by
  simp only [elevations, List.flatten_cons, List.length_append, length_float64]
  rw [length_flatten_map cs fun c => length_float64 _]
  omega

theorem length_measures (cs : List Coordinate) :
    (measures cs).flatten.length = 16 + 8 * cs.length := by
  simp only [measures, List.length_flatten, List.map_replicate, length_float64,
    List.sum_replicate_nat]
  omega

/-- The blocks behind the positions are as long as their formats say. -/
theorem length_extras (f : RecordFormat) (cs : List Coordinate) :
    (extras f cs).flatten.length = extrasSize f cs.length := by
  rcases f with ⟨family, _ | _ | _⟩
  · rfl
  · exact length_measures cs
  · have hBlocks : (extras ⟨family, .elevated⟩ cs).flatten =
        (elevations cs).flatten ++ (measures cs).flatten := List.flatten_append
    rw [hBlocks, List.length_append, length_elevations, length_measures]
    exact (Nat.two_mul _).symm

@[simp] theorem length_starts (start : Nat) (parts : List (List Coordinate)) :
    (starts start parts).length = parts.length := by
  induction parts generalizing start with
  | nil => rfl
  | cons part parts ih => rw [starts, List.length_cons, ih, List.length_cons]

theorem length_partTable (parts : List (List Coordinate)) :
    (partTable parts).flatten.length = 8 + 4 * parts.length := by
  simp only [partTable, List.flatten_cons, List.length_append, length_count]
  rw [length_flatten_map _ length_count, length_starts]
  omega

end Block

namespace Polygon

theorem length_wound (order : Winding) (ring : Ring) :
    (Ring.wound order ring).length = ring.length := by
  unfold Ring.wound
  split
  · exact List.length_reverse
  · rfl

/-- Turning rings round changes the length of none. -/
theorem map_length_orientedRings (polygons : List Polygon) :
    (orientedRings polygons).map List.length = (polygons.flatMap rings).map List.length := by
  induction polygons with
  | nil => rfl
  | cons p polygons ih =>
      have hHoles : (p.interiors.map (Ring.wound .counterClockwise)).map List.length =
          p.interiors.map List.length := by
        rw [List.map_map]
        exact List.map_congr_left fun ring _ => length_wound _ ring
      simp only [orientedRings, List.flatMap_cons, List.map_append, rings] at ih ⊢
      rw [ih, List.map_cons, List.map_cons, length_wound, hHoles]

end Polygon

namespace RecordFormat

theorem length_pointPuts (f : RecordFormat) (c : Coordinate) :
    f.pointLength = typeSize + (f.pointPuts c).flatten.length := by
  cases f with
  | mk family dimensions =>
      cases dimensions <;>
        simp [pointPuts, pointLength, hasElevation, hasMeasure, typeSize]

theorem length_multiPointPuts (f : RecordFormat) (g : Geometry) (cs : List Coordinate) :
    f.multiPointLength cs = typeSize + (f.multiPointPuts g cs).flatten.length := by
  simp only [multiPointPuts, multiPointLength, List.flatten_append, List.flatten_cons,
    List.length_append, Block.length_bounds, Block.length_count, Block.length_positions,
    Block.length_extras, typeSize, Block.boundsSize]
  omega

theorem length_multiPartPuts (f : RecordFormat) (g : Geometry) (parts : List (List Coordinate)) :
    f.multiPartLength parts = typeSize + (f.multiPartPuts g parts).flatten.length := by
  simp only [multiPartPuts, multiPartLength, List.flatten_append, List.length_append,
    Block.length_bounds, Block.length_partTable, Block.length_positions, Block.length_extras,
    typeSize, Block.boundsSize]
  omega

/-- The length of a record of parts depends on the lengths of the parts only. -/
theorem multiPartLength_congr (f : RecordFormat) {parts others : List (List Coordinate)}
    (hLengths : parts.map List.length = others.map List.length) :
    f.multiPartLength parts = f.multiPartLength others := by
  have hCount := congrArg List.length hLengths
  rw [List.length_map, List.length_map] at hCount
  rw [multiPartLength, multiPartLength, List.length_flatten, List.length_flatten, hLengths, hCount]

/-- A format that gives a geometry a length gives it a payload of that length,
less the shape type; a format that refuses a geometry does both times so. -/
theorem length_eq_puts (f : RecordFormat) (g : Geometry) :
    f.length g = (f.puts g).map fun puts => typeSize + puts.flatten.length := by
  rcases f with ⟨_ | _ | _ | _, dimensions⟩
  all_goals simp only [length, puts]
  · cases g.shape with
    | point c => exact congrArg Except.ok (length_pointPuts _ c)
    | _ => rfl
  · cases lines? g.shape with
    | none => rfl
    | some lines => simp only [Except.map, length_multiPartPuts _ g]
  · cases polygons? g.shape with
    | none => rfl
    | some polygons =>
        simp only [Except.map]
        rw [← multiPartLength_congr _ (Polygon.map_length_orientedRings polygons),
          length_multiPartPuts _ g]
  · cases pointSet? g.shape with
    | none => rfl
    | some cs => simp only [Except.map, length_multiPointPuts _ g]

/-- A geometry with a length has a payload. -/
theorem puts_of_length {f : RecordFormat} {g : Geometry} {length : Nat}
    (hLength : f.length g = .ok length) :
    ∃ puts, f.puts g = .ok puts ∧ length = typeSize + puts.flatten.length := by
  rw [length_eq_puts] at hLength
  cases hPuts : f.puts g with
  | error e =>
      rw [hPuts] at hLength
      cases hLength
  | ok puts =>
      rw [hPuts] at hLength
      exact ⟨puts, rfl, (Except.ok.inj hLength).symm⟩

/-- What a format writes, by the family of the format. -/
theorem puts_cases {f : RecordFormat} {g : Geometry} {puts : List (List UInt8)}
    (hPuts : f.puts g = .ok puts) :
    (f.family = .point ∧ ∃ c, g.shape = .point c ∧ puts = f.pointPuts c) ∨
      (f.family = .multiPoint ∧
        ∃ cs, pointSet? g.shape = some cs ∧ puts = f.multiPointPuts g cs) ∨
      (f.family = .polyLine ∧
        ∃ lines, lines? g.shape = some lines ∧ puts = f.multiPartPuts g lines) ∨
      (f.family = .polygon ∧ ∃ polygons, polygons? g.shape = some polygons ∧
        puts = f.multiPartPuts g (Polygon.orientedRings polygons)) := by
  unfold RecordFormat.puts at hPuts
  cases hFamily : f.family with
  | point =>
      simp only [hFamily] at hPuts
      split at hPuts
      next c hShape =>
        cases hPuts
        exact .inl ⟨rfl, c, hShape, rfl⟩
      next => cases hPuts
  | multiPoint =>
      simp only [hFamily] at hPuts
      split at hPuts
      next cs hSet =>
        cases hPuts
        exact .inr (.inl ⟨rfl, cs, hSet, rfl⟩)
      next => cases hPuts
  | polyLine =>
      simp only [hFamily] at hPuts
      split at hPuts
      next lines hLines =>
        cases hPuts
        exact .inr (.inr (.inl ⟨rfl, lines, hLines, rfl⟩))
      next => cases hPuts
  | polygon =>
      simp only [hFamily] at hPuts
      split at hPuts
      next polygons hPolygons =>
        cases hPuts
        exact .inr (.inr (.inr ⟨rfl, polygons, hPolygons, rfl⟩))
      next => cases hPuts

theorem extrasSize_mod_eight (f : RecordFormat) (points : Nat) :
    Block.extrasSize f points % 8 = 0 := by
  unfold Block.extrasSize
  cases f.dimensions with
  | plane => rfl
  | measured => simp only; omega
  | elevated => simp only; omega

/-- Records are made of words of four bytes. -/
theorem length_mod_four {f : RecordFormat} {g : Geometry} {length : Nat}
    (hLength : f.length g = .ok length) : length % 4 = 0 := by
  have hMultiPoint (cs : List Coordinate) : f.multiPointLength cs % 4 = 0 := by
    have hExtras := extrasSize_mod_eight f cs.length
    rw [multiPointLength]
    omega
  have hMultiPart (parts : List (List Coordinate)) : f.multiPartLength parts % 4 = 0 := by
    have hExtras := extrasSize_mod_eight f parts.flatten.length
    rw [multiPartLength]
    omega
  obtain ⟨puts, hPuts, rfl⟩ := puts_of_length hLength
  rcases puts_cases hPuts with ⟨_, c, _, rfl⟩ | ⟨_, cs, _, rfl⟩ | ⟨_, lines, _, rfl⟩ |
    ⟨_, polygons, _, rfl⟩
  · rw [← length_pointPuts, pointLength]
    cases f.dimensions <;> rfl
  · rw [← length_multiPointPuts]
    exact hMultiPoint cs
  · rw [← length_multiPartPuts]
    exact hMultiPart lines
  · rw [← length_multiPartPuts]
    exact hMultiPart (Polygon.orientedRings polygons)

/-- The shortest record is a point with its shape type. -/
theorem twenty_le_length {f : RecordFormat} {g : Geometry} {length : Nat}
    (hLength : f.length g = .ok length) : 20 ≤ length := by
  obtain ⟨puts, hPuts, rfl⟩ := puts_of_length hLength
  rcases puts_cases hPuts with ⟨_, c, _, rfl⟩ | ⟨_, cs, _, rfl⟩ | ⟨_, lines, _, rfl⟩ |
    ⟨_, polygons, _, rfl⟩
  · rw [← length_pointPuts, pointLength]
    cases f.dimensions <;> decide
  · rw [← length_multiPointPuts, multiPointLength]
    omega
  · rw [← length_multiPartPuts, multiPartLength]
    omega
  · rw [← length_multiPartPuts, multiPartLength]
    omega

end RecordFormat

end Shapefile
