import Shapefile.Proofs.Shape.PartRanges
import Shapefile.Proofs.Storage.ChannelNumbers
import Shapefile.Shape.Record.Format

/-! Which bytes are a record of parts. The counts and the starts stand at
fixed offsets, the positions behind them, and the elevations behind those.
Bytes hold all of this, or they contradict themselves, or they end too early,
and no bytes are of two of these kinds. -/
namespace Shapefile

namespace MultiPart

variable (f : RecordFormat) (d : Bytes)

/-! ### What the bytes say -/

/-- The number of parts that the bytes declare. -/
def partCount : Int := (d.wordAt 32).toInt

/-- The number of points that the bytes declare. -/
def pointCount : Int := (d.wordAt 36).toInt

/-- Where the parts start, as the table says. -/
def starts : List Int := (List.range (partCount d).toNat).map fun i => (d.wordAt (40 + 4 * i)).toInt

/-- Offset of the positions. -/
def positionsOffset : Nat := 40 + 4 * (partCount d).toNat

/-- Offset of the elevations, behind their range. -/
def elevationsOffset : Nat := positionsOffset d + 16 * (pointCount d).toNat + 16

/-- The position of a point. -/
def positionAt (i : Nat) : Coordinate :=
  { x := d.doubleAt (positionsOffset d + 16 * i), y := d.doubleAt (positionsOffset d + 16 * i + 8) }

/-- A point, with the elevation that the format has. -/
def coordinateAt (i : Nat) : Coordinate :=
  if f.hasElevation then { positionAt d i with z := d.doubleAt (elevationsOffset d + 8 * i) }
  else positionAt d i

/-- All points. -/
def coordinates : List Coordinate := (List.range (pointCount d).toNat).map (coordinateAt f d)

/-- The range of each part among the points. -/
def ranges : List (Nat × Nat) := Block.rangesTo (pointCount d).toNat ((starts d).map Int.toNat)

/-- The points of each part. -/
def parts : List (List Coordinate) := (ranges d).map (Block.slice (coordinates f d))

/-- The shape of the record that the bytes hold. -/
def shape : Shape :=
  match f.family with
  | .polygon => .multiPolygon (Polygon.assemble (RecordFormat.usableRings (parts f d)))
  | _ => .multiLineString ((parts f d).map RecordFormat.line)

/-! ### Which bytes hold it -/

/-- The bytes hold both counts and a part table that makes sense. -/
structure HoldsTable : Prop where
  counts_inside : 40 ≤ d.size
  partCount_nonneg : 0 ≤ partCount d
  pointCount_nonneg : 0 ≤ pointCount d
  table_inside : 40 + 4 * partCount d ≤ d.size
  starts_nonneg : ∀ start ∈ starts d, 0 ≤ start
  /-- The starts do not decrease, and the last one is not behind the last point. -/
  ordered : (starts d ++ [pointCount d]).Pairwise (· ≤ ·)

/-- The bytes hold the part table and all positions. -/
structure HoldsPositions : Prop extends HoldsTable d where
  positions_inside : 40 + 4 * partCount d + 16 * pointCount d ≤ d.size

/-- The bytes hold a record of the format. Elevations have to be there only
if there are points; measures may be cut. -/
structure Decodes : Prop extends HoldsPositions d where
  elevations_inside : f.hasElevation → pointCount d = 0 ∨
    40 + 4 * partCount d + 16 * pointCount d + (16 + 8 * pointCount d) ≤ d.size

/-- The bytes contradict themselves: a count is negative, a count is greater
than the remaining bytes allow, or the part table is bad. -/
inductive Malformed : Prop where
  | negativeParts (hThere : 36 ≤ d.size) (hNegative : partCount d < 0)
  | negativePoints (hThere : 40 ≤ d.size) (hParts : 0 ≤ partCount d)
      (hNegative : pointCount d < 0)
  | tooManyParts (hThere : 40 ≤ d.size) (hParts : 0 ≤ partCount d)
      (hPast : d.size < 40 + 4 * partCount d)
  | negativeStart (hThere : 40 ≤ d.size) (hParts : 0 ≤ partCount d)
      (hNegative : ∃ start ∈ starts d, start < 0)
  | unorderedStarts (hThere : 40 ≤ d.size) (hParts : 0 ≤ partCount d)
      (hUnordered : ¬(starts d ++ [pointCount d]).Pairwise (· ≤ ·))
  | tooManyPoints (hThere : 40 ≤ d.size) (hParts : 0 ≤ partCount d)
      (hPast : d.size < 40 + 4 * partCount d + 16 * pointCount d)

/-- The bytes end inside an item of fixed width: a count, or the elevations. -/
inductive Truncated : Prop where
  | partCount (hCut : d.size < 36)
  | pointCount (hThere : 36 ≤ d.size) (hCut : d.size < 40) (hParts : 0 ≤ partCount d)
  | elevations (hHolds : HoldsPositions d) (hElevation : f.hasElevation)
      (hPoints : pointCount d ≠ 0)
      (hCut : d.size < 40 + 4 * partCount d + 16 * pointCount d + (16 + 8 * pointCount d))

/-! ### How the points are cut -/

/-- The parts cut the points, from the first start on, where the table says
so. They leave no gap and do not overlap. -/
structure CutsPoints : Prop where
  points_eq : (coordinates f d).length = pointCount d
  starts_eq : (ranges d).map (fun range => (range.1 : Int)) = starts d
  range_le : ∀ range ∈ ranges d, range.1 ≤ range.2 ∧ range.2 ≤ (coordinates f d).length
  /-- Every point from the first start on has its place in exactly one range, in order. -/
  tile : ∀ first ∈ (starts d).head?,
    (ranges d).flatMap (fun range => List.range' range.1 (range.2 - range.1)) =
      List.range' first.toNat ((pointCount d).toNat - first.toNat)
  flatten_eq : ∀ first ∈ (starts d).head?,
    (parts f d).flatten = (coordinates f d).drop first.toNat
  none_of_none : partCount d = 0 → parts f d = []

variable {f : RecordFormat} {d : Bytes}

/-! ### The three kinds of bytes -/

theorem HoldsPositions.not_malformed (h : HoldsPositions d) : ¬Malformed d := by
  have hCounts := h.counts_inside
  have hParts := h.partCount_nonneg
  have hPoints := h.pointCount_nonneg
  have hTable := h.table_inside
  have hPositions := h.positions_inside
  intro hMalformed
  cases hMalformed with
  | negativeParts _ hNegative => omega
  | negativePoints _ _ hNegative => omega
  | tooManyParts _ _ hPast => omega
  | negativeStart _ _ hNegative =>
      obtain ⟨start, hStart, hBelow⟩ := hNegative
      have hNonneg := h.starts_nonneg start hStart
      omega
  | unorderedStarts _ _ hUnordered => exact hUnordered h.ordered
  | tooManyPoints _ _ hPast => omega

theorem Decodes.not_malformed (h : Decodes f d) : ¬Malformed d :=
  h.toHoldsPositions.not_malformed

theorem Decodes.not_truncated (h : Decodes f d) : ¬Truncated f d := by
  have hCounts := h.counts_inside
  intro hTruncated
  cases hTruncated with
  | partCount hCut => omega
  | pointCount _ hCut => omega
  | elevations _ hElevation hPoints hCut =>
      rcases h.elevations_inside hElevation with hNone | hInside
      · exact hPoints hNone
      · omega

theorem Malformed.not_truncated (h : Malformed d) : ¬Truncated f d := by
  intro hTruncated
  cases hTruncated with
  | partCount hCut => cases h <;> omega
  | pointCount _ hCut hParts => cases h <;> omega
  | elevations hHolds => exact hHolds.not_malformed h

/-- The starts as reading checks them. -/
theorem ordered_iff (hPoints : 0 ≤ pointCount d) (hStarts : ∀ start ∈ starts d, 0 ≤ start) :
    Block.Ordered (pointCount d).toNat ((starts d).map Int.toNat) ↔
      (starts d ++ [pointCount d]).Pairwise (· ≤ ·) := by
  have hAll : (starts d).map Int.toNat ++ [(pointCount d).toNat] =
      (starts d ++ [pointCount d]).map Int.toNat := by
    rw [List.map_append, List.map_singleton]
  rw [Block.Ordered, hAll, List.pairwise_map]
  apply List.Pairwise.iff_of_mem
  intro a b hFirst hSecond
  have hNonneg : ∀ start ∈ starts d ++ [pointCount d], 0 ≤ start := by
    intro start hStart
    rcases List.mem_append.mp hStart with hTable | hLast
    · exact hStarts start hTable
    · rwa [List.mem_singleton.mp hLast]
  have hA := hNonneg a hFirst
  have hB := hNonneg b hSecond
  omega

/-- Behind two counts, all that can be wrong with positions and table. -/
theorem malformed_of_not_holdsPositions (hThere : 40 ≤ d.size) (hParts : 0 ≤ partCount d)
    (hNot : ¬HoldsPositions d) : Malformed d := by
  by_contra hFine
  have hPoints : 0 ≤ pointCount d := by
    by_contra hNegative
    exact hFine (.negativePoints hThere hParts (by omega))
  have hTable : 40 + 4 * partCount d ≤ d.size := by
    by_contra hPast
    exact hFine (.tooManyParts hThere hParts (by omega))
  have hStarts : ∀ start ∈ starts d, 0 ≤ start := by
    by_contra hNegative
    push Not at hNegative
    exact hFine (.negativeStart hThere hParts hNegative)
  have hOrdered : (starts d ++ [pointCount d]).Pairwise (· ≤ ·) := by
    by_contra hUnordered
    exact hFine (.unorderedStarts hThere hParts hUnordered)
  have hInside : 40 + 4 * partCount d + 16 * pointCount d ≤ d.size := by
    by_contra hPast
    exact hFine (.tooManyPoints hThere hParts (by omega))
  exact hNot ⟨⟨hThere, hParts, hPoints, hTable, hStarts, hOrdered⟩, hInside⟩

/-! ### Parts and points -/

theorem length_coordinates (f : RecordFormat) (d : Bytes) :
    (coordinates f d).length = (pointCount d).toNat := by
  rw [coordinates, List.length_map, List.length_range]

theorem HoldsTable.cutsPoints (h : HoldsTable d) : CutsPoints f d := by
  have hOrdered := (ordered_iff h.pointCount_nonneg h.starts_nonneg).mpr h.ordered
  have hLength := length_coordinates f d
  have hTable (first : Int) (hFirst : first ∈ (starts d).head?) :
      ∃ rest, (starts d).map Int.toNat = first.toNat :: rest := by
    obtain ⟨rest, hRest⟩ := List.head?_eq_some_iff.mp hFirst
    exact ⟨rest.map Int.toNat, by rw [hRest, List.map_cons]⟩
  refine ⟨?_, ?_, ?_, fun first hFirst => ?_, fun first hFirst => ?_, fun hNone => ?_⟩
  · rw [hLength]
    exact Int.toNat_of_nonneg h.pointCount_nonneg
  · have hStarts : (ranges d).map Prod.fst = (starts d).map Int.toNat :=
      Block.map_fst_rangesTo _ _
    have hNats : (ranges d).map (fun range => (range.1 : Int)) =
        ((starts d).map Int.toNat).map Int.ofNat := by
      rw [← hStarts, List.map_map]
      rfl
    rw [hNats, List.map_map]
    have hSame : (starts d).map (Int.ofNat ∘ Int.toNat) = (starts d).map id :=
      List.map_congr_left fun start hStart => Int.toNat_of_nonneg (h.starts_nonneg start hStart)
    rw [hSame, List.map_id]
  · rw [hLength]
    exact hOrdered.range_le
  · obtain ⟨rest, hRest⟩ := hTable first hFirst
    rw [hRest] at hOrdered
    rw [ranges, hRest]
    exact hOrdered.tile
  · obtain ⟨rest, hRest⟩ := hTable first hFirst
    rw [hRest, ← hLength] at hOrdered
    rw [parts, ranges, hRest, ← hLength]
    exact hOrdered.flatten_slices
  · rw [parts, ranges, starts, hNone]
    rfl

end MultiPart

end Shapefile
