import Shapefile.Proofs.Shape.RestoredRings

/-! Polygons that are put together a second time. A shell that was a hole is
among the shells then, so a hole may find an owner that was not there the first
time. Nothing moves exactly if the holes lie where the second time puts them. -/
namespace Shapefile

namespace Polygon

/-! ### Polygons as they were read -/

/-- A polygon as it comes out of a record. Its holes are holes, and its shell
was a shell or a hole that was turned round. -/
structure Restored (f : RecordFormat) (p : Polygon) : Prop where
  exterior : f.Restored p.exterior
  turned : Ring.winding p.exterior = .counterClockwise →
    Ring.winding p.exterior.reverse = .counterClockwise
  interiors : ∀ hole ∈ p.interiors,
    f.Restored hole ∧ Ring.winding hole = .counterClockwise

variable {f : RecordFormat} {source : List Ring} {polygons : List Polygon}

theorem mem_shellsIn {ring : Ring} :
    ring ∈ shellsIn source ↔ ring ∈ source ∧ Ring.winding ring = .clockwise := by
  simp [shellsIn]

theorem mem_holesIn {ring : Ring} :
    ring ∈ holesIn source ↔ ring ∈ source ∧ Ring.winding ring = .counterClockwise := by
  simp [holesIn]

/-- A hole that was turned round can be turned back. -/
theorem reverse_wound {hole : Ring} (hRestored : f.Restored hole)
    (hHole : Ring.winding hole = .counterClockwise) :
    (Ring.wound .clockwise hole).reverse = hole := by
  rw [hRestored.wound_reverse (by simp [hHole]), List.reverse_reverse]

/-- Restored rings make restored polygons. -/
theorem restored_of_mem_assemble (hSource : ∀ ring ∈ source, f.Restored ring) {p : Polygon}
    (hMem : p ∈ assemble source) : p.Restored f := by
  have hInteriors : ∀ hole ∈ p.interiors,
      f.Restored hole ∧ Ring.winding hole = .counterClockwise := by
    intro hole hHole
    obtain ⟨hIn, hWinding⟩ := mem_holesIn.mp (interior_of_mem_assemble hMem hole hHole)
    exact ⟨hSource hole hIn, hWinding⟩
  rcases exterior_of_mem_assemble hMem with hShell | ⟨hole, hHole, hTurned⟩
  · obtain ⟨hIn, hWinding⟩ := mem_shellsIn.mp hShell
    exact ⟨hSource _ hIn, by simp [hWinding], hInteriors⟩
  · obtain ⟨hIn, hWinding⟩ := mem_holesIn.mp hHole
    refine ⟨hTurned ▸ (hSource hole hIn).wound _, fun _ => ?_, hInteriors⟩
    rw [hTurned, reverse_wound (hSource hole hIn) hWinding]
    exact hWinding

/-! ### What is stored for them -/

/-- The rings that are stored for a restored polygon. -/
def storedRings (p : Polygon) : List Ring := Ring.wound .clockwise p.exterior :: p.interiors

/-- The holes that the next reading places for a polygon. A shell that does
not wind clockwise is the first of them. -/
def placedAgain (p : Polygon) : List Ring :=
  if Ring.winding p.exterior = .clockwise then p.interiors
  else p.exterior.reverse :: p.interiors

/-- The rings of restored polygons are stored as they are, shells clockwise
where that can be. -/
theorem restoredRings_eq (hPolygons : ∀ p ∈ polygons, p.Restored f) :
    f.restoredRings polygons = polygons.flatMap storedRings := by
  have hOriented : (polygons.flatMap fun p =>
      Ring.wound .clockwise p.exterior :: p.interiors.map (Ring.wound .counterClockwise)) =
      polygons.flatMap storedRings := by
    refine List.flatMap_congr fun p hMem => ?_
    rw [storedRings, List.map_congr_left (g := id), List.map_id]
    intro hole hHole
    exact Ring.wound_of_winding ((hPolygons p hMem).interiors hole hHole).2
  have hRestored : ∀ ring ∈ polygons.flatMap storedRings, f.Restored ring := by
    intro ring hRing
    obtain ⟨p, hMem, hIn⟩ := List.mem_flatMap.mp hRing
    rcases List.mem_cons.mp hIn with rfl | hHole
    · exact (hPolygons p hMem).exterior.wound _
    · exact ((hPolygons p hMem).interiors ring hHole).1
  have hStored : (polygons.flatMap storedRings).map (fun ring => Ring.shut (ring.map f.held)) =
      polygons.flatMap storedRings := by
    rw [List.map_congr_left (g := id) fun ring hRing => (hRestored ring hRing).stored, List.map_id]
  rw [RecordFormat.restoredRings]
  simp only [hOriented, hStored]
  rw [List.filter_eq_self]
  intro ring hRing
  simpa [RecordFormat.leastRing] using (hRestored ring hRing).long

/-- Which of the rings stored for one polygon wind clockwise, and which do
not. -/
theorem Restored.storedRings_split {p : Polygon} (h : p.Restored f) :
    shellsIn p.storedRings =
        [p.exterior].filter (fun ring => Ring.winding ring = .clockwise) ∧
      holesIn p.storedRings = p.placedAgain := by
  have hNone : shellsIn p.interiors = [] := by
    rw [shellsIn, List.filter_eq_nil_iff]
    intro hole hHole
    simp [(h.interiors hole hHole).2]
  have hAll : holesIn p.interiors = p.interiors := by
    rw [holesIn, List.filter_eq_self]
    intro hole hHole
    simp [(h.interiors hole hHole).2]
  unfold shellsIn at hNone ⊢
  unfold holesIn at hAll ⊢
  cases hWinding : Ring.winding p.exterior with
  | clockwise =>
      rw [storedRings, placedAgain, Ring.wound_of_winding hWinding, if_pos hWinding]
      simp [hWinding, hNone, hAll]
  | counterClockwise =>
      have hTurned := h.turned hWinding
      rw [storedRings, placedAgain, h.exterior.wound_reverse (by simp [hWinding]),
        if_neg (by simp [hWinding])]
      simp [hWinding, hTurned, hNone, hAll]

/-- The shells that the next reading starts from: those that wind clockwise. -/
def settledShells (polygons : List Polygon) : List Ring :=
  (polygons.map exterior).filter fun ring => Ring.winding ring = .clockwise

/-- What the next reading makes of restored polygons. -/
theorem storedRings_split (hPolygons : ∀ p ∈ polygons, p.Restored f) :
    shellsIn (polygons.flatMap storedRings) = settledShells polygons ∧
      holesIn (polygons.flatMap storedRings) = polygons.flatMap placedAgain := by
  induction polygons with
  | nil => exact ⟨rfl, rfl⟩
  | cons p polygons ih =>
      obtain ⟨hShell, hHoles⟩ := (hPolygons p List.mem_cons_self).storedRings_split
      obtain ⟨hShells, hPlaced⟩ := ih fun q hMem => hPolygons q (List.mem_cons_of_mem p hMem)
      constructor
      · rw [List.flatMap_cons, shellsIn, List.filter_append, ← shellsIn, ← shellsIn, hShell,
          hShells, settledShells, settledShells, ← List.filter_append]
        rfl
      · rw [List.flatMap_cons, holesIn, List.filter_append, ← holesIn, ← holesIn, hHoles, hPlaced,
          List.flatMap_cons]

/-! ### Polygons that stay where they are -/

/-- The polygons stand as the next reading leaves them. Those whose shells wind
clockwise come first, and there is not only one, which would take all holes.
Each hole lies with its owner among these and the polygons up to its own. -/
structure InOrder (polygons : List Polygon) : Prop where
  shells_first : settledShells polygons <+: polygons.map exterior
  several : (settledShells polygons).length ≠ 1
  owned : ∀ i p hole, polygons[i]? = some p → hole ∈ p.interiors →
    owner? (polygons.take (max (settledShells polygons).length (i + 1))) hole = some i

/-- Reading these polygons again moves nothing. A single polygon has nowhere to
lose a hole to. -/
def Settled (polygons : List Polygon) : Prop := polygons.length = 1 ∨ InOrder polygons

/-- Where the shells that wind clockwise come first, the polygons fall into
those and the others. -/
theorem split_of_shells_first (hFirst : settledShells polygons <+: polygons.map exterior) :
    ∃ first last, polygons = first ++ last ∧ settledShells polygons = first.map exterior ∧
      (∀ p ∈ first, Ring.winding p.exterior = .clockwise) ∧
      ∀ p ∈ last, Ring.winding p.exterior = .counterClockwise := by
  generalize hCount : (settledShells polygons).length = count
  have hShells : settledShells polygons = (polygons.take count).map exterior := by
    rw [List.map_take, ← hCount]
    exact List.prefix_iff_eq_take.mp hFirst
  have hAll : settledShells (polygons.take count) = (polygons.take count).map exterior := by
    rw [settledShells, List.filter_eq_self, ← hShells]
    exact fun ring hRing => (List.mem_filter.mp hRing).2
  have hBoth : settledShells polygons =
      settledShells (polygons.take count) ++ settledShells (polygons.drop count) := by
    rw [settledShells, settledShells, settledShells, ← List.filter_append, ← List.map_append,
      List.take_append_drop]
  have hNone : settledShells (polygons.drop count) = [] := by
    rw [hAll, ← hShells] at hBoth
    exact List.self_eq_append_right.mp hBoth
  refine ⟨polygons.take count, polygons.drop count, (List.take_append_drop _ _).symm, hShells,
    ?_, ?_⟩
  · intro p hMem
    have hIn : p.exterior ∈ settledShells polygons := hShells ▸ List.mem_map_of_mem hMem
    simpa using (List.mem_filter.mp hIn).2
  · intro p hMem
    cases hWinding : Ring.winding p.exterior with
    | counterClockwise => rfl
    | clockwise =>
        have hIn : p.exterior ∈ settledShells (polygons.drop count) :=
          List.mem_filter.mpr ⟨List.mem_map_of_mem hMem, by simp [hWinding]⟩
        rw [hNone] at hIn
        cases hIn

/-- What a reading starts from, for the next one to find. -/
structure Sorted (f : RecordFormat) (shells holes : List Ring) : Prop where
  shells : ∀ shell ∈ shells, Ring.winding shell = .clockwise
  holes : ∀ hole ∈ holes, f.Restored hole ∧ Ring.winding hole = .counterClockwise

theorem sorted_source (hSource : ∀ ring ∈ source, f.Restored ring) :
    Sorted f (shellsIn source) (holesIn source) where
  shells _ hShell := (mem_shellsIn.mp hShell).2
  holes hole hHole := by
    obtain ⟨hIn, hWinding⟩ := mem_holesIn.mp hHole
    exact ⟨hSource hole hIn, hWinding⟩

variable {shells holes : List Ring}

/-- A shell that does not wind clockwise was a hole that no polygon before it
admits. -/
theorem Placed.turned (hPlaced : Placed shells holes polygons) (hSorted : Sorted f shells holes)
    {i : Nat} {p : Polygon} (hAt : polygons[i]? = some p)
    (hTurn : Ring.winding p.exterior = .counterClockwise) :
    owner? (polygons.take i) p.exterior.reverse = none ∧
      Ring.wound .clockwise p.exterior.reverse = p.exterior := by
  have hBehind : shells.length ≤ i := by
    by_contra hBefore
    have hShell := hSorted.shells _ (hPlaced.exterior_mem (Nat.lt_of_not_le hBefore) hAt)
    rw [hTurn] at hShell
    cases hShell
  obtain ⟨hole, hHole, hTurned, hNone⟩ := hPlaced.orphan i p hBehind hAt
  obtain ⟨hRestored, hWinding⟩ := hSorted.holes hole hHole
  have hBack : p.exterior.reverse = hole := by
    rw [hTurned, reverse_wound hRestored hWinding]
  rw [hBack]
  exact ⟨hNone, hTurned.symm⟩

/-- Polygons in order are put together again from their shells and holes. -/
theorem InOrder.replay (hOrder : InOrder polygons) (hPlaced : Placed shells holes polygons)
    (hSorted : Sorted f shells holes) :
    ofShellsAndHoles (settledShells polygons) (polygons.flatMap placedAgain) = polygons := by
  obtain ⟨hFirst, _, hOwned⟩ := hOrder
  obtain ⟨first, last, rfl, hSettled, hFirstTurn, hLastTurn⟩ := split_of_shells_first hFirst
  rw [hSettled, List.length_map] at hOwned
  have hAgain : (first ++ last).flatMap placedAgain =
      first.flatMap interiors ++ last.flatMap fun p => p.exterior.reverse :: p.interiors := by
    rw [List.flatMap_append]
    congr 1
    · exact List.flatMap_congr fun p hMem => if_pos (hFirstTurn p hMem)
    · exact List.flatMap_congr fun p hMem => if_neg (by simp [hLastTurn p hMem])
  have hFilled := foldl_placeHole_shells [] first fun before p later hSplit hole hHole => by
    have hAt : (first ++ last)[before.length]? = some p := by simp [hSplit]
    have hLater : before.length + 1 ≤ first.length := by simp [hSplit]
    have hOwner := hOwned before.length p hole hAt hHole
    rwa [max_eq_left hLater, List.take_left] at hOwner
  rw [List.nil_append, List.nil_append] at hFilled
  rw [hSettled, ofShellsAndHoles, ← map_bare, hAgain, List.foldl_append, hFilled]
  refine foldl_placeHole_orphans first last fun before p later hSplit => ?_
  have hWhole : first ++ last = first ++ before ++ [p] ++ later := by simp [hSplit]
  have hAt : (first ++ last)[(first ++ before).length]? = some p := by simp [hSplit]
  have hTurn := hLastTurn p (by simp [hSplit])
  obtain ⟨hNone, hTurned⟩ := hPlaced.turned hSorted hAt hTurn
  rw [hWhole, List.append_assoc, List.append_assoc, ← List.append_assoc, List.take_left] at hNone
  refine ⟨hNone, hTurned, fun hole hHole => ?_⟩
  have hOwner := hOwned _ p hole hAt hHole
  have hCount : max first.length ((first ++ before).length + 1) =
      (first ++ before ++ [p]).length := by
    simp only [List.length_append, List.length_singleton]
    omega
  rwa [hCount, hWhole, List.take_left] at hOwner

end Polygon

namespace RecordFormat

/-- The polygons that a record of these polygons is read as. -/
def reread (f : RecordFormat) (polygons : List Polygon) : List Polygon :=
  Polygon.assemble (f.restoredRings polygons)

open Shapefile.Polygon

variable {f : RecordFormat} {source : List Ring} (hSource : ∀ ring ∈ source, f.Restored ring)
include hSource

/-- What is known of the second reading, if the first one read these rings. -/
theorem reread_assemble :
    (∃ shell, settledShells (assemble source) = [shell] ∧ f.reread (assemble source) =
        [⟨shell, (assemble source).flatMap placedAgain⟩]) ∨
      (settledShells (assemble source)).length ≠ 1 ∧ f.reread (assemble source) =
        ofShellsAndHoles (settledShells (assemble source))
          ((assemble source).flatMap placedAgain) := by
  have hRestored : ∀ p ∈ assemble source, p.Restored f :=
    fun p hMem => restored_of_mem_assemble hSource hMem
  obtain ⟨hShells, hHoles⟩ := storedRings_split hRestored
  rw [reread, restoredRings_eq hRestored, ← hShells, ← hHoles]
  by_cases hLength : (shellsIn ((assemble source).flatMap storedRings)).length = 1
  · obtain ⟨shell, hSingle⟩ := List.length_eq_one_iff.mp hLength
    exact Or.inl ⟨shell, hSingle, assemble_of_shellsIn hSingle⟩
  · exact Or.inr ⟨hLength, assemble_of_length_shellsIn hLength⟩

/-- What a second reading leaves in place is in order, or a single polygon. -/
theorem settled_of_reread (hSame : f.reread (assemble source) = assemble source) :
    Settled (assemble source) := by
  rcases reread_assemble hSource with ⟨shell, _, hOne⟩ | ⟨hSeveral, hPlacing⟩
  · left
    rw [← hSame, hOne, List.length_singleton]
  · right
    have hPlaced := placed_ofShellsAndHoles (settledShells (assemble source))
      ((assemble source).flatMap placedAgain)
    rw [← hPlacing, hSame] at hPlaced
    exact ⟨hPlaced.shells_first, hSeveral,
      fun i p hole hAt hHole => (hPlaced.owned i p hole hAt hHole).2⟩

/-- Polygons in order are read again as they are. -/
theorem reread_of_inOrder (hOrder : InOrder (assemble source)) :
    f.reread (assemble source) = assemble source := by
  rcases reread_assemble hSource with ⟨shell, hShell, _⟩ | ⟨_, hPlacing⟩
  · exact absurd (by simp [hShell]) hOrder.several
  rw [hPlacing]
  rcases assemble_cases source with ⟨shell, hSingle, hOne⟩ | ⟨_, hPlaced⟩
  · have hClockwise := (sorted_source hSource).shells shell (by simp [hSingle])
    exact absurd (by simp [hOne, settledShells, hClockwise]) hOrder.several
  · exact hOrder.replay hPlaced (sorted_source hSource)

/-- A single polygon whose shell does not wind clockwise is in order. -/
theorem inOrder_of_turned {p : Polygon} (hOne : assemble source = [p])
    (hTurn : Ring.winding p.exterior = .counterClockwise) : InOrder (assemble source) := by
  have hNotShell : p.exterior ∉ shellsIn source := by
    intro hShell
    have hClockwise := (sorted_source hSource).shells _ hShell
    rw [hTurn] at hClockwise
    cases hClockwise
  have hNone : settledShells (assemble source) = [] := by
    rw [hOne]
    simp [settledShells, hTurn]
  rcases assemble_cases source with ⟨shell, hSingle, hShell⟩ | ⟨_, hPlaced⟩
  · rw [hOne] at hShell
    cases hShell
    exact absurd (by simp [hSingle]) hNotShell
  · have hEmpty : shellsIn source = [] := by
      by_contra hSome
      have hAt : (assemble source)[0]? = some p := by rw [hOne, List.getElem?_cons_zero]
      exact hNotShell (hPlaced.exterior_mem (List.length_pos_iff.mpr hSome) hAt)
    refine ⟨hNone ▸ List.nil_prefix, by simp [hNone], ?_⟩
    intro i q hole hAt hHole
    have hOwned := (hPlaced.owned i q hole hAt hHole).2
    rw [hEmpty] at hOwned
    rwa [hNone]

/-- A single polygon keeps all its holes. -/
theorem reread_of_single {p : Polygon} (hOne : assemble source = [p]) :
    f.reread (assemble source) = assemble source := by
  cases hTurn : Ring.winding p.exterior with
  | counterClockwise => exact reread_of_inOrder hSource (inOrder_of_turned hSource hOne hTurn)
  | clockwise =>
      have hShell : settledShells (assemble source) = [p.exterior] := by
        simp [hOne, settledShells, hTurn]
      rcases reread_assemble hSource with ⟨shell, hSingle, hTaken⟩ | ⟨hSeveral, _⟩
      · rw [hTaken, hOne]
        rw [hShell] at hSingle
        cases hSingle
        simp [placedAgain, hTurn]
      · exact absurd (by simp [hShell]) hSeveral

theorem reread_of_settled (hSettled : Settled (assemble source)) :
    f.reread (assemble source) = assemble source := by
  rcases hSettled with hLength | hOrder
  · obtain ⟨p, hOne⟩ := List.length_eq_one_iff.mp hLength
    exact reread_of_single hSource hOne
  · exact reread_of_inOrder hSource hOrder

/-- If all shells wind clockwise, a second reading keeps them in order and
keeps every hole, though maybe in another polygon. -/
theorem reread_of_clockwise
    (hTurn : ∀ p ∈ assemble source, Ring.winding p.exterior = .clockwise) :
    (f.reread (assemble source)).map exterior = (assemble source).map exterior ∧
      ((f.reread (assemble source)).flatMap interiors).Perm
        ((assemble source).flatMap interiors) := by
  by_cases hLength : (assemble source).length = 1
  · rw [reread_of_settled hSource (Or.inl hLength)]
    exact ⟨rfl, List.Perm.refl _⟩
  have hShells : settledShells (assemble source) = (assemble source).map exterior := by
    rw [settledShells, List.filter_eq_self]
    intro ring hRing
    obtain ⟨p, hMem, rfl⟩ := List.mem_map.mp hRing
    simp [hTurn p hMem]
  have hHoles : (assemble source).flatMap placedAgain = (assemble source).flatMap interiors :=
    List.flatMap_congr fun p hMem => if_pos (hTurn p hMem)
  rcases assemble_cases source with ⟨shell, _, hOne⟩ | ⟨_, hPlaced⟩
  · exact absurd (by rw [hOne, List.length_singleton]) hLength
  rcases reread_assemble hSource with ⟨shell, hSingle, _⟩ | ⟨_, hPlacing⟩
  · rw [← List.length_map (f := exterior), ← hShells, hSingle] at hLength
    exact absurd rfl hLength
  -- every hole had an owner the first time, so none becomes a shell now
  have hOwned : ∀ hole ∈ (assemble source).flatMap interiors,
      owner? ((assemble source).map bare) hole ≠ none := by
    intro hole hHole
    rw [owner?_bare]
    exact hPlaced.owner_ne_none hHole
  obtain ⟨hKept, hAll⟩ := foldl_placeHole_admitted hOwned
  have hEmpty : ((assemble source).map bare).flatMap interiors = [] := by
    simp [List.flatMap_eq_nil_iff, bare]
  rw [hEmpty, List.nil_append] at hAll
  rw [hPlacing, hShells, hHoles, ofShellsAndHoles, ← map_bare]
  refine ⟨?_, hAll⟩
  rw [hKept, List.map_map]
  rfl

end RecordFormat

end Shapefile
