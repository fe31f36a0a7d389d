import Shapefile.Proofs.Running
import Shapefile.Proofs.Shape.HolePlacement
import Shapefile.Proofs.Shape.WatchedPrograms

/-! Lines, rings and polygons made from parts under watch. First vertices, the
owner of a hole and the only shell are asked for by their index, and every such
index is that of an element. -/
namespace Shapefile.Watched

/-! ### Lines and rings -/

def line (part : List Coordinate) : Except Ending (List Coordinate) :=
  if part.length = 1 then do
    let c ← element part 0
    return part ++ [c]
  else .ok part

def closed (ring : Ring) : Except Ending Ring :=
  if Ring.isOpen ring then do
    let c ← element ring 0
    return ring ++ [c]
  else .ok ring

/-! ### Polygons -/

/-- The first vertex is asked for whether it is needed or not. -/
def sample (shell hole : Ring) : Except Ending Coordinate := do
  let first ← element hole 0
  return (hole.find? fun c => !shell.any (·.samePlace c)).getD first

def betterOwner (hole : Ring) (best : Option (Nat × Envelope)) (candidate : Polygon × Nat) :
    Except Ending (Option (Nat × Envelope)) :=
  let (polygon, index) := candidate
  let box := Ring.envelope polygon.exterior
  if box.contains (Ring.envelope hole) then do
    let c ← sample polygon.exterior hole
    return if Ring.encloses polygon.exterior c && best.all (·.2.contains box) then
      some (index, box) else best
  else .ok best

/-- The owner is an index that was counted along. -/
def owner? (polygons : List Polygon) (hole : Ring) : Except Ending (Option Nat) := do
  let best ← polygons.zipIdx.foldlM (betterOwner hole) none
  return best.map Prod.fst

/-- The owner of the hole is asked for before the hole is added. -/
def placeHole (polygons : List Polygon) (hole : Ring) : Except Ending (List Polygon) := do
  match ← owner? polygons hole with
  | some i =>
    let p ← element polygons i
    return polygons.set i { p with interiors := p.interiors ++ [hole] }
  | none => return polygons ++ [⟨Ring.wound .clockwise hole, []⟩]

def assemble (rings : List Ring) : Except Ending (List Polygon) :=
  let shells := Polygon.shellsIn rings
  let holes := Polygon.holesIn rings
  if shells.length = 1 then do
    let shell ← element shells 0
    return [⟨shell, holes⟩]
  else holes.foldlM placeHole (shells.map fun shell => ⟨shell, []⟩)

/-! ### No mishap -/

theorem line_eq (part : List Coordinate) : line part = .ok (RecordFormat.line part) := by
  rcases part with _ | ⟨first, _ | ⟨second, rest⟩⟩
  · rfl
  · rfl
  · rw [line, if_neg (by simp)]
    rfl

theorem closed_eq (ring : Ring) : closed ring = .ok (Ring.closed ring) := by
  rw [closed, Ring.closed]
  by_cases hOpen : Ring.isOpen ring = true
  · rw [if_pos hOpen, if_pos hOpen]
    cases ring with
    | nil => cases hOpen
    | cons first rest => rfl
  · rw [if_neg hOpen, if_neg hOpen]

variable {hole : Ring}

theorem sample_eq (shell : Ring) (hSome : hole ≠ []) :
    sample shell hole = .ok (Ring.sample shell hole) := by
  cases hole with
  | nil => exact absurd rfl hSome
  | cons first rest =>
      rw [Ring.sample, List.head?_cons]
      have hFirst : element (first :: rest) 0 = .ok first := rfl
      rw [sample, hFirst, ok_bind]
      cases List.find? (fun c => !shell.any (·.samePlace c)) (first :: rest) with
      | none => rfl
      | some c => rfl

theorem betterOwner_eq (hSome : hole ≠ []) (best : Option (Nat × Envelope))
    (candidate : Polygon × Nat) :
    betterOwner hole best candidate = .ok (Polygon.betterOwner hole best candidate) := by
  obtain ⟨p, i⟩ := candidate
  simp only [betterOwner, Polygon.betterOwner, Ring.admits, sample_eq p.exterior hSome, ok_bind]
  by_cases hBox : (Ring.envelope p.exterior).contains (Ring.envelope hole) = true
  · simp only [hBox, if_true, Bool.true_and]
    by_cases hInside : Ring.encloses p.exterior (Ring.sample p.exterior hole) = true
    · simp only [hInside, Bool.true_and, if_true]
      rfl
    · rw [Bool.not_eq_true] at hInside
      simp only [hInside, Bool.false_and, Bool.false_eq_true, if_false]
      rfl
  · rw [Bool.not_eq_true] at hBox
    simp only [hBox, Bool.false_and, Bool.false_eq_true, if_false]

theorem owner?_eq (hSome : hole ≠ []) (polygons : List Polygon) :
    owner? polygons hole = .ok (Polygon.owner? polygons hole) := by
  rw [owner?, foldlM_eq_foldl fun candidate _ best => betterOwner_eq hSome best candidate]
  rfl

theorem placeHole_eq (hSome : hole ≠ []) (polygons : List Polygon) :
    placeHole polygons hole = .ok (Polygon.placeHole polygons hole) := by
  rw [placeHole, owner?_eq hSome, ok_bind]
  cases hOwner : Polygon.owner? polygons hole with
  | none =>
      rw [Polygon.placeHole_orphan hOwner]
      rfl
  | some i =>
      obtain ⟨p, hAt, _⟩ := Polygon.admits_of_owner? hOwner
      rw [Polygon.placeHole_owned hOwner, List.modify_eq_set_getElem?, hAt]
      simp only [element_of_getElem? hAt, ok_bind]
      rfl

theorem assemble_eq {rings : List Ring} (hSome : ∀ ring ∈ rings, ring ≠ []) :
    assemble rings = .ok (Polygon.assemble rings) := by
  rw [assemble]
  by_cases hSingle : (Polygon.shellsIn rings).length = 1
  · obtain ⟨shell, hShell⟩ := List.length_eq_one_iff.mp hSingle
    rw [Polygon.assemble_of_shellsIn hShell]
    simp only [hShell]
    rfl
  · simp only [if_neg hSingle]
    rw [Polygon.assemble_of_length_shellsIn hSingle]
    refine foldlM_eq_foldl (fun hole hHole polygons => placeHole_eq ?_ polygons) _
    exact hSome hole (List.mem_of_mem_filter hHole)

end Shapefile.Watched
