import Shapefile.Geometry.Basic

/-!
Polygons from a flat list of rings. Clockwise rings are shells. A counter-clockwise ring is a hole
of the smallest shell around it; if there is none it must be a shell that winds the wrong way. The
only shell of a record takes all holes.
-/

namespace Shapefile

namespace Ring

/-- The vertex by which a hole is located: its first one that is no vertex of the shell, or its
first one if all are. -/
def sample (shell hole : Ring) : Coordinate :=
  ((hole.find? fun c => !shell.any (·.samePlace c)).or hole.head?).getD default

/-- The hole lies inside the shell, judged by its box and by one vertex. -/
def admits (shell hole : Ring) : Bool :=
  (envelope shell).contains (envelope hole) && encloses shell (sample shell hole)

end Ring

namespace Polygon

/-- The better owner of a hole: a shell that admits it and whose box lies in the box of the best so
far. -/
def betterOwner (hole : Ring) (best : Option (Nat × Envelope)) (candidate : Polygon × Nat) :
    Option (Nat × Envelope) :=
  let (polygon, index) := candidate
  if Ring.admits polygon.exterior hole then
    let box := Ring.envelope polygon.exterior
    if best.all (·.2.contains box) then some (index, box) else best
  else best

/-- The index of a smallest polygon whose shell admits the hole. -/
def owner? (polygons : List Polygon) (hole : Ring) : Option Nat :=
  (polygons.zipIdx.foldl (betterOwner hole) none).map Prod.fst

/-- Give a hole to its owner, or add it as a shell of its own. -/
def placeHole (polygons : List Polygon) (hole : Ring) : List Polygon :=
  match owner? polygons hole with
  | some index =>
    polygons.modify index fun p => { p with interiors := p.interiors ++ [hole] }
  | none => polygons ++ [⟨Ring.wound .clockwise hole, []⟩]

/-- Polygons from shells, with every hole placed in turn. -/
def ofShellsAndHoles (shells holes : List Ring) : List Polygon :=
  holes.foldl placeHole (shells.map fun shell => ⟨shell, []⟩)

/-- Polygons from rings. -/
def assemble (rings : List Ring) : List Polygon :=
  let shells := rings.filter fun ring => Ring.winding ring = .clockwise
  let holes := rings.filter fun ring => Ring.winding ring = .counterClockwise
  match shells with
  | [shell] => [⟨shell, holes⟩]
  | shells => ofShellsAndHoles shells holes

/-- The rings of polygons as they are stored: every shell clockwise, followed by its holes
counter-clockwise. -/
def orientedRings (polygons : List Polygon) : List Ring :=
  polygons.flatMap fun p =>
    Ring.wound .clockwise p.exterior :: p.interiors.map (Ring.wound .counterClockwise)

end Polygon

end Shapefile
