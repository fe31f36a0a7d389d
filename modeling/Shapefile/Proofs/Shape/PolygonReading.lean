import Shapefile.Proofs.Geometry.RingPlane
import Shapefile.Proofs.Shape.PayloadRoundTrip

/-! What a polygon record reads back as. A record holds a flat list of rings,
so the polygons are put together anew from the rings as they were stored. A
polygon with proper rings comes back as itself, wound as shells and holes are. -/
namespace Shapefile

namespace Ring

/-- The ring with its first coordinate repeated if it does not end in the
place where it starts. -/
def shut : Ring → Ring
  | [] => []
  | first :: rest =>
    let last := rest.getLast?.getD first
    if first.x == last.x && first.y == last.y then first :: rest else first :: rest ++ [first]

theorem closed_eq_shut (ring : Ring) : closed ring = shut ring := by
  match ring with
  | [] => rfl
  | first :: rest =>
      have hShut : shut (first :: rest) = if first.samePlace (rest.getLast?.getD first) then
          first :: rest else first :: rest ++ [first] := rfl
      have hOpen : isOpen (first :: rest) = !first.samePlace (rest.getLast?.getD first) := by
        rw [isOpen, List.head?_cons, List.getLast?_cons]
      rw [closed, hOpen, hShut]
      cases first.samePlace (rest.getLast?.getD first) with
      | false => rfl
      | true => rfl

/-- A ring that needs no shutting is not open. -/
theorem isOpen_of_shut {ring : Ring} (hShut : shut ring = ring) : isOpen ring = false := by
  match ring with
  | [] => rfl
  | first :: rest =>
      cases hOpen : isOpen (first :: rest) with
      | false => rfl
      | true =>
          rw [← closed_eq_shut, closed, if_pos hOpen] at hShut
          exact absurd (congrArg List.length hShut) (by simp)

end Ring

namespace Polygon

/-- One shell takes all holes, in order. -/
theorem assemble_shell {shell : Ring} {holes : List Ring}
    (hShell : Ring.winding shell = .clockwise)
    (hHoles : ∀ hole ∈ holes, Ring.winding hole = .counterClockwise) :
    assemble (shell :: holes) = [⟨shell, holes⟩] := by
  have hShells : (shell :: holes).filter (fun ring => Ring.winding ring = .clockwise) =
      [shell] := by
    rw [List.filter_cons_of_pos (by simp [hShell]), List.filter_eq_nil_iff.mpr]
    intro hole hHole
    simp [hHoles hole hHole]
  have hKept : (shell :: holes).filter (fun ring => Ring.winding ring = .counterClockwise) =
      holes := by
    rw [List.filter_cons_of_neg (by simp [hShell]), List.filter_eq_self]
    intro hole hHole
    simp [hHoles hole hHole]
  rw [assemble, hShells, hKept]

/-- The rings of a polygon are shut and long enough to be kept. The shell can
be wound clockwise and the holes the other way. -/
structure Proper (p : Polygon) : Prop where
  shut : ∀ ring ∈ p.rings, Ring.shut ring = ring
  long : ∀ ring ∈ p.rings, 4 ≤ ring.length
  shell_winding : Ring.winding (Ring.wound .clockwise p.exterior) = .clockwise
  hole_winding : ∀ hole ∈ p.interiors,
    Ring.winding (Ring.wound .counterClockwise hole) = .counterClockwise

/-- The polygon as a record of a format holds it: its shell clockwise, its
holes counter-clockwise, every coordinate as it is held. -/
def held (f : RecordFormat) (p : Polygon) : Polygon where
  exterior := (Ring.wound .clockwise p.exterior).map f.held
  interiors := p.interiors.map fun hole => (Ring.wound .counterClockwise hole).map f.held

end Polygon

namespace RecordFormat

/-- The rings that a record of polygons gives back, in the order of the
record. Shells are clockwise, each with its holes counter-clockwise behind it;
open rings are shut, and those still short of four coordinates left out. -/
def restoredRings (f : RecordFormat) (polygons : List Polygon) : List Ring :=
  let stored := polygons.flatMap fun p =>
    Ring.wound .clockwise p.exterior :: p.interiors.map (Ring.wound .counterClockwise)
  (stored.map fun ring => Ring.shut (ring.map f.held)).filter fun ring => 4 ≤ ring.length

theorem usableRings_eq (f : RecordFormat) (polygons : List Polygon) :
    usableRings ((Polygon.orientedRings polygons).map (List.map f.keep)) =
      f.restoredRings polygons := by
  rw [usableRings, List.map_map, keep_eq_held, funext Ring.closed_eq_shut]
  rfl

theorem held_staysInPlace (f : RecordFormat) : Coordinate.StaysInPlace f.held := by
  intro c
  rcases f with ⟨family, _ | _ | _⟩
  · exact ⟨rfl, rfl⟩
  · exact ⟨rfl, rfl⟩
  · exact ⟨rfl, rfl⟩

/-- A ring that is shut is stored shut, whichever way it is to wind. -/
theorem shut_stored (f : RecordFormat) (order : Winding) {ring : Ring}
    (hShut : Ring.shut ring = ring) :
    Ring.shut ((Ring.wound order ring).map f.held) = (Ring.wound order ring).map f.held := by
  rw [← Ring.closed_eq_shut]
  apply Ring.closed_eq_self
  rw [Ring.isOpen_map f.held_staysInPlace, Ring.isOpen_wound]
  exact Ring.isOpen_of_shut hShut

/-- No ring of a proper polygon is changed or left out. -/
theorem restoredRings_of_proper (f : RecordFormat) {p : Polygon} (h : p.Proper) :
    f.restoredRings [p] = (p.held f).rings := by
  have hEach (order : Winding) {ring : Ring} (hRing : ring ∈ p.rings) :
      Ring.shut ((Ring.wound order ring).map f.held) = (Ring.wound order ring).map f.held ∧
        4 ≤ ((Ring.wound order ring).map f.held).length := by
    refine ⟨f.shut_stored order (h.shut ring hRing), ?_⟩
    rw [List.length_map, Polygon.length_wound]
    exact h.long ring hRing
  have hShell := hEach .clockwise (List.mem_cons_self : p.exterior ∈ p.rings)
  have hHoles {hole : Ring} (hHole : hole ∈ p.interiors) :=
    hEach .counterClockwise (List.mem_cons_of_mem p.exterior hHole)
  have hMapped : p.interiors.map (fun hole =>
      Ring.shut ((Ring.wound .counterClockwise hole).map f.held)) = (p.held f).interiors :=
    List.map_congr_left fun hole hHole => (hHoles hHole).1
  have hLong : ∀ hole ∈ (p.held f).interiors, 4 ≤ hole.length := by
    intro hole hHole
    obtain ⟨before, hBefore, rfl⟩ := List.mem_map.mp hHole
    exact (hHoles hBefore).2
  simp only [restoredRings, List.flatMap_cons, List.flatMap_nil, List.append_nil, List.map_cons,
    List.map_map, Function.comp_def, hShell.1, hMapped]
  rw [List.filter_cons_of_pos (by simpa using hShell.2),
    List.filter_eq_self.mpr (by simpa using hLong)]
  rfl

/-- A proper polygon is put together again from its rings. -/
theorem assemble_of_proper (f : RecordFormat) {p : Polygon} (h : p.Proper) :
    Polygon.assemble (f.restoredRings [p]) = [p.held f] := by
  rw [restoredRings_of_proper f h]
  apply Polygon.assemble_shell
  · exact (Ring.winding_map f.held_staysInPlace _).trans h.shell_winding
  · intro hole hHole
    obtain ⟨before, hBefore, rfl⟩ := List.mem_map.mp hHole
    exact (Ring.winding_map f.held_staysInPlace _).trans (h.hole_winding before hBefore)

/-- Polygons of any rings are written, and the payload is read as the
polygons that its rings make up, up to the end of the payload. A record counts
its points and rings in signed words, so their numbers have to fit these, as
they do for every record that fits a file (`countable_of_puts`). A single
polygon whose rings are proper is read as that polygon. -/
theorem polygons_round_trip {f : RecordFormat} {g : Geometry} {polygons : List Polygon}
    (hFamily : f.family = .polygon)
    (hShape : g.shape = .multiPolygon polygons ∨ ∃ p, g.shape = .polygon p ∧ polygons = [p])
    (hCounts : g.Countable) :
    ∃ puts, f.puts g = .ok puts ∧
      f.GivesBack puts.flatten (.multiPolygon (Polygon.assemble (f.restoredRings polygons))) ∧
      ∀ p, g.shape = .polygon p → p.Proper →
        f.GivesBack puts.flatten (.multiPolygon [p.held f]) := by
  have hPolygons : polygons? g.shape = some polygons := by
    rcases hShape with hMany | ⟨p, hOne, rfl⟩
    · rw [hMany]
      rfl
    · rw [hOne]
      rfl
  have hPuts : f.puts g = .ok (f.multiPartPuts g (Polygon.orientedRings polygons)) := by
    simp only [RecordFormat.puts, hFamily, hPolygons]
  have hBack := givesBack_of_reads (reads_readShape hPuts hCounts)
  simp only [readBack, hFamily, hPolygons, Option.getD_some, usableRings_eq] at hBack
  refine ⟨_, hPuts, hBack, ?_⟩
  intro p hOne hProper
  rw [hOne] at hPolygons
  cases hPolygons
  rwa [assemble_of_proper f hProper] at hBack

/-- A square with a triangular hole, both wound the wrong way round. -/
def courtyard : Polygon where
  exterior := [{ x := 0, y := 0 }, { x := 4, y := 0 }, { x := 4, y := 4 }, { x := 0, y := 4 },
    { x := 0, y := 0 }]
  interiors := [[{ x := 1, y := 1 }, { x := 1, y := 2 }, { x := 2, y := 1 }, { x := 1, y := 1 }]]

theorem courtyard_proper : courtyard.Proper where
  shut := by decide +kernel
  long := by decide
  shell_winding := by decide +kernel
  hole_winding := by decide +kernel

/-- The square comes back the other way round, with its hole, at elevation
zero. -/
theorem polygons_round_trip_courtyard : ∃ puts,
    RecordFormat.puts ⟨.polygon, .elevated⟩ { shape := .polygon courtyard } = .ok puts ∧
      GivesBack ⟨.polygon, .elevated⟩ puts.flatten (.multiPolygon [{
        exterior := [⟨0, 0, 0⟩, ⟨0, 4, 0⟩, ⟨4, 4, 0⟩, ⟨4, 0, 0⟩, ⟨0, 0, 0⟩]
        interiors := [[⟨1, 1, 0⟩, ⟨2, 1, 0⟩, ⟨1, 2, 0⟩, ⟨1, 1, 0⟩]] }]) := by
  have hCounts : Geometry.Countable { shape := .polygon courtyard } := ⟨by decide, by decide⟩
  obtain ⟨puts, hPuts, _, hProper⟩ := polygons_round_trip (f := ⟨.polygon, .elevated⟩) rfl
    (.inr ⟨courtyard, rfl, rfl⟩) hCounts
  have hHeld : courtyard.held ⟨.polygon, .elevated⟩ = {
      exterior := [⟨0, 0, 0⟩, ⟨0, 4, 0⟩, ⟨4, 4, 0⟩, ⟨4, 0, 0⟩, ⟨0, 0, 0⟩]
      interiors := [[⟨1, 1, 0⟩, ⟨2, 1, 0⟩, ⟨1, 2, 0⟩, ⟨1, 1, 0⟩]] } := by decide +kernel
  exact ⟨puts, hPuts, hHeld ▸ hProper courtyard rfl courtyard_proper⟩

end RecordFormat

end Shapefile
