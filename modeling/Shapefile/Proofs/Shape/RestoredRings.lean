import Shapefile.Proofs.Shape.HolePlacement
import Shapefile.Proofs.Shape.PolygonReading

/-! Rings that came out of a record. They are shut, long enough, and no longer
changed by the format, so storing them again changes at most the way they
wind. Putting polygons together loses none of them. -/
namespace Shapefile

namespace Coordinate

/-- Both numbers in the plane are numbers. -/
def IsPlace (c : Coordinate) : Prop := c.x.isNaN = false ∧ c.y.isNaN = false

instance (c : Coordinate) : Decidable c.IsPlace :=
  inferInstanceAs (Decidable (c.x.isNaN = false ∧ c.y.isNaN = false))

theorem samePlace_self {c : Coordinate} (hPlace : c.IsPlace) : c.samePlace c = true := by
  obtain ⟨hX, hY⟩ := hPlace
  rw [Float.isNaN_eq_decide_eq_nan, decide_eq_false_iff_not] at hX hY
  rw [samePlace, Float.beq_self_iff.mpr hX, Float.beq_self_iff.mpr hY]
  rfl

end Coordinate

namespace Ring

/-- A ring that was shut is shut. -/
theorem isOpen_closed {ring : Ring} (hPlaces : ∀ c ∈ ring, c.IsPlace) :
    isOpen (closed ring) = false := by
  match ring with
  | [] => rfl
  | first :: rest =>
      cases hOpen : isOpen (first :: rest) with
      | false =>
          rw [closed_eq_self hOpen]
          exact hOpen
      | true =>
          have hSame := Coordinate.samePlace_self (hPlaces first List.mem_cons_self)
          have hFirst : (first :: rest ++ [first]).head? = some first := rfl
          have hLast : (first :: rest ++ [first]).getLast? = some first := List.getLast?_concat
          rw [closed, if_pos hOpen, List.take_succ_cons, List.take_zero, isOpen, hFirst, hLast]
          simp only [hSame, Bool.not_true]

/-- A ring that winds the right way is left alone. -/
theorem wound_of_winding {ring : Ring} {order : Winding} (hOrder : winding ring = order) :
    wound order ring = ring := by
  rw [wound, if_neg fun hTurned => hTurned.2 hOrder]

theorem length_shut_le (ring : Ring) : (shut ring).length ≤ ring.length + 1 := by
  rw [← closed_eq_shut, closed]
  split
  · rw [List.length_append, List.length_take]
    omega
  · omega

end Ring

namespace RecordFormat

theorem held_held (f : RecordFormat) (c : Coordinate) : f.held (f.held c) = f.held c := by
  rcases f with ⟨family, _ | _ | _⟩
  · rfl
  · rfl
  · have hZero : (0 : Float).isNaN = false := by decide +kernel
    cases hMissing : c.z.isNaN with
    | true => simp only [held, hMissing, hZero, if_true, Bool.false_eq_true, if_false]
    | false => simp only [held, hMissing, Bool.false_eq_true, if_false]

/-- A ring as it comes out of a record of the format. -/
structure Restored (f : RecordFormat) (ring : Ring) : Prop where
  held_eq : ring.map f.held = ring
  shut_eq : Ring.shut ring = ring
  long : leastRing ≤ ring.length

section Restored

variable {f : RecordFormat} {ring : Ring}

/-- Winding a ring the other way keeps it as it is in every other respect. -/
theorem Restored.wound (h : f.Restored ring) (order : Winding) :
    f.Restored (Ring.wound order ring) where
  held_eq := by
    rw [Ring.wound]
    split
    · rw [List.map_reverse, h.held_eq]
    · exact h.held_eq
  shut_eq := by
    rw [← Ring.closed_eq_shut]
    apply Ring.closed_eq_self
    rw [Ring.isOpen_wound]
    exact Ring.isOpen_of_shut h.shut_eq
  long := by
    rw [Polygon.length_wound]
    exact h.long

/-- A restored ring that winds the wrong way is turned round. -/
theorem Restored.wound_reverse (h : f.Restored ring) {order : Winding}
    (hOther : Ring.winding ring ≠ order) : Ring.wound order ring = ring.reverse := by
  have hLong := h.long
  rw [leastRing] at hLong
  rw [Ring.wound, if_pos ⟨by omega, hOther⟩]

/-- Storing a restored ring again gives that ring. -/
theorem Restored.stored (h : f.Restored ring) : Ring.shut (ring.map f.held) = ring := by
  rw [h.held_eq, h.shut_eq]

end Restored

/-- Every ring that a record gives back is a restored one, if every coordinate
has a place. -/
theorem restored_of_mem_restoredRings (f : RecordFormat) {polygons : List Polygon}
    (hPlaces : ∀ p ∈ polygons, ∀ ring ∈ p.rings, ∀ c ∈ ring, c.IsPlace) :
    ∀ ring ∈ f.restoredRings polygons, f.Restored ring := by
  intro ring hRing
  obtain ⟨hStored, hLong⟩ := List.mem_filter.mp hRing
  obtain ⟨before, hBefore, rfl⟩ := List.mem_map.mp hStored
  have hBeforePlaces : ∀ c ∈ before, c.IsPlace := by
    have hWound (order : Winding) (source : Ring) (c : Coordinate) :
        c ∈ Ring.wound order source → c ∈ source := by
      rw [Ring.wound]
      split
      · exact List.mem_reverse.mp
      · exact fun hIn => hIn
    obtain ⟨p, hPolygon, hIn⟩ := List.mem_flatMap.mp hBefore
    intro c hCoordinate
    rcases List.mem_cons.mp hIn with rfl | hHole
    · exact hPlaces p hPolygon p.exterior List.mem_cons_self c (hWound _ _ c hCoordinate)
    · obtain ⟨source, hSource, rfl⟩ := List.mem_map.mp hHole
      exact hPlaces p hPolygon source (List.mem_cons_of_mem _ hSource) c (hWound _ _ c hCoordinate)
  have hHeldPlaces : ∀ c ∈ before.map f.held, c.IsPlace := by
    intro c hCoordinate
    obtain ⟨source, hSource, rfl⟩ := List.mem_map.mp hCoordinate
    obtain ⟨hX, hY⟩ := f.held_staysInPlace source
    rw [Coordinate.IsPlace, hX, hY]
    exact hBeforePlaces source hSource
  have hHeld : (before.map f.held).map f.held = before.map f.held := by
    rw [List.map_map]
    exact List.map_congr_left fun c _ => f.held_held c
  refine ⟨?_, ?_, by simpa [leastRing] using hLong⟩
  · rw [← Ring.closed_eq_shut, Ring.closed]
    split
    · rw [List.map_append, List.map_take, hHeld]
    · exact hHeld
  · rw [← Ring.closed_eq_shut, ← Ring.closed_eq_shut]
    exact Ring.closed_eq_self (Ring.isOpen_closed hHeldPlaces)

end RecordFormat

namespace Polygon

/-! ### Where the rings of an assembled polygon come from -/

/-- Rings are put together as one polygon, or by placing holes. -/
theorem assemble_cases (source : List Ring) :
    (∃ shell, shellsIn source = [shell] ∧ assemble source = [⟨shell, holesIn source⟩]) ∨
      ((shellsIn source).length ≠ 1 ∧
        Placed (shellsIn source) (holesIn source) (assemble source)) := by
  by_cases hLength : (shellsIn source).length = 1
  · obtain ⟨shell, hSingle⟩ := List.length_eq_one_iff.mp hLength
    exact Or.inl ⟨shell, hSingle, assemble_of_shellsIn hSingle⟩
  · rw [assemble_of_length_shellsIn hLength]
    exact Or.inr ⟨hLength, placed_ofShellsAndHoles _ _⟩

/-- A shell was a shell, or a hole that was turned round. -/
theorem exterior_of_mem_assemble {source : List Ring} {p : Polygon} (hMem : p ∈ assemble source) :
    p.exterior ∈ shellsIn source ∨
      ∃ hole ∈ holesIn source, p.exterior = Ring.wound .clockwise hole := by
  rcases assemble_cases source with ⟨shell, hSingle, hOne⟩ | ⟨_, hPlaced⟩
  · rw [hOne, List.mem_singleton] at hMem
    rw [hMem, hSingle]
    exact Or.inl List.mem_cons_self
  · obtain ⟨i, hAt⟩ := List.mem_iff_getElem?.mp hMem
    by_cases hFirst : i < (shellsIn source).length
    · exact Or.inl (hPlaced.exterior_mem hFirst hAt)
    · obtain ⟨hole, hHole, hShell, _⟩ := hPlaced.orphan i p (Nat.le_of_not_lt hFirst) hAt
      exact Or.inr ⟨hole, hHole, hShell⟩

/-- A hole was a hole. -/
theorem interior_of_mem_assemble {source : List Ring} {p : Polygon} (hMem : p ∈ assemble source) :
    ∀ hole ∈ p.interiors, hole ∈ holesIn source := by
  rcases assemble_cases source with ⟨shell, _, hOne⟩ | ⟨_, hPlaced⟩
  · rw [hOne, List.mem_singleton] at hMem
    rw [hMem]
    exact fun hole hHole => hHole
  · obtain ⟨i, hAt⟩ := List.mem_iff_getElem?.mp hMem
    exact fun hole hHole => (hPlaced.owned i p hole hAt hHole).1

/-! ### No ring is lost -/

/-- A hole that joins one polygon is one item more among the items of all. -/
theorem flatMap_modify_perm {α : Type} {items : Polygon → List α} {hole : Ring} {item : α}
    (hItems : ∀ p, items (adding hole p) = items p ++ [item]) {polygons : List Polygon} {i : Nat}
    (hInside : i < polygons.length) :
    ((polygons.modify i (adding hole)).flatMap items).Perm (polygons.flatMap items ++ [item]) := by
  induction polygons generalizing i with
  | nil => cases hInside
  | cons p polygons ih =>
      cases i with
      | zero =>
          simp only [List.modify_zero_cons, List.flatMap_cons, hItems, List.append_assoc]
          exact List.Perm.append_left _ List.perm_append_comm
      | succ i =>
          simp only [List.modify_succ_cons, List.flatMap_cons, List.append_assoc]
          exact List.Perm.append_left _ (ih (Nat.lt_of_succ_lt_succ hInside))

/-- Holes that all have an owner leave the shells alone and go among the holes. -/
theorem foldl_placeHole_admitted {holes : List Ring} {polygons : List Polygon}
    (hOwned : ∀ hole ∈ holes, owner? polygons hole ≠ none) :
    (holes.foldl placeHole polygons).map exterior = polygons.map exterior ∧
      ((holes.foldl placeHole polygons).flatMap interiors).Perm
        (polygons.flatMap interiors ++ holes) := by
  induction holes generalizing polygons with
  | nil => exact ⟨rfl, by rw [List.append_nil, List.foldl_nil]⟩
  | cons hole holes ih =>
      obtain ⟨k, hOwner⟩ := Option.ne_none_iff_exists'.mp (hOwned hole List.mem_cons_self)
      have hShells := map_exterior_modify polygons k hole
      have hLater : ∀ other ∈ holes, owner? (polygons.modify k (adding hole)) other ≠ none := by
        intro other hOther
        rw [owner?_congr hShells]
        exact hOwned other (List.mem_cons_of_mem hole hOther)
      have hJoined : ((polygons.modify k (adding hole)).flatMap interiors).Perm
          (polygons.flatMap interiors ++ [hole]) :=
        flatMap_modify_perm (fun _ => rfl) (lt_of_owner? hOwner)
      obtain ⟨hRestShells, hRestHoles⟩ := ih hLater
      rw [List.foldl_cons, placeHole_owned hOwner]
      refine ⟨hRestShells.trans hShells, ?_⟩
      have hBoth := hRestHoles.trans (hJoined.append_right holes)
      rwa [List.append_assoc, List.singleton_append] at hBoth

section Trait

variable {α : Type} {trait : Ring → α}
  (hTrait : ∀ ring, trait (Ring.wound .clockwise ring) = trait ring)
include hTrait

/-- Placing holes keeps every ring, as it is or turned round. So it keeps what
rings have whichever way they wind. -/
theorem foldl_placeHole_keeps (holes : List Ring) (polygons : List Polygon) :
    (((holes.foldl placeHole polygons).flatMap rings).map trait).Perm
      ((polygons.flatMap rings ++ holes).map trait) := by
  induction holes generalizing polygons with
  | nil => rw [List.append_nil, List.foldl_nil]
  | cons hole holes ih =>
      have hOne : (((placeHole polygons hole).flatMap rings).map trait).Perm
          ((polygons.flatMap rings ++ [hole]).map trait) := by
        cases hOwner : owner? polygons hole with
        | some k =>
            rw [placeHole_owned hOwner]
            exact (flatMap_modify_perm (fun p => by simp [rings, adding])
              (lt_of_owner? hOwner)).map _
        | none =>
            rw [placeHole_orphan hOwner]
            simp [rings, hTrait]
      have hRest := ih (placeHole polygons hole)
      rw [List.map_append] at hRest ⊢
      rw [List.foldl_cons, List.map_cons]
      apply hRest.trans
      have hBoth := hOne.append_right (holes.map trait)
      simpa using hBoth

/-- Putting polygons together keeps every ring, as it is or turned round. -/
theorem assemble_keeps (source : List Ring) :
    (((assemble source).flatMap rings).map trait).Perm (source.map trait) := by
  have hSplit : (shellsIn source ++ holesIn source).Perm source := by
    have hOther : holesIn source = source.filter fun ring =>
        !decide (Ring.winding ring = .clockwise) := by
      refine List.filter_congr fun ring _ => ?_
      cases Ring.winding ring <;> rfl
    rw [hOther]
    exact List.filter_append_perm _ _
  apply List.Perm.trans _ (hSplit.map trait)
  by_cases hLength : (shellsIn source).length = 1
  · obtain ⟨shell, hSingle⟩ := List.length_eq_one_iff.mp hLength
    rw [assemble_of_shellsIn hSingle, hSingle]
    simp [rings]
  · rw [assemble_of_length_shellsIn hLength]
    have hPlaced := foldl_placeHole_keeps hTrait (holesIn source)
      ((shellsIn source).map fun shell => ⟨shell, []⟩)
    simpa [ofShellsAndHoles, rings, List.flatMap_map, Function.comp_def] using hPlaced

end Trait

end Polygon

end Shapefile
