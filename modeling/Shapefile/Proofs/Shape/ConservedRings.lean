import Shapefile.Proofs.Shape.RestoredRings

/-! No ring is lost when polygons are put together, none is used twice, and none
is changed beyond the way it winds. Every hole goes to one polygon or becomes the
shell of one more, and what is dealt out stays in order. -/
namespace Shapefile

namespace Ring

/-- A ring and its reversal, in no order. -/
def eitherWay (ring : Ring) : Sym2 Ring := s(ring, ring.reverse)

theorem eitherWay_eq_iff {ring other : Ring} :
    eitherWay ring = eitherWay other ↔ ring = other ∨ ring = other.reverse := by
  rw [eitherWay, eitherWay, Sym2.eq_iff, List.reverse_inj]
  constructor
  · rintro (⟨hSame, _⟩ | ⟨hTurned, _⟩)
    · exact Or.inl hSame
    · exact Or.inr hTurned
  · rintro (rfl | rfl)
    · exact Or.inl ⟨rfl, rfl⟩
    · exact Or.inr ⟨rfl, List.reverse_reverse other⟩

theorem eitherWay_wound (order : Winding) (ring : Ring) :
    eitherWay (wound order ring) = eitherWay ring := by
  rw [eitherWay_eq_iff, wound]
  split
  · exact Or.inr rfl
  · exact Or.inl rfl

end Ring

namespace Polygon

/-- Those of the holes that were dealt to one owner, in order. An owner is the
place of a polygon, and holes without one become shells. -/
def dealtTo (owner : Option Nat) (holes : List Ring) (owners : List (Option Nat)) : List Ring :=
  ((holes.zip owners).filter fun dealt => dealt.2 = owner).map Prod.fst

/-- Polygons that hold every shell and every hole once. The shells are there
first, in order, and behind them the reversals of the holes that have no owner.
A polygon has just the holes that it owns, in order, and every owner is one of
the polygons. -/
structure DealtOut (shells holes : List Ring) (owners : List (Option Nat))
    (polygons : List Polygon) : Prop where
  one_owner : owners.length = holes.length
  exteriors : polygons.map exterior = shells ++ (dealtTo none holes owners).map List.reverse
  interiors : ∀ i p, polygons[i]? = some p → p.interiors = dealtTo (some i) holes owners
  owner_lt : ∀ i, some i ∈ owners → i < polygons.length

section DealtOut

variable {shells holes : List Ring} {owners : List (Option Nat)} {polygons : List Polygon}

theorem dealtTo_concat (hLength : owners.length = holes.length) (hole : Ring)
    (owner place : Option Nat) :
    dealtTo owner (holes ++ [hole]) (owners ++ [place]) =
      dealtTo owner holes owners ++ if place = owner then [hole] else [] := by
  rw [dealtTo, List.zip_append hLength.symm, List.filter_append, List.map_append, ← dealtTo]
  by_cases hHere : place = owner
  · simp [hHere]
  · simp [hHere]

/-- Nothing is dealt to an owner that is not there. -/
theorem dealtTo_eq_nil {owner : Option Nat} (hNone : owner ∉ owners) :
    dealtTo owner holes owners = [] := by
  rw [dealtTo, List.map_eq_nil_iff, List.filter_eq_nil_iff]
  rintro ⟨hole, place⟩ hDealt hHere
  rw [decide_eq_true_eq] at hHere
  subst hHere
  exact hNone (List.of_mem_zip hDealt).2

theorem DealtOut.start (shells : List Ring) :
    DealtOut shells [] [] (shells.map fun shell => ⟨shell, []⟩) where
  one_owner := rfl
  exteriors := by simp [dealtTo, Function.comp_def]
  interiors i p hAt := by
    rw [List.getElem?_map] at hAt
    obtain ⟨shell, _, rfl⟩ := Option.map_eq_some_iff.mp hAt
    rfl
  owner_lt i hOwner := by cases hOwner

/-- A hole joins one of the polygons. -/
theorem DealtOut.join (h : DealtOut shells holes owners polygons) (hole : Ring) {k : Nat}
    (hInside : k < polygons.length) :
    DealtOut shells (holes ++ [hole]) (owners ++ [some k]) (polygons.modify k (adding hole)) where
  one_owner := by rw [List.length_append, List.length_append, h.one_owner]; rfl
  exteriors := by
    rw [map_exterior_modify, h.exteriors, dealtTo_concat h.one_owner, if_neg (by simp),
      List.append_nil]
  interiors i p hAt := by
    rw [List.getElem?_modify] at hAt
    obtain ⟨before, hBefore, rfl⟩ := Option.map_eq_some_iff.mp hAt
    rw [dealtTo_concat h.one_owner, ← h.interiors i before hBefore]
    by_cases hHere : k = i
    · simp [hHere, adding]
    · simp [hHere]
  owner_lt i hOwner := by
    rw [List.length_modify]
    rcases List.mem_append.mp hOwner with hOld | hNew
    · exact h.owner_lt i hOld
    · cases List.mem_singleton.mp hNew
      exact hInside

/-- A hole without an owner becomes the shell of one more polygon. -/
theorem DealtOut.grow (h : DealtOut shells holes owners polygons) (hole : Ring) :
    DealtOut shells (holes ++ [hole]) (owners ++ [none]) (polygons ++ [⟨hole.reverse, []⟩]) where
  one_owner := by rw [List.length_append, List.length_append, h.one_owner]; rfl
  exteriors := by
    rw [List.map_append, h.exteriors, dealtTo_concat h.one_owner, if_pos rfl, List.map_append,
      List.append_assoc]
    rfl
  interiors i p hAt := by
    rw [dealtTo_concat h.one_owner, if_neg (by simp), List.append_nil]
    rcases List.getElem?_concat_cases hAt with ⟨_, hOld⟩ | ⟨rfl, rfl⟩
    · exact h.interiors i p hOld
    · -- No hole was dealt to a polygon that was not there yet.
      exact (dealtTo_eq_nil fun hOwner => (h.owner_lt _ hOwner).false).symm
  owner_lt i hOwner := by
    rw [List.length_append]
    rcases List.mem_append.mp hOwner with hOld | hNew
    · exact Nat.lt_add_right _ (h.owner_lt i hOld)
    · cases List.mem_singleton.mp hNew

/-- The holes that are placed in turn are dealt out. -/
theorem dealtOut_ofShellsAndHoles (shells : List Ring) {holes : List Ring}
    (hTurned : ∀ hole ∈ holes, Ring.wound .clockwise hole = hole.reverse) :
    ∃ owners, DealtOut shells holes owners (ofShellsAndHoles shells holes) := by
  induction holes using List.reverseRecOn with
  | nil => exact ⟨[], DealtOut.start shells⟩
  | append_singleton holes hole ih =>
      obtain ⟨owners, hDealt⟩ :=
        ih fun other hOther => hTurned other (List.mem_append_left _ hOther)
      rw [ofShellsAndHoles, List.foldl_concat, ← ofShellsAndHoles]
      cases hOwner : owner? (ofShellsAndHoles shells holes) hole with
      | some k =>
          rw [placeHole_owned hOwner]
          exact ⟨_, hDealt.join hole (lt_of_owner? hOwner)⟩
      | none =>
          rw [placeHole_orphan hOwner, hTurned hole (List.mem_append_right _ List.mem_cons_self)]
          exact ⟨_, hDealt.grow hole⟩

/-- All holes are dealt to the only shell. -/
theorem dealtOut_single (shell : Ring) (holes : List Ring) :
    ∃ owners, DealtOut [shell] holes owners [⟨shell, holes⟩] := by
  induction holes using List.reverseRecOn with
  | nil => exact ⟨[], DealtOut.start [shell]⟩
  | append_singleton holes hole ih =>
      obtain ⟨owners, hDealt⟩ := ih
      exact ⟨_, hDealt.join hole Nat.one_pos⟩

end DealtOut

/-- Rings of at least four coordinates are put together without loss. The
shells of the polygons are the clockwise rings in order, and behind them, turned
round and in order, those of the other rings that have no owner. Each of the
rest is a hole of its owner, unchanged and in order. So the polygons have as many
rings as there were, and the same ones up to reversal. -/
theorem assemble_conserves {source : List Ring} (hLong : ∀ ring ∈ source, 4 ≤ ring.length) :
    (∃ owners, DealtOut (shellsIn source) (holesIn source) owners (assemble source)) ∧
      ((assemble source).flatMap rings).length = source.length ∧
      (((assemble source).flatMap rings).map Ring.eitherWay).Perm
        (source.map Ring.eitherWay) := by
  have hTurned : ∀ hole ∈ holesIn source, Ring.wound .clockwise hole = hole.reverse := by
    intro hole hHole
    obtain ⟨hMem, hWinding⟩ := List.mem_filter.mp hHole
    have hFour := hLong hole hMem
    rw [decide_eq_true_eq] at hWinding
    rw [Ring.wound, if_pos ⟨by omega, by simp [hWinding]⟩]
  have hKept := assemble_keeps (Ring.eitherWay_wound .clockwise) source
  have hCount := hKept.length_eq
  rw [List.length_map, List.length_map] at hCount
  refine ⟨?_, hCount, hKept⟩
  by_cases hLength : (shellsIn source).length = 1
  · obtain ⟨shell, hSingle⟩ := List.length_eq_one_iff.mp hLength
    rw [assemble_of_shellsIn hSingle, hSingle]
    exact dealtOut_single shell (holesIn source)
  · rw [assemble_of_length_shellsIn hLength]
    exact dealtOut_ofShellsAndHoles (shellsIn source) hTurned

/-- A square of this size, counter-clockwise, its lower left corner at this
distance from the origin on the diagonal. -/
def diagonalSquare (corner size : Float) : Ring :=
  [{ x := corner, y := corner }, { x := corner + size, y := corner },
    { x := corner + size, y := corner + size }, { x := corner, y := corner + size },
    { x := corner, y := corner }]

/-- A ring without a place in the plane. -/
def nowhere : Ring := List.replicate 4 { x := absent, y := absent }

/-- A square outside of all others becomes a shell, and the ring that is nowhere
stays one. -/
theorem assemble_conserves_islands :
    let source := [diagonalSquare 2 1, nowhere, diagonalSquare 20 2, (diagonalSquare 0 8).reverse,
      diagonalSquare 4 1]
    let polygons : List Polygon := [⟨nowhere, []⟩,
      ⟨(diagonalSquare 0 8).reverse, [diagonalSquare 2 1, diagonalSquare 4 1]⟩,
      ⟨(diagonalSquare 20 2).reverse, []⟩]
    (∀ ring ∈ source, 4 ≤ ring.length) ∧ assemble source = polygons ∧
      (∃ owners, DealtOut (shellsIn source) (holesIn source) owners polygons) ∧
      (polygons.flatMap rings).length = 5 ∧
      ((polygons.flatMap rings).map Ring.eitherWay).Perm (source.map Ring.eitherWay) := by
  intro source polygons
  have hLong : ∀ ring ∈ source, 4 ≤ ring.length := by decide
  have hPolygons : assemble source = polygons := by decide +kernel
  have hConserved := assemble_conserves hLong
  rw [hPolygons] at hConserved
  exact ⟨hLong, hPolygons, hConserved⟩

end Polygon

end Shapefile
