import Mathlib.Order.Nat
import Shapefile.Proofs.Lists
import Shapefile.Shape.Record.Assembly

/-! How holes are placed, one after the other, among polygons that grow. The
owner of a hole is sought among the polygons that there are when its turn
comes. Once found it stays the owner among all earlier polygons, so what was
decided can be read off the polygons that come out. -/
namespace Shapefile

namespace Polygon

/-! ### The owner of a hole -/

/-- A shell without its holes. -/
def bare (p : Polygon) : Polygon := ⟨p.exterior, []⟩

theorem map_bare (polygons : List Polygon) :
    polygons.map bare = (polygons.map exterior).map fun shell => ⟨shell, []⟩ := by
  rw [List.map_map]
  rfl

/-- Only the shells of polygons matter to a hole. -/
theorem owner?_bare (polygons : List Polygon) (hole : Ring) :
    owner? (polygons.map bare) hole = owner? polygons hole := by
  simp only [owner?, List.zipIdx_map, List.foldl_map]
  rfl

theorem owner?_congr {polygons others : List Polygon}
    (hShells : polygons.map exterior = others.map exterior) (hole : Ring) :
    owner? polygons hole = owner? others hole := by
  rw [← owner?_bare, map_bare, hShells, ← map_bare, owner?_bare]

@[simp] theorem owner?_nil (hole : Ring) : owner? [] hole = none := rfl

/-- One more polygon takes a hole over or leaves it where it was. It takes
every hole that it admits and that had no owner. -/
theorem owner?_concat (polygons : List Polygon) (p : Polygon) (hole : Ring) :
    (owner? (polygons ++ [p]) hole = some polygons.length ∧
        Ring.admits p.exterior hole = true) ∨
      (owner? (polygons ++ [p]) hole = owner? polygons hole ∧
        (owner? polygons hole = none → Ring.admits p.exterior hole = false)) := by
  simp only [owner?, List.zipIdx_append, List.zipIdx_singleton, List.foldl_append,
    List.foldl_cons, List.foldl_nil, Nat.zero_add]
  generalize polygons.zipIdx.foldl (betterOwner hole) none = best
  cases hAdmits : Ring.admits p.exterior hole with
  | false =>
      right
      simp [betterOwner, hAdmits]
  | true =>
      by_cases hSmaller : best.all (·.2.contains (Ring.envelope p.exterior)) = true
      · left
        simp [betterOwner, hAdmits, hSmaller]
      · right
        cases best with
        | none => exact absurd rfl hSmaller
        | some found => simp [betterOwner, hAdmits, hSmaller]

/-- The owner of a hole is one of the polygons, and admits the hole. -/
theorem admits_of_owner? {polygons : List Polygon} {hole : Ring} {i : Nat}
    (hOwner : owner? polygons hole = some i) :
    ∃ p, polygons[i]? = some p ∧ Ring.admits p.exterior hole = true := by
  induction polygons using List.reverseRecOn with
  | nil => cases hOwner
  | append_singleton polygons p ih =>
      rcases owner?_concat polygons p hole with ⟨hTaken, hAdmits⟩ | ⟨hKept, _⟩
      · rw [hTaken] at hOwner
        cases hOwner
        exact ⟨p, by simp, hAdmits⟩
      · rw [hKept] at hOwner
        obtain ⟨q, hAt, hAdmits⟩ := ih hOwner
        refine ⟨q, ?_, hAdmits⟩
        rw [List.getElem?_append_left (List.getElem?_eq_some_iff.mp hAt).1]
        exact hAt

theorem lt_of_owner? {polygons : List Polygon} {hole : Ring} {i : Nat}
    (hOwner : owner? polygons hole = some i) : i < polygons.length := by
  obtain ⟨_, hAt, _⟩ := admits_of_owner? hOwner
  exact (List.getElem?_eq_some_iff.mp hAt).1

/-- A hole has no owner exactly if no polygon admits it. -/
theorem owner?_eq_none_iff {polygons : List Polygon} {hole : Ring} :
    owner? polygons hole = none ↔ ∀ p ∈ polygons, Ring.admits p.exterior hole = false := by
  induction polygons using List.reverseRecOn with
  | nil => simp
  | append_singleton polygons p ih =>
      simp only [List.mem_append, List.mem_singleton, or_imp, forall_and, forall_eq, ← ih]
      rcases owner?_concat polygons p hole with ⟨hTaken, hAdmits⟩ | ⟨hKept, hFree⟩
      · simp [hTaken, hAdmits]
      · rw [hKept]
        exact ⟨fun hNone => ⟨hNone, hFree hNone⟩, fun hBoth => hBoth.1⟩

/-- Polygons behind the owner did not take the hole over, so without them the
owner is the same. -/
theorem owner?_of_append {polygons others : List Polygon} {hole : Ring} {i : Nat}
    (hOwner : owner? (polygons ++ others) hole = some i) (hBefore : i < polygons.length) :
    owner? polygons hole = some i := by
  induction others using List.reverseRecOn with
  | nil => rwa [List.append_nil] at hOwner
  | append_singleton others p ih =>
      rw [← List.append_assoc] at hOwner
      rcases owner?_concat (polygons ++ others) p hole with ⟨hTaken, _⟩ | ⟨hKept, _⟩
      · rw [hTaken, List.length_append] at hOwner
        cases hOwner
        omega
      · exact ih (hKept ▸ hOwner)

/-- The owner among polygons is the owner among those up to any place behind
it. -/
theorem owner?_take {polygons : List Polygon} {hole : Ring} {i count : Nat}
    (hOwner : owner? polygons hole = some i) (hBefore : i < count) :
    owner? (polygons.take count) hole = some i := by
  have hInside := lt_of_owner? hOwner
  rw [← List.take_append_drop count polygons] at hOwner
  apply owner?_of_append hOwner
  rw [List.length_take]
  omega

/-! ### Placing one hole -/

/-- The polygon with one hole more. -/
def adding (hole : Ring) (p : Polygon) : Polygon := { p with interiors := p.interiors ++ [hole] }

theorem placeHole_owned {polygons : List Polygon} {hole : Ring} {i : Nat}
    (hOwner : owner? polygons hole = some i) :
    placeHole polygons hole = polygons.modify i (adding hole) := by
  simp only [placeHole, hOwner]
  rfl

theorem placeHole_orphan {polygons : List Polygon} {hole : Ring}
    (hOwner : owner? polygons hole = none) :
    placeHole polygons hole = polygons ++ [⟨Ring.wound .clockwise hole, []⟩] := by
  simp only [placeHole, hOwner]

/-- A hole changes no shell. -/
theorem map_exterior_modify (polygons : List Polygon) (i : Nat) (hole : Ring) :
    (polygons.modify i (adding hole)).map exterior = polygons.map exterior := by
  induction polygons generalizing i with
  | nil => simp
  | cons p polygons ih =>
      cases i with
      | zero => simp [adding]
      | succ i => simp [ih]

/-! ### Placing all holes -/

/-- What is known of polygons that came from shells by placing holes. The
shells are still there, in front. Each polygon behind them was a hole that no
polygon before it admits. Each hole lies with its owner among the shells and
the polygons up to its own. -/
structure Placed (shells holes : List Ring) (polygons : List Polygon) : Prop where
  shells_first : shells <+: polygons.map exterior
  orphan : ∀ i p, shells.length ≤ i → polygons[i]? = some p →
    ∃ hole ∈ holes, p.exterior = Ring.wound .clockwise hole ∧
      owner? (polygons.take i) hole = none
  owned : ∀ i p hole, polygons[i]? = some p → hole ∈ p.interiors →
    hole ∈ holes ∧ owner? (polygons.take (max shells.length (i + 1))) hole = some i

section Placed

variable {shells holes : List Ring} {polygons : List Polygon}

theorem Placed.length_le (h : Placed shells holes polygons) :
    shells.length ≤ polygons.length := by
  have hPrefix := h.shells_first.length_le
  rwa [List.length_map] at hPrefix

/-- The polygons in front have the shells. -/
theorem Placed.exterior_mem (h : Placed shells holes polygons) {i : Nat} {p : Polygon}
    (hFirst : i < shells.length) (hAt : polygons[i]? = some p) : p.exterior ∈ shells := by
  have hShell := List.prefix_iff_getElem?.mp h.shells_first i hFirst
  rw [List.getElem?_map, hAt, Option.map_some] at hShell
  rw [Option.some.inj hShell]
  exact List.getElem_mem hFirst

theorem Placed.start (shells : List Ring) :
    Placed shells [] (shells.map fun shell => ⟨shell, []⟩) where
  shells_first := by simp [Function.comp_def]
  orphan i p hBehind hAt := by
    have hInside := (List.getElem?_eq_some_iff.mp hAt).1
    rw [List.length_map] at hInside
    omega
  owned i p hole hAt hHole := by
    rw [List.getElem?_map] at hAt
    obtain ⟨shell, _, rfl⟩ := Option.map_eq_some_iff.mp hAt
    cases hHole

/-- A hole that has an owner joins it. -/
theorem Placed.join (h : Placed shells holes polygons) {hole : Ring} {k : Nat}
    (hOwner : owner? polygons hole = some k) :
    Placed shells (holes ++ [hole]) (polygons.modify k (adding hole)) := by
  have hShells := map_exterior_modify polygons k hole
  have hSame (count : Nat) (other : Ring) :
      owner? ((polygons.modify k (adding hole)).take count) other =
        owner? (polygons.take count) other := by
    apply owner?_congr
    rw [List.map_take, List.map_take, hShells]
  refine ⟨hShells.symm ▸ h.shells_first, ?_, ?_⟩
  · intro i p hBehind hAt
    rw [List.getElem?_modify] at hAt
    obtain ⟨before, hBefore, rfl⟩ := Option.map_eq_some_iff.mp hAt
    obtain ⟨other, hOther, hShell, hNone⟩ := h.orphan i before hBehind hBefore
    refine ⟨other, List.mem_append_left _ hOther, ?_, (hSame i other).trans hNone⟩
    rw [← hShell]
    split <;> rfl
  · intro i p other hAt hIn
    rw [List.getElem?_modify] at hAt
    obtain ⟨before, hBefore, rfl⟩ := Option.map_eq_some_iff.mp hAt
    rw [hSame]
    have hOld (hThere : other ∈ before.interiors) :=
      And.imp_left (List.mem_append_left [hole]) (h.owned i before other hBefore hThere)
    split at hIn
    next hHere =>
      rcases List.mem_append.mp hIn with hThere | hNew
      · exact hOld hThere
      · rw [List.mem_singleton] at hNew
        subst hNew hHere
        exact ⟨List.mem_append_right _ List.mem_cons_self, owner?_take hOwner (by omega)⟩
    next => exact hOld hIn

/-- A hole without an owner becomes the shell of one more polygon. -/
theorem Placed.grow (h : Placed shells holes polygons) {hole : Ring}
    (hOwner : owner? polygons hole = none) :
    Placed shells (holes ++ [hole]) (polygons ++ [⟨Ring.wound .clockwise hole, []⟩]) := by
  have hLength := h.length_le
  have hTake {count : Nat} (hCount : count ≤ polygons.length) :
      (polygons ++ [(⟨Ring.wound .clockwise hole, []⟩ : Polygon)]).take count =
        polygons.take count :=
    List.take_append_of_le_length hCount
  refine ⟨?_, ?_, ?_⟩
  · rw [List.map_append]
    exact h.shells_first.trans (List.prefix_append _ _)
  · intro i p hBehind hAt
    rcases List.getElem?_concat_cases hAt with ⟨hOld, hAt⟩ | ⟨rfl, rfl⟩
    · obtain ⟨other, hOther, hShell, hNone⟩ := h.orphan i p hBehind hAt
      exact ⟨other, List.mem_append_left _ hOther, hShell, (hTake hOld.le).symm ▸ hNone⟩
    · refine ⟨hole, List.mem_append_right _ List.mem_cons_self, rfl, ?_⟩
      rw [hTake le_rfl, List.take_length]
      exact hOwner
  · intro i p other hAt hIn
    rcases List.getElem?_concat_cases hAt with ⟨hOld, hAt⟩ | ⟨rfl, rfl⟩
    · obtain ⟨hOther, hOwned⟩ := h.owned i p other hAt hIn
      rw [hTake (by omega)]
      exact ⟨List.mem_append_left _ hOther, hOwned⟩
    · cases hIn

/-- Placing a hole keeps what is known. -/
theorem Placed.placeHole (h : Placed shells holes polygons) (hole : Ring) :
    Placed shells (holes ++ [hole]) (placeHole polygons hole) := by
  cases hOwner : owner? polygons hole with
  | some k =>
      rw [placeHole_owned hOwner]
      exact h.join hOwner
  | none =>
      rw [placeHole_orphan hOwner]
      exact h.grow hOwner

/-- A hole of one of the polygons has an owner among them. -/
theorem Placed.owner_ne_none (h : Placed shells holes polygons) {hole : Ring}
    (hHole : hole ∈ polygons.flatMap interiors) : owner? polygons hole ≠ none := by
  intro hNone
  obtain ⟨p, hMem, hIn⟩ := List.mem_flatMap.mp hHole
  obtain ⟨i, hAt⟩ := List.mem_iff_getElem?.mp hMem
  obtain ⟨q, hOwnerAt, hAdmits⟩ := admits_of_owner? (h.owned i p hole hAt hIn).2
  have hOwnerMem := List.mem_of_mem_take (List.mem_of_getElem? hOwnerAt)
  rw [owner?_eq_none_iff.mp hNone q hOwnerMem] at hAdmits
  cases hAdmits

/-- All of this is known of the polygons that reading puts together. -/
theorem placed_ofShellsAndHoles (shells holes : List Ring) :
    Placed shells holes (ofShellsAndHoles shells holes) := by
  induction holes using List.reverseRecOn with
  | nil => exact Placed.start shells
  | append_singleton holes hole ih =>
      rw [ofShellsAndHoles, List.foldl_append]
      exact ih.placeHole hole

end Placed

/-! ### Shells and holes of a record -/

/-- The rings that are shells from the start. -/
def shellsIn (rings : List Ring) : List Ring :=
  rings.filter fun ring => Ring.winding ring = .clockwise

/-- The rings that are to be placed as holes. -/
def holesIn (rings : List Ring) : List Ring :=
  rings.filter fun ring => Ring.winding ring = .counterClockwise

theorem assemble_of_shellsIn {rings : List Ring} {shell : Ring}
    (hSingle : shellsIn rings = [shell]) : assemble rings = [⟨shell, holesIn rings⟩] := by
  unfold shellsIn at hSingle
  rw [assemble, hSingle, holesIn]

theorem assemble_of_length_shellsIn {rings : List Ring} (hLength : (shellsIn rings).length ≠ 1) :
    assemble rings = ofShellsAndHoles (shellsIn rings) (holesIn rings) := by
  unfold shellsIn at hLength
  rw [assemble, shellsIn, holesIn]
  split
  next shell hSingle =>
    rw [hSingle] at hLength
    exact absurd rfl hLength
  next => rfl

/-! ### Placing holes again -/

/-- Holes of one owner join it in order. -/
theorem foldl_placeHole_owned {first last : List Polygon} {shell : Ring} {holes : List Ring}
    (hOwner : ∀ hole ∈ holes,
      owner? (first ++ ⟨shell, []⟩ :: last) hole = some first.length) (before : List Ring) :
    holes.foldl placeHole (first ++ ⟨shell, before⟩ :: last) =
      first ++ ⟨shell, before ++ holes⟩ :: last := by
  induction holes generalizing before with
  | nil => simp
  | cons hole holes ih =>
      have hHere : owner? (first ++ ⟨shell, before⟩ :: last) hole = some first.length := by
        rw [← hOwner hole List.mem_cons_self]
        exact owner?_congr (by simp) hole
      have hJoined : (first ++ ⟨shell, before⟩ :: last).modify first.length (adding hole) =
          first ++ ⟨shell, before ++ [hole]⟩ :: last := by
        rw [List.modify_eq_take_cons_drop (by simp)]
        simp [adding]
      rw [List.foldl_cons, placeHole_owned hHere, hJoined,
        ih (fun other hOther => hOwner other (List.mem_cons_of_mem _ hOther)), List.append_assoc,
        List.singleton_append]

/-- Shells that are there from the start get their holes back, one shell after
the other. -/
theorem foldl_placeHole_shells (done rest : List Polygon)
    (hOwned : ∀ before p later, rest = before ++ p :: later → ∀ hole ∈ p.interiors,
      owner? (done ++ rest) hole = some (done ++ before).length) :
    (rest.flatMap interiors).foldl placeHole (done ++ rest.map bare) = done ++ rest := by
  induction rest generalizing done with
  | nil => rfl
  | cons p rest ih =>
      have hFirst : ∀ hole ∈ p.interiors,
          owner? (done ++ ⟨p.exterior, []⟩ :: rest.map bare) hole = some done.length := by
        intro hole hHole
        have hHere := hOwned [] p rest rfl hole hHole
        rw [List.append_nil] at hHere
        rw [← hHere]
        exact owner?_congr (by simp [bare, Function.comp_def]) hole
      have hFilled := foldl_placeHole_owned hFirst []
      rw [List.nil_append] at hFilled
      rw [List.flatMap_cons, List.foldl_append, List.map_cons, bare, hFilled]
      have hRest := ih (done ++ [p]) fun before q later hSplit hole hHole => by
        have hThere := hOwned (p :: before) q later (by rw [hSplit]; rfl) hole hHole
        simpa using hThere
      simpa using hRest

/-- Shells that were holes come back in turn, each followed by its own holes. -/
theorem foldl_placeHole_orphans (done rest : List Polygon)
    (hOrphan : ∀ before p later, rest = before ++ p :: later →
      owner? (done ++ before) p.exterior.reverse = none ∧
        Ring.wound .clockwise p.exterior.reverse = p.exterior ∧
        ∀ hole ∈ p.interiors, owner? (done ++ before ++ [p]) hole = some (done ++ before).length) :
    (rest.flatMap fun p => p.exterior.reverse :: p.interiors).foldl placeHole done =
      done ++ rest := by
  induction rest generalizing done with
  | nil => simp
  | cons p rest ih =>
      obtain ⟨hNone, hTurned, hOwned⟩ := hOrphan [] p rest rfl
      rw [List.append_nil] at hNone hOwned
      have hFirst : ∀ hole ∈ p.interiors,
          owner? (done ++ ⟨p.exterior, []⟩ :: []) hole = some done.length := by
        intro hole hHole
        rw [← hOwned hole hHole]
        exact owner?_congr (by simp) hole
      have hFilled := foldl_placeHole_owned hFirst []
      rw [List.nil_append] at hFilled
      rw [List.flatMap_cons, List.cons_append, List.foldl_cons, placeHole_orphan hNone, hTurned,
        List.foldl_append, hFilled]
      have hRest := ih (done ++ [p]) fun before q later hSplit => by
        have hThere := hOrphan (p :: before) q later (by rw [hSplit]; rfl)
        simpa using hThere
      simpa using hRest

end Polygon

end Shapefile
