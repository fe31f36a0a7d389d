import Shapefile.Proofs.Geometry.NumericOrder
import Shapefile.Proofs.Shape.HolePlacement

/-! Which shell becomes the owner of a hole. Among the shells that may take it,
the owner has a smallest box, and is the last of those with that box. Boxes of
shells may overlap without one in the other, so there can be several smallest
ones. -/
namespace Shapefile

namespace Ring

/-- The coordinate lies in the plane where a vertex of the ring does. -/
def HasVertex (ring : Ring) (c : Coordinate) : Prop := ∃ vertex ∈ ring, vertex.samePlace c = true

/-- The vertex by which a shell looks for a hole. It is the first one that is no
vertex of the shell, and the first one of all if there is none like that. -/
inductive LocatedBy (shell : Ring) : Ring → Coordinate → Prop where
  | inside {before after : List Coordinate} {c : Coordinate}
      (hBefore : ∀ other ∈ before, shell.HasVertex other) (hOwn : ¬shell.HasVertex c) :
      LocatedBy shell (before ++ c :: after) c
  | shared {first : Coordinate} {rest : List Coordinate}
      (hAll : ∀ other ∈ first :: rest, shell.HasVertex other) :
      LocatedBy shell (first :: rest) first

theorem hasVertex_iff {ring : Ring} {c : Coordinate} :
    ring.HasVertex c ↔ ring.any (·.samePlace c) = true :=
  List.any_eq_true.symm

/-- The sample is the vertex by which a hole is looked for, and no other is. -/
theorem locatedBy_iff {shell hole : Ring} (hSome : hole ≠ []) {c : Coordinate} :
    LocatedBy shell hole c ↔ c = sample shell hole := by
  have hSample (d : Coordinate)
      (hFound : hole.find? (fun c => !shell.any (·.samePlace c)) = some d) :
      sample shell hole = d := by
    rw [sample, hFound]
    rfl
  constructor
  · intro hLocated
    cases hLocated with
    | @inside before after _ hBefore hOwn =>
        refine (hSample c ?_).symm
        rw [List.find?_eq_some_iff_append]
        refine ⟨?_, before, after, rfl, fun other hOther => ?_⟩
        · rwa [hasVertex_iff, Bool.not_eq_true, ← Bool.not_eq_true'] at hOwn
        · simpa using hasVertex_iff.mp (hBefore other hOther)
    | @shared _ rest hAll =>
        have hNone : (c :: rest).find? (fun c => !shell.any (·.samePlace c)) = none := by
          rw [List.find?_eq_none]
          intro other hOther
          simpa using hasVertex_iff.mp (hAll other hOther)
        rw [sample, hNone]
        rfl
  · rintro rfl
    cases hFound : hole.find? (fun c => !shell.any (·.samePlace c)) with
    | some d =>
        rw [hSample d hFound]
        obtain ⟨hOwn, before, after, rfl, hBefore⟩ := List.find?_eq_some_iff_append.mp hFound
        refine .inside (fun other hOther => ?_) ?_
        · rw [hasVertex_iff]
          simpa using hBefore other hOther
        · rwa [hasVertex_iff, Bool.not_eq_true, ← Bool.not_eq_true']
    | none =>
        obtain ⟨first, rest, rfl⟩ := List.exists_cons_of_ne_nil hSome
        have hFirst : sample shell (first :: rest) = first := by
          rw [sample, hFound]
          rfl
        rw [hFirst]
        refine .shared fun other hOther => ?_
        rw [hasVertex_iff]
        simpa using List.find?_eq_none.mp hFound other hOther

end Ring

namespace Polygon

/-- The polygon at this place has this shell, and the shell may take the hole.
Its box contains that of the hole, and it encloses the vertex by which it looks
for the hole. -/
structure Candidate (polygons : List Polygon) (hole : Ring) (i : Nat) (shell : Ring) : Prop where
  here : (polygons.map exterior)[i]? = some shell
  box : (Ring.envelope shell).contains (Ring.envelope hole) = true
  encloses : ∃ vertex, Ring.LocatedBy shell hole vertex ∧ Ring.encloses shell vertex = true

section Candidate

variable {polygons : List Polygon} {hole : Ring} {p : Polygon}

theorem candidate_iff (hSome : hole ≠ []) {i : Nat} {shell : Ring} :
    Candidate polygons hole i shell ↔
      (polygons.map exterior)[i]? = some shell ∧ Ring.admits shell hole = true := by
  have hEncloses :
      (∃ vertex, Ring.LocatedBy shell hole vertex ∧ Ring.encloses shell vertex = true) ↔
        Ring.encloses shell (Ring.sample shell hole) = true := by
    simp only [Ring.locatedBy_iff hSome, exists_eq_left]
  rw [Ring.admits, Bool.and_eq_true, ← hEncloses]
  exact ⟨fun h => ⟨h.here, h.box, h.encloses⟩, fun h => ⟨h.1, h.2.1, h.2.2⟩⟩

/-- One more polygon is a candidate or leaves the candidates as they were. -/
theorem candidate_concat (hSome : hole ≠ []) {i : Nat} {shell : Ring} :
    Candidate (polygons ++ [p]) hole i shell ↔
      Candidate polygons hole i shell ∨
        i = polygons.length ∧ shell = p.exterior ∧ Ring.admits p.exterior hole = true := by
  rw [candidate_iff hSome, candidate_iff hSome, List.map_append, List.map_singleton]
  constructor
  · rintro ⟨hHere, hAdmits⟩
    rcases List.getElem?_concat_cases hHere with ⟨_, hOld⟩ | ⟨hLast, rfl⟩
    · exact Or.inl ⟨hOld, hAdmits⟩
    · rw [List.length_map] at hLast
      exact Or.inr ⟨hLast, rfl, hAdmits⟩
  · rintro (⟨hOld, hAdmits⟩ | ⟨rfl, rfl, hAdmits⟩)
    · rw [List.getElem?_append_left (List.getElem?_eq_some_iff.mp hOld).1]
      exact ⟨hOld, hAdmits⟩
    · refine ⟨?_, hAdmits⟩
      rw [← List.length_map exterior, List.getElem?_concat_length]

/-- What the search has found among some polygons. The box is that of a
candidate, and every candidate whose box lies in this one has the same box and
does not come later. -/
def Smallest (polygons : List Polygon) (hole : Ring) : Option (Nat × Envelope) → Prop
  | none => ∀ i shell, ¬Candidate polygons hole i shell
  | some (i, box) => ∃ shell, Candidate polygons hole i shell ∧ box = Ring.envelope shell ∧
    ∀ j other, Candidate polygons hole j other → box.contains (Ring.envelope other) = true →
      (Ring.envelope other).contains box = true ∧ j ≤ i

theorem Candidate.lt_length {i : Nat} {shell : Ring} (h : Candidate polygons hole i shell) :
    i < polygons.length := by
  have hInside := (List.getElem?_eq_some_iff.mp h.here).1
  rwa [List.length_map] at hInside

theorem betterOwner_eq (hole : Ring) (best : Option (Nat × Envelope)) (p : Polygon) (i : Nat) :
    betterOwner hole best (p, i) =
      if Ring.admits p.exterior hole = true ∧
          best.all (·.2.contains (Ring.envelope p.exterior)) = true then
        some (i, Ring.envelope p.exterior)
      else best := by
  cases hAdmits : Ring.admits p.exterior hole <;> simp [betterOwner, hAdmits]

/-- Looking at one more polygon. -/
theorem Smallest.step (hSome : hole ≠ []) {best : Option (Nat × Envelope)}
    (h : Smallest polygons hole best) (p : Polygon) :
    Smallest (polygons ++ [p]) hole (betterOwner hole best (p, polygons.length)) := by
  rw [betterOwner_eq]
  split
  next hTaken =>
    obtain ⟨hAdmits, hSmaller⟩ := hTaken
    refine ⟨p.exterior, (candidate_concat hSome).mpr (Or.inr ⟨rfl, rfl, hAdmits⟩), rfl,
      fun j other hOther hInside => ?_⟩
    rcases (candidate_concat hSome).mp hOther with hOld | ⟨rfl, rfl, _⟩
    · cases best with
      | none => exact absurd hOld (h j other)
      | some found =>
          -- The best so far lies in `other`, and the new one lies in the best so far.
          obtain ⟨_, _, _, hLeast⟩ := h
          have hBack := (hLeast j other hOld (Envelope.contains_trans hSmaller hInside)).1
          exact ⟨Envelope.contains_trans hBack hSmaller, hOld.lt_length.le⟩
    · exact ⟨hInside, le_rfl⟩
  next hKept =>
    cases best with
    | none =>
        intro i shell hCandidate
        rcases (candidate_concat hSome).mp hCandidate with hOld | ⟨_, _, hAdmits⟩
        · exact h i shell hOld
        · exact hKept ⟨hAdmits, rfl⟩
    | some found =>
        obtain ⟨shell, hShell, hBox, hLeast⟩ := h
        refine ⟨shell, (candidate_concat hSome).mpr (Or.inl hShell), hBox,
          fun j other hOther hInside => ?_⟩
        rcases (candidate_concat hSome).mp hOther with hOld | ⟨_, rfl, hAdmits⟩
        · exact hLeast j other hOld hInside
        · exact absurd ⟨hAdmits, hInside⟩ hKept

/-- Looking at all polygons. -/
theorem smallest_foldl (hSome : hole ≠ []) (polygons : List Polygon) :
    Smallest polygons hole (polygons.zipIdx.foldl (betterOwner hole) none) := by
  induction polygons using List.reverseRecOn with
  | nil =>
      intro i shell hCandidate
      cases hCandidate.here
  | append_singleton polygons p ih =>
      rw [List.zipIdx_append, List.foldl_append, List.zipIdx_singleton, Nat.zero_add]
      exact ih.step hSome p

end Candidate

/-- A hole has no owner exactly if there is no candidate. Otherwise its owner is
a candidate, and a candidate whose box lies in the box of the owner has the same
box and does not come behind the owner. -/
theorem owner?_smallest (polygons : List Polygon) {hole : Ring} (hSome : hole ≠ []) :
    (owner? polygons hole = none ↔ ∀ i shell, ¬Candidate polygons hole i shell) ∧
      ∀ i, owner? polygons hole = some i → ∃ shell, Candidate polygons hole i shell ∧
        ∀ j other, Candidate polygons hole j other →
          (Ring.envelope shell).contains (Ring.envelope other) = true →
            (Ring.envelope other == Ring.envelope shell) = true ∧ j ≤ i := by
  have hFound := smallest_foldl hSome polygons
  rw [owner?]
  cases hBest : polygons.zipIdx.foldl (betterOwner hole) none with
  | none =>
      rw [hBest] at hFound
      refine ⟨iff_of_true rfl hFound, fun i hOwner => ?_⟩
      cases hOwner
  | some found =>
      obtain ⟨i, box⟩ := found
      rw [hBest] at hFound
      obtain ⟨shell, hShell, rfl, hLeast⟩ := hFound
      have hThere : (some (i, Ring.envelope shell)).map Prod.fst ≠ none := Option.some_ne_none i
      refine ⟨iff_of_false hThere fun hNone => hNone i shell hShell, ?_⟩
      rintro _ ⟨⟩
      refine ⟨shell, hShell, fun j other hOther hInside => ?_⟩
      obtain ⟨hBack, hBefore⟩ := hLeast j other hOther hInside
      exact ⟨Envelope.beq_of_contains hBack hInside, hBefore⟩

/-- A square with its lower left corner at the origin, clockwise. -/
def cornerSquare (size : Float) : Polygon where
  exterior := [{ x := 0, y := 0 }, { x := 0, y := size }, { x := size, y := size },
    { x := size, y := 0 }, { x := 0, y := 0 }]
  interiors := []

/-- A triangle that shares a vertex with every such square. -/
def cornerHole : Ring :=
  [{ x := 0, y := 0 }, { x := 2, y := 1 }, { x := 1, y := 2 }, { x := 0, y := 0 }]

/-- Of the squares of sizes 8, 4, 4 and 6 the second one of size 4 owns the
triangle. -/
theorem owner?_smallest_corner :
    let squares := [cornerSquare 8, cornerSquare 4, cornerSquare 4, cornerSquare 6]
    cornerHole ≠ [] ∧ owner? squares cornerHole = some 2 ∧
      ∃ shell, Candidate squares cornerHole 2 shell ∧
        ∀ j other, Candidate squares cornerHole j other →
          (Ring.envelope shell).contains (Ring.envelope other) = true →
            (Ring.envelope other == Ring.envelope shell) = true ∧ j ≤ 2 := by
  intro squares
  have hSome : cornerHole ≠ [] := by decide
  have hOwner : owner? squares cornerHole = some 2 := by decide +kernel
  exact ⟨hSome, hOwner, (owner?_smallest squares hSome).2 2 hOwner⟩

end Polygon

end Shapefile
