import Mathlib.Data.List.Rotate
import Shapefile.Geometry.Ring

/-! Where a closed ring starts. A ring that starts at another of its vertices
has the same edges in the same cyclic order, and passing edges along a ray leads
to the same side in any order. So the ring encloses the same positions. Nothing
is asked of the doubles at which the edges meet the ray, which may be NaNs. -/
namespace Shapefile

namespace Ring

/-! ### Passing edges one after the other -/

/-- One end of the edge is above the height of `p`, and the other one is not. -/
def straddles (p : Coordinate) (edge : Edge) : Bool :=
  decide (p.y < edge.1.y) != decide (p.y < edge.2.y)

/-- Where an edge across the height of `p` meets this height, computed in
doubles. -/
def meetingX (p : Coordinate) (edge : Edge) : Float :=
  edge.1.x + (p.y - edge.1.y) * (edge.2.x - edge.1.x) / (edge.2.y - edge.1.y)

/-- Whether `p` is inside, after one more edge. An edge that meets the height of
`p` to its right changes the side. -/
def pass (meet : Edge → Float) (p : Coordinate) (inside : Bool) (edge : Edge) : Bool :=
  if straddles p edge then
    if p.x < meet edge then !inside else inside
  else inside

/-- Vertices are enclosed. Any other position is taken to be outside until the
edges have been passed one after the other. -/
def enclosesInTurn (meet : Edge → Float) (ring : Ring) (p : Coordinate) : Bool :=
  if ring.any (·.samePlace p) then true else (edges ring).foldl (pass meet p) false

/-- A ray from `p` to the right crosses the edge, if the edge meets the height of
`p` where `meet` says. -/
def crossesAt (meet : Edge → Float) (p : Coordinate) (edge : Edge) : Bool :=
  straddles p edge && p.x < meet edge

theorem crosses_eq_crossesAt (p : Coordinate) : crosses p = crossesAt (meetingX p) p := rfl

section Pass

variable (meet : Edge → Float) (p : Coordinate)

theorem pass_eq_xor (inside : Bool) (edge : Edge) :
    pass meet p inside edge = (inside ^^ crossesAt meet p edge) := by
  unfold pass crossesAt
  cases straddles p edge with
  | false => simp
  | true => by_cases hRight : p.x < meet edge <;> simp [hRight]

/-- Passing edges changes the side if the ray crosses an odd number of them. -/
theorem foldl_pass (inside : Bool) (es : List Edge) :
    es.foldl (pass meet p) inside = (inside ^^ (es.countP (crossesAt meet p) % 2 == 1)) := by
  -- Any side to start from, as the first edge may change it for the rest.
  induction es generalizing inside with
  | nil => simp
  | cons edge es ih =>
      rw [List.foldl_cons, ih, pass_eq_xor, List.countP_cons]
      cases crossesAt meet p edge with
      | false => simp
      | true =>
          have hParity : ((es.countP (crossesAt meet p) + 1) % 2 == 1) =
              !(es.countP (crossesAt meet p) % 2 == 1) := by
            rw [Bool.eq_iff_iff, Bool.not_eq_true', beq_iff_eq, beq_eq_false_iff_ne]
            omega
          rw [if_pos rfl, hParity, Bool.xor_true, Bool.not_xor, Bool.xor_not]

/-- The order of the edges does not matter. -/
theorem foldl_pass_perm (inside : Bool) {es others : List Edge} (hPerm : es.Perm others) :
    es.foldl (pass meet p) inside = others.foldl (pass meet p) inside := by
  rw [foldl_pass, foldl_pass, hPerm.countP_eq]

end Pass

/-- Counting the crossed edges answers the same as passing them in turn. -/
theorem encloses_eq_enclosesInTurn (ring : Ring) (p : Coordinate) :
    encloses ring p = enclosesInTurn (meetingX p) ring p := by
  rw [encloses, enclosesInTurn, foldl_pass, Bool.false_xor, crosses_eq_crossesAt]
  cases ring.any (·.samePlace p) <;> rfl

/-! ### Vertices in a circle -/

/-- The ring through these vertices and back to the first one. -/
def through (vertices : List Coordinate) : Ring := vertices ++ vertices.take 1

/-- A closed ring that starts `k` vertices further on. The coordinate that
closes it is left out, the vertices are rotated, and the new first one is
repeated at the end. -/
def startingAt (k : Nat) (ring : Ring) : Ring := through (ring.dropLast.rotate k)

/-- A closed ring runs through its coordinates but the last. -/
theorem through_dropLast {ring : Ring} (hLength : 2 ≤ ring.length)
    (hClosed : ring.head? = ring.getLast?) : through ring.dropLast = ring := by
  have hSome : ring ≠ [] := List.ne_nil_of_length_pos (by omega)
  have hFirst : ring.dropLast.take 1 = [ring.getLast hSome] := by
    rw [List.take_one, List.head?_dropLast, if_pos (by omega), hClosed,
      List.getLast?_eq_some_getLast hSome]
    rfl
  rw [through, hFirst, List.dropLast_append_getLast]

theorem any_through (test : Coordinate → Bool) (vertices : List Coordinate) :
    (through vertices).any test = vertices.any test := by
  rw [through, List.any_append]
  cases vertices with
  | nil => rfl
  | cons first rest => cases hFirst : test first <;> simp [hFirst]

/-- Each vertex is joined to the next one, and the last to the first. -/
theorem edges_through (vertices : List Coordinate) :
    edges (through vertices) = vertices.zip (vertices.rotate 1) := by
  cases vertices with
  | nil => rfl
  | cons first rest =>
      have hLast : ((first :: rest) ++ [first]).zip ((rest ++ [first]) ++ []) =
          (first :: rest).zip (rest ++ [first]) ++ [first].zip [] :=
        List.zip_append (by simp)
      rw [List.append_nil, List.zip_nil_right, List.append_nil] at hLast
      rw [List.rotate_cons_succ, List.rotate_zero]
      exact hLast

/-- Rotating the vertices rotates the edges. -/
theorem edges_through_rotate (vertices : List Coordinate) (k : Nat) :
    edges (through (vertices.rotate k)) = (edges (through vertices)).rotate k := by
  calc edges (through (vertices.rotate k))
      = List.zipWith Prod.mk (vertices.rotate k) ((vertices.rotate 1).rotate k) := by
        rw [edges_through, List.zip_eq_zipWith, List.rotate_rotate, List.rotate_rotate,
          Nat.add_comm]
    _ = (vertices.zip (vertices.rotate 1)).rotate k := by
        rw [List.zip_eq_zipWith, List.zipWith_rotate_distrib _ _ _ _ (by simp)]
    _ = (edges (through vertices)).rotate k := by rw [edges_through]

/-- Passing the edges in turn gives the same answer from every start, wherever
the edges may meet the ray. -/
theorem enclosesInTurn_through_rotate (meet : Edge → Float) (vertices : List Coordinate) (k : Nat)
    (p : Coordinate) :
    enclosesInTurn meet (through (vertices.rotate k)) p =
      enclosesInTurn meet (through vertices) p := by
  have hVertices : (through (vertices.rotate k)).any (·.samePlace p) =
      (through vertices).any (·.samePlace p) := by
    rw [any_through, any_through, (List.rotate_perm vertices k).any_eq]
  have hEdges : (edges (through (vertices.rotate k))).Perm (edges (through vertices)) := by
    rw [edges_through_rotate]
    exact List.rotate_perm _ k
  rw [enclosesInTurn, enclosesInTurn, hVertices, foldl_pass_perm meet p false hEdges]

/-- A closed ring encloses the same positions from every start. This would be
so for any doubles at which its edges meet the ray. -/
theorem encloses_startingAt {ring : Ring} (hLength : 2 ≤ ring.length)
    (hClosed : ring.head? = ring.getLast?) (k : Nat) (p : Coordinate) :
    encloses (startingAt k ring) p = encloses ring p ∧
      ∀ meet : Edge → Float,
        enclosesInTurn meet (startingAt k ring) p = enclosesInTurn meet ring p := by
  have hInTurn (meet : Edge → Float) :
      enclosesInTurn meet (startingAt k ring) p = enclosesInTurn meet ring p := by
    rw [startingAt, enclosesInTurn_through_rotate, through_dropLast hLength hClosed]
  refine ⟨?_, hInTurn⟩
  rw [encloses_eq_enclosesInTurn, encloses_eq_enclosesInTurn, hInTurn]

/-- A square with one vertex more, of which it is not known how high it lies. -/
def notched : Ring :=
  [{ x := 0, y := 0 }, { x := 0, y := 4 }, { x := 2, y := absent }, { x := 4, y := 4 },
    { x := 4, y := 0 }, { x := 0, y := 0 }]

/-- The square encloses its middle, also if it starts at the vertex without a
height, where two edges meet the ray at a NaN. -/
theorem encloses_startingAt_notched :
    let middle : Coordinate := { x := 2, y := 2 }
    2 ≤ notched.length ∧ notched.head? = notched.getLast? ∧
      (startingAt 2 notched).head? = some { x := 2, y := absent } ∧
      ((edges notched).filter (straddles middle)).countP (fun e => (meetingX middle e).isNaN) = 2 ∧
      encloses notched middle = true ∧
      encloses (startingAt 2 notched) middle = encloses notched middle ∧
      ∀ meet : Edge → Float,
        enclosesInTurn meet (startingAt 2 notched) middle = enclosesInTurn meet notched middle := by
  intro middle
  have hLength : 2 ≤ notched.length := by decide
  have hClosed : notched.head? = notched.getLast? := rfl
  exact ⟨hLength, hClosed, rfl, by decide +kernel, by decide +kernel,
    encloses_startingAt hLength hClosed 2 middle⟩

end Ring

end Shapefile
