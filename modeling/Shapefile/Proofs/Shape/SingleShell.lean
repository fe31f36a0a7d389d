import Shapefile.Proofs.Shape.HolePlacement

/-! The only shell of a record takes all holes, and no hole is tested against
it. So a shell that winds the wrong way and lies elsewhere becomes its hole,
where beside a second shell it would have become a polygon of its own. -/
namespace Shapefile.Polygon

/-- Holes that the shell admits are placed in it. -/
theorem ofShellsAndHoles_of_admits {shell : Ring} {holes : List Ring}
    (hAdmits : ∀ hole ∈ holes, Ring.admits shell hole = true) :
    ofShellsAndHoles [shell] holes = [⟨shell, holes⟩] := by
  have hOwner : ∀ hole ∈ holes, owner? ([] ++ [⟨shell, []⟩]) hole = some 0 := by
    intro hole hHole
    rcases owner?_concat [] ⟨shell, []⟩ hole with ⟨hTaken, _⟩ | ⟨_, hFree⟩
    · exact hTaken
    · have hOutside := hFree (owner?_nil hole)
      rw [hAdmits hole hHole] at hOutside
      cases hOutside
  exact foldl_placeHole_owned hOwner []

/-- A shell that ends up with a hole admits it. -/
theorem admits_of_ofShellsAndHoles {shell : Ring} {holes : List Ring}
    (hTaken : ofShellsAndHoles [shell] holes = [⟨shell, holes⟩]) :
    ∀ hole ∈ holes, Ring.admits shell hole = true := by
  intro hole hHole
  have hPlaced := placed_ofShellsAndHoles [shell] holes
  rw [hTaken] at hPlaced
  obtain ⟨_, hOwner⟩ := hPlaced.owned 0 ⟨shell, holes⟩ hole rfl hHole
  obtain ⟨p, hAt, hAdmits⟩ := admits_of_owner? hOwner
  cases hAt
  exact hAdmits

/-- Rings are put together as placing every hole in turn does it, unless there
is one shell only and a hole that this shell does not admit. -/
theorem assemble_eq_ofShellsAndHoles_iff (rings : List Ring) :
    assemble rings = ofShellsAndHoles (shellsIn rings) (holesIn rings) ↔
      ∀ shell, shellsIn rings = [shell] → ∀ hole ∈ holesIn rings,
        Ring.admits shell hole = true := by
  constructor
  · intro hSame shell hSingle
    rw [assemble_of_shellsIn hSingle, hSingle] at hSame
    exact admits_of_ofShellsAndHoles hSame.symm
  · intro hAdmits
    by_cases hLength : (shellsIn rings).length = 1
    · obtain ⟨shell, hSingle⟩ := List.length_eq_one_iff.mp hLength
      rw [assemble_of_shellsIn hSingle, hSingle,
        ofShellsAndHoles_of_admits (hAdmits shell hSingle)]
    · exact assemble_of_length_shellsIn hLength

/-- A square, clockwise. -/
def square : Ring :=
  [{ x := 0, y := 0 }, { x := 0, y := 4 }, { x := 4, y := 4 }, { x := 4, y := 0 },
    { x := 0, y := 0 }]

/-- A triangle outside the square, counter-clockwise. -/
def island : Ring :=
  [{ x := 8, y := 8 }, { x := 9, y := 8 }, { x := 8, y := 9 }, { x := 8, y := 8 }]

/-- The triangle becomes a hole of the square, where placing holes in turn
makes it a polygon of its own. -/
theorem island_becomes_hole :
    shellsIn [square, island] = [square] ∧ (∀ ring ∈ [square, island], 4 ≤ ring.length) ∧
      assemble [square, island] = [⟨square, [island]⟩] ∧
      ofShellsAndHoles [square] [island] = [⟨square, []⟩, ⟨island.reverse, []⟩] := by
  have hShells : shellsIn [square, island] = [square] := by decide +kernel
  have hHoles : holesIn [square, island] = [island] := by decide +kernel
  refine ⟨hShells, by decide, ?_, by decide +kernel⟩
  rw [assemble_of_shellsIn hShells, hHoles]

end Shapefile.Polygon
