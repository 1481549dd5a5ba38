import VoxelScene.Number.Coord
import VoxelScene.Number.Digest

/-!
World positions.

A position names one cell of the world, or a step between two cells. Sums and differences are taken
along x, then y, then z, and stop at the first coordinate that leaves its word.
-/

namespace VoxelScene

/-- A cell of the world, or a step between cells. -/
structure Pos where
  x : Int
  y : Int
  z : Int
deriving DecidableEq, Repr, Inhabited

namespace Pos

/-- Every coordinate fits its word. -/
def Fits (p : Pos) : Prop := Coord.Fits p.x ∧ Coord.Fits p.y ∧ Coord.Fits p.z

instance (p : Pos) : Decidable p.Fits := inferInstanceAs (Decidable (_ ∧ _))

/-- The step to the cell above. -/
def up : Pos := ⟨0, 1, 0⟩

/-- The position one step `d` away. -/
@[inline] def plus (p d : Pos) : Checked Pos := do
  let x ← Coord.add p.x d.x
  let y ← Coord.add p.y d.y
  let z ← Coord.add p.z d.z
  return ⟨x, y, z⟩

/-- The step that leads from `d` to `p`. -/
@[inline] def minus (p d : Pos) : Checked Pos := do
  let x ← Coord.sub p.x d.x
  let y ← Coord.sub p.y d.y
  let z ← Coord.sub p.z d.z
  return ⟨x, y, z⟩

/-- Coordinatewise product. -/
@[inline] def times (p d : Pos) : Checked Pos := do
  let x ← Coord.mul p.x d.x
  let y ← Coord.mul p.y d.y
  let z ← Coord.mul p.z d.z
  return ⟨x, y, z⟩

/-- Coordinatewise Euclidean quotient and remainder; the remainders are not negative. -/
@[inline] def quotRem (p d : Pos) : Checked (Pos × Pos) := do
  let x ← Coord.quot p.x d.x
  let y ← Coord.quot p.y d.y
  let z ← Coord.quot p.z d.z
  return (⟨x, y, z⟩, ⟨p.x % d.x, p.y % d.y, p.z % d.z⟩)

theorem plus_eq_ok_iff {p d r : Pos} :
    p.plus d = .ok r ↔ r = ⟨p.x + d.x, p.y + d.y, p.z + d.z⟩ ∧ r.Fits := by
  by_cases hx : Coord.Fits (p.x + d.x) <;> by_cases hy : Coord.Fits (p.y + d.y) <;>
    by_cases hz : Coord.Fits (p.z + d.z) <;>
    simp only [plus, Coord.add, Coord.guarded, hx, hy, hz, if_true, if_false, bind, Except.bind,
      pure, Except.pure, Except.ok.injEq, reduceCtorEq, false_iff, not_and] <;>
    first
    | (constructor
       · rintro rfl
         exact ⟨rfl, hx, hy, hz⟩
       · rintro ⟨rfl, -⟩
         rfl)
    | (rintro rfl ⟨h1, h2, h3⟩
       contradiction)

end Pos

/-- Digest of the coordinates of all positions, in order. -/
def Digest.positions (ps : List Pos) : Digest :=
  ps.foldl (fun d p => ((d.coord p.x).coord p.y).coord p.z) .start

end VoxelScene
