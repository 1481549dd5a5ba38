import VoxelScene.Chunk.Dims

/-!
Chunk addresses.

The world is a lattice of chunks; an address names one of them. Addresses are ordered by x, then y,
then z. `readers` lists the chunks that hold a cell next to a given cell, the cell's own chunk first:
these are the chunks whose slopes or meshes may look at it.
-/

namespace VoxelScene

structure Address where
  x : Int
  y : Int
  z : Int
deriving DecidableEq, Repr, Inhabited

namespace Address

instance : Ord Address :=
  ⟨compareLex (compareOn Address.x) (compareLex (compareOn Address.y) (compareOn Address.z))⟩

instance : Std.TransOrd Address :=
  inferInstanceAs (Std.TransCmp (compareLex (compareOn Address.x)
    (compareLex (compareOn Address.y) (compareOn Address.z))))

instance : Std.LawfulEqOrd Address where
  eq_of_compare {a b} h := by
    obtain ⟨ax, ay, az⟩ := a
    obtain ⟨bx, byy, bz⟩ := b
    have h : compareLex (compareOn Address.x) (compareLex (compareOn Address.y)
        (compareOn Address.z)) ⟨ax, ay, az⟩ ⟨bx, byy, bz⟩ = .eq := h
    simp only [compareLex, compareOn, Ordering.then_eq_eq, Std.LawfulEqOrd.compare_eq_iff_eq] at h
    simp [h.1, h.2.1, h.2.2]

/-- The address some chunks away. -/
def offset (a : Address) (dx dy dz : Int) : Checked Address := do
  let x ← Coord.add a.x dx
  let y ← Coord.add a.y dy
  let z ← Coord.add a.z dz
  return ⟨x, y, z⟩

/-- World position of the chunk's least cell. -/
def origin (a : Address) (d : Dims) : Checked Pos := Pos.times ⟨a.x, a.y, a.z⟩ d.extent

/-- The three steps along one axis. -/
def axisSteps : List Int := [-1, 0, 1]

/-- The 26 steps to a neighbour, y outermost, x innermost. -/
def neighborSteps : List Pos :=
  (axisSteps.flatMap fun dy => axisSteps.flatMap fun dz => axisSteps.map fun dx =>
    (⟨dx, dy, dz⟩ : Pos)).filter (· ≠ ⟨0, 0, 0⟩)

/-- The 26 surrounding addresses. -/
def neighbors (a : Address) : Checked (List Address) :=
  neighborSteps.mapM fun s => a.offset s.x s.y s.z

/-- Steps along one axis from a cell's chunk to the chunks with a cell at most one away. -/
def touchedSteps (coord size : Nat) : Checked (List Int) := do
  let next ← Word.add coord 1
  return 0 :: ((if coord = 0 then [-1] else []) ++ (if next = size then [1] else []))

/-- The chunks with a cell at most one away from `l` in every axis, the chunk of `l` first. -/
def readers (a : Address) (l : Local) (d : Dims) : Checked (List Address) := do
  let xs ← touchedSteps l.x d.x
  let ys ← touchedSteps l.y d.y
  let zs ← touchedSteps l.z d.z
  let steps := ys.flatMap fun dy => zs.flatMap fun dz => xs.map fun dx => (⟨dx, dy, dz⟩ : Pos)
  steps.mapM fun s => a.offset s.x s.y s.z

end Address

end VoxelScene
