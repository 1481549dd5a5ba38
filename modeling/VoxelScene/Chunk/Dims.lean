import VoxelScene.Geometry.Pos
import VoxelScene.Number.Word

/-!
Chunk sizes and storage order.

A chunk is a box of cells with at least one cell along each axis. Cells are stored layer by layer:
y is outermost, then z, then x. `index` and `position` go between a local cell and its place in
storage; the checked forms do the same arithmetic in storage words.
-/

namespace VoxelScene

/-- A cell of a chunk, counted from the chunk's least corner. -/
@[ext]
structure Local where
  x : Nat
  y : Nat
  z : Nat
deriving DecidableEq, Repr, Inhabited

/-- The local cell at a position that has no negative coordinate. -/
def Pos.toLocal? (p : Pos) : Option Local :=
  if 0 ≤ p.x ∧ 0 ≤ p.y ∧ 0 ≤ p.z then some ⟨p.x.toNat, p.y.toNat, p.z.toNat⟩ else none

def Local.toPos (l : Local) : Pos := ⟨l.x, l.y, l.z⟩

/-- The cells from one to another, both included. -/
def Local.box (lo hi : Local) : List Local :=
  (List.range' lo.y (hi.y + 1 - lo.y)).flatMap fun y =>
    (List.range' lo.z (hi.z + 1 - lo.z)).flatMap fun z =>
      (List.range' lo.x (hi.x + 1 - lo.x)).map fun x => ⟨x, y, z⟩

/-- Number of cells along each axis. -/
structure Dims where
  x : Nat
  y : Nat
  z : Nat
  x_pos : 0 < x := by omega
  y_pos : 0 < y := by omega
  z_pos : 0 < z := by omega
deriving DecidableEq, Repr

namespace Dims

/-- A size of zero counts as one. -/
def ofSizes (x y z : Nat) : Dims where
  x := max x 1
  y := max y 1
  z := max z 1

def cube (size : Nat) : Dims := ofSizes size size size

/-- The usual size of a chunk. -/
def standard : Dims := cube 16

instance : Inhabited Dims := ⟨standard⟩

def volume (d : Dims) : Nat := d.x * d.y * d.z

/-- The volume as a storage word. -/
def checkedVolume (d : Dims) : Checked Nat := do
  Word.mul (← Word.mul d.x d.y) d.z

/-- The sizes as coordinates; only the low 32 bits of each count. -/
def extent (d : Dims) : Pos := ⟨Coord.ofWord d.x, Coord.ofWord d.y, Coord.ofWord d.z⟩

/-- The cell lies inside the box. -/
def Holds (d : Dims) (l : Local) : Prop := l.x < d.x ∧ l.y < d.y ∧ l.z < d.z

instance (d : Dims) (l : Local) : Decidable (d.Holds l) := inferInstanceAs (Decidable (_ ∧ _))

/-- The position, counted from the least corner, lies inside the box. -/
def contains (d : Dims) (p : Pos) : Bool := p.toLocal?.any fun l => decide (d.Holds l)

/-- Place of a cell in storage. -/
def index (d : Dims) (l : Local) : Nat := l.x + d.x * (l.z + d.z * l.y)

/-- The place of a cell, computed in storage words; the cell may lie outside the box. -/
def checkedIndex (d : Dims) (l : Local) : Checked Nat := do
  let layer ← Word.mul d.z l.y
  let row ← Word.add l.z layer
  Word.add l.x (← Word.mul d.x row)

/-- The cell at a place in storage. -/
def position (d : Dims) (i : Nat) : Local := ⟨i % d.x, i / (d.x * d.z), i / d.x % d.z⟩

/-- The cell at a place, computed in storage words. -/
def checkedPosition (d : Dims) (i : Nat) : Checked Local := do
  let _ ← Word.mul d.x d.z
  return d.position i

/-- The cells of one layer in storage order. -/
def layer (d : Dims) (y : Nat) : List Local :=
  (List.range d.z).flatMap fun z => (List.range d.x).map fun x => ⟨x, y, z⟩

/-- All cells in storage order. -/
def cells (d : Dims) : List Local := (List.range d.y).flatMap d.layer

theorem mem_layer {d : Dims} {y : Nat} {l : Local} :
    l ∈ d.layer y ↔ l.x < d.x ∧ l.z < d.z ∧ l.y = y := by
  obtain ⟨lx, ly, lz⟩ := l
  simp only [layer, List.mem_flatMap, List.mem_map, List.mem_range, Local.mk.injEq]
  constructor
  · rintro ⟨z, hz, x, hx, rfl, rfl, rfl⟩
    exact ⟨hx, hz, rfl⟩
  · rintro ⟨hx, hz, rfl⟩
    exact ⟨lz, hz, lx, hx, rfl, rfl, rfl⟩

theorem mem_cells {d : Dims} {l : Local} : l ∈ d.cells ↔ d.Holds l := by
  simp only [cells, List.mem_flatMap, List.mem_range, mem_layer, Holds]
  constructor
  · rintro ⟨y, hy, hx, hz, rfl⟩
    exact ⟨hx, hy, hz⟩
  · rintro ⟨hx, hy, hz⟩
    exact ⟨l.y, hy, hx, hz, rfl⟩

end Dims

end VoxelScene
