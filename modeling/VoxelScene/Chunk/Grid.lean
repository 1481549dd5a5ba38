import VoxelScene.Cell.Liquid
import VoxelScene.Cell.Voxel
import VoxelScene.Chunk.Dims
import VoxelScene.Number.Digest

/-!
Cells of one chunk.

A grid holds a voxel and a liquid cell at every place of its box. Reading outside the box gives no
cell; writing outside it does nothing.
-/

namespace VoxelScene

structure Grid where
  dims : Dims
  voxels : Array Voxel
  liquids : Array LiquidCell
  voxels_size : voxels.size = dims.volume
  liquids_size : liquids.size = dims.volume
deriving DecidableEq

namespace Grid

/-- A dry grid with one voxel everywhere. -/
def filled (d : Dims) (v : Voxel) : Grid where
  dims := d
  voxels := Array.replicate d.volume v
  liquids := Array.replicate d.volume .dry
  voxels_size := Array.size_replicate
  liquids_size := Array.size_replicate

/-- The grid with the listed cells, in storage order; cells that are not listed are empty and dry. -/
def ofCells (d : Dims) (cells : Array (Voxel × LiquidCell)) : Grid where
  dims := d
  voxels := Array.ofFn fun i : Fin d.volume => (cells[i.val]?.map (·.1)).getD .empty
  liquids := Array.ofFn fun i : Fin d.volume => (cells[i.val]?.map (·.2)).getD .dry
  voxels_size := Array.size_ofFn
  liquids_size := Array.size_ofFn

/-- Bytes of a voxel in storage. -/
def voxelBytes : Nat := 36

/-- Storage for the cells of a grid; a liquid cell takes less than a voxel. -/
def reserve (d : Dims) : Checked Nat := do
  Word.below Word.pieceBound .capacityOverflow (voxelBytes * (← d.checkedVolume))

/-- An empty, dry grid. -/
def blank (d : Dims) : Grid := filled d .empty

instance : Inhabited Grid := ⟨blank default⟩

def voxel? (g : Grid) (l : Local) : Option Voxel :=
  if g.dims.Holds l then g.voxels[g.dims.index l]? else none

def liquid? (g : Grid) (l : Local) : Option LiquidCell :=
  if g.dims.Holds l then g.liquids[g.dims.index l]? else none

/-- The voxel of a cell, empty outside the box. -/
def voxel (g : Grid) (l : Local) : Voxel := (g.voxel? l).getD .empty

/-- The liquid of a cell, dry outside the box. -/
def liquid (g : Grid) (l : Local) : LiquidCell := (g.liquid? l).getD .dry

/-- The grid with one voxel replaced; the same grid if the cell lies outside the box. -/
def setVoxel (g : Grid) (l : Local) (v : Voxel) : Grid :=
  if g.dims.Holds l then
    match g with
    | ⟨d, voxels, liquids, hv, hl⟩ =>
      ⟨d, voxels.setIfInBounds (d.index l) v, liquids, by rw [Array.size_setIfInBounds, hv], hl⟩
  else g

/-- The grid with one liquid cell replaced; the same grid if the cell lies outside the box. -/
def setLiquid (g : Grid) (l : Local) (c : LiquidCell) : Grid :=
  if g.dims.Holds l then
    match g with
    | ⟨d, voxels, liquids, hv, hl⟩ =>
      ⟨d, voxels, liquids.setIfInBounds (d.index l) c, hv, by rw [Array.size_setIfInBounds, hl]⟩
  else g

/-- As `setVoxel`, but nothing if the cell lies outside the box. -/
def setVoxel? (g : Grid) (l : Local) (v : Voxel) : Option Grid :=
  if g.dims.Holds l then some (g.setVoxel l v) else none

/-- As `setLiquid`, but nothing if the cell lies outside the box. -/
def setLiquid? (g : Grid) (l : Local) (c : LiquidCell) : Option Grid :=
  if g.dims.Holds l then some (g.setLiquid l c) else none

/-- The grid with a voxel written to every cell of the box between two cells, both included. -/
def fillVoxel (g : Grid) (lo hi : Local) (v : Voxel) : Grid :=
  (Local.box lo hi).foldl (fun g l => g.setVoxel l v) g

/-- The grid with a liquid written to every cell of the box between two cells, both included. -/
def fillLiquid (g : Grid) (lo hi : Local) (c : LiquidCell) : Grid :=
  (Local.box lo hi).foldl (fun g l => g.setLiquid l c) g

/-- Every voxel is of the empty kind. -/
def isEmpty (g : Grid) : Bool := g.voxels.all Voxel.isEmpty

/-- Liquid types with a wet cell, in ascending order. -/
def liquidTypes (g : Grid) : List UInt8 :=
  let seen := g.liquids.foldl (fun ts c =>
    if c.isWet && !ts.contains c.liquid then c.liquid :: ts else ts) []
  ((List.range 256).map UInt8.ofNat).filter seen.contains

/-- The grid with the ramp masks replaced, in storage order; masks beyond the grid and voxels
beyond the masks are left alone. -/
def withRamps (g : Grid) (masks : Array RampMask) : Grid where
  dims := g.dims
  voxels := g.voxels.mapIdx fun i v => { v with ramp := masks[i]?.getD v.ramp }
  liquids := g.liquids
  voxels_size := by rw [Array.size_mapIdx, g.voxels_size]
  liquids_size := g.liquids_size

/-- Places whose ramp mask differs from the listed one. -/
def changedRamps (g : Grid) (masks : Array RampMask) : List Nat :=
  ((g.voxels.toList.zip masks.toList).zipIdx.filter fun e => e.1.1.ramp ≠ e.1.2).map (·.2)

/-- Digest of every cell: voxels in storage order, then liquid cells. -/
def digest (g : Grid) : Digest :=
  let ofVoxel (d : Digest) (v : Voxel) : Digest :=
    v.colors.foldl (fun d c => (((d.byte c.r).byte c.g).byte c.b).byte c.a)
      (((d.word16 v.kind).flag v.visible).byte v.ramp.bits)
  let ofLiquid (d : Digest) (c : LiquidCell) : Digest :=
    ((((d.byte c.liquid).byte c.level).byte c.flowX.toUInt8).byte c.flowZ.toUInt8).flag c.falling
  g.liquids.foldl ofLiquid (g.voxels.foldl ofVoxel .start)

@[simp] theorem dims_setVoxel (g : Grid) (l : Local) (v : Voxel) :
    (g.setVoxel l v).dims = g.dims := by
  unfold setVoxel
  split <;> rfl

@[simp] theorem dims_setLiquid (g : Grid) (l : Local) (c : LiquidCell) :
    (g.setLiquid l c).dims = g.dims := by
  unfold setLiquid
  split <;> rfl

end Grid

end VoxelScene
