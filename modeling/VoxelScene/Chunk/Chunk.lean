import VoxelScene.Chunk.Grid

/-!
Chunks.

A chunk is a grid with the marks that tell what has to be recomputed. Its version goes up with every
change that its mesh can show; its generation tells apart two loads at one address. Two dirty bits
ask for a new mesh and for new ramp masks; the other bits are carried for callers.
-/

namespace VoxelScene

/-- Dirty bit: the mesh is out of date. -/
def meshDirty : UInt8 := 1

/-- Dirty bit: the ramp masks are out of date. -/
def rampDirty : UInt8 := 2

structure Chunk where
  grid : Grid
  dirty : UInt8
  version : Nat
  generation : Nat
deriving DecidableEq, Inhabited

namespace Chunk

/-- A chunk with these cells that has never been meshed. -/
def ofGrid (g : Grid) : Chunk := ⟨g, meshDirty ||| rampDirty, 1, 0⟩

/-- All of the given bits are set. -/
def isDirty (c : Chunk) (flags : UInt8) : Bool := c.dirty &&& flags == flags

def markDirty (c : Chunk) (flags : UInt8) : Chunk := { c with dirty := c.dirty ||| flags }

def clearDirty (c : Chunk) (flags : UInt8) : Chunk := { c with dirty := c.dirty &&& ~~~ flags }

/-- Asks for a new mesh. -/
def invalidateMesh (c : Chunk) : Chunk :=
  { c.markDirty meshDirty with version := c.version + 1 }

/-- Asks for new ramp masks and a new mesh. -/
def touch (c : Chunk) : Chunk :=
  { c.markDirty (meshDirty ||| rampDirty) with version := c.version + 1 }

/-- Writes a voxel; nothing if the cell lies outside the chunk. -/
def setVoxel? (c : Chunk) (l : Local) (v : Voxel) : Option Chunk :=
  (c.grid.setVoxel? l v).map fun g => { c with grid := g }.touch

/-- Writes a liquid cell; nothing if the cell lies outside the chunk. -/
def setLiquid? (c : Chunk) (l : Local) (x : LiquidCell) : Option Chunk :=
  (c.grid.setLiquid? l x).map fun g => { c with grid := g }.invalidateMesh

/-- Replaces the ramp masks and returns the places that changed. The mesh goes out of date only if
one did; the ramp masks are up to date either way. -/
def applyRamps (c : Chunk) (masks : Array RampMask) : List Nat × Chunk :=
  let changed := c.grid.changedRamps masks
  let written :=
    if changed.isEmpty then c else { c with grid := c.grid.withRamps masks }.invalidateMesh
  (changed, written.clearDirty rampDirty)

/-- The chunk as it enters the world in a fresh generation. -/
def enter (c : Chunk) (generation : Nat) : Chunk := { c with generation := generation }.touch

end Chunk

end VoxelScene
