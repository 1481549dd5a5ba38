import VoxelScene.Types.Voxel
import VoxelScene.World.World

/-!
Slopes.

A voxel of a kind that may slope, with nothing solid on top of it, lowers each top corner that has
open space at one of the three cells around that corner. Cells in chunks that are not loaded are not
open, so the edge of the loaded world stays flat. A mask depends on which cells occlude and on
nothing else; in particular not on other masks.
-/

namespace VoxelScene

namespace Query

/-- The voxel takes part in sloping. -/
def isSlopable (q : Query) (types : VoxelCatalogue) (p : Pos) (v : Voxel) : Checked Bool := do
  if !(v.occludes && VoxelCatalogue.isRampCapable types v.kind) then return false
  let above ← q.voxelAt (← p.plus .up)
  return above.all fun a => !a.occludes

/-- Some cell around this top corner, at the same height, is open. -/
def isCornerOpen (q : Query) (p : Pos) (c : TopCorner) : Checked Bool :=
  Checked.any (fun s => do q.isOpenAt (← p.plus s))
    [⟨c.stepX, 0, 0⟩, ⟨0, 0, c.stepZ⟩, ⟨c.stepX, 0, c.stepZ⟩]

/-- Corners with open space around them. -/
def openCorners (q : Query) (p : Pos) : Checked RampMask := do
  let corners ← Checked.select (q.isCornerOpen p) TopCorner.all
  return corners.foldl RampMask.lower .none

/-- The mask that a voxel should have. -/
def rampAt (q : Query) (types : VoxelCatalogue) (p : Pos) (v : Voxel) : Checked RampMask := do
  if ← q.isSlopable types p v then return (← q.openCorners p).normalized
  return .none

/-- The masks that the voxels of a grid at `origin` should have, in storage order. -/
def rampsOf (q : Query) (types : VoxelCatalogue) (origin : Pos) (g : Grid) :
    Checked (List RampMask) :=
  g.dims.cells.mapM fun l => do
    q.rampAt types (← origin.plus l.toPos) (g.voxel l)

end Query

/-- What one ramp pass over a chunk did. -/
structure RampReport where
  /-- Voxels whose mask changed. -/
  changed : Nat
  /-- Loaded neighbours whose mesh went out of date. -/
  neighbors : Nat
deriving DecidableEq, Repr

namespace World

/-- Sends the meshes of the loaded ones among the listed chunks out of date. -/
def invalidateAll (w : World) (as : List Address) : World :=
  as.foldl (fun w a => w.modifyChunk a Chunk.invalidateMesh) w

/-- Recomputes the ramp masks of one chunk. Chunks next to a changed voxel compare its mask with
theirs, so their meshes go out of date. -/
def resolveRamps (w : World) (types : VoxelCatalogue) (a : Address) :
    Checked (Option (RampReport × World)) := do
  let origin ← a.origin w.dims
  match w.chunk? a with
  | none => return none
  | some c =>
    let masks ← w.query.rampsOf types origin c.grid
    let (changed, c') := c.applyRamps masks.toArray
    let readers ← changed.mapM fun i => return (← a.readers (w.dims.position i) w.dims).drop 1
    let others := readers.flatten.eraseDups.filter w.isLoaded
    let written := w.modifyChunk a fun _ => c'
    return some (⟨changed.length, others.length⟩, written.invalidateAll others)

/-- Recomputes the ramp masks of every chunk that asks for it; also counts these chunks. -/
def resolveDirtyRamps (w : World) (types : VoxelCatalogue) : Checked (Nat × World) := do
  let dirty := w.dirtyAddresses rampDirty
  let w' ← dirty.foldlM (fun w a => do
    return ((← w.resolveRamps types a).map (·.2)).getD w) w
  return (dirty.length, w')

end World

end VoxelScene
