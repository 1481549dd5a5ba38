import Std.Data.ExtTreeMap
import VoxelScene.Chunk.Address
import VoxelScene.Chunk.Chunk
import VoxelScene.World.Query

/-!
The world of loaded chunks.

All chunks of a world have one size. A change to a cell touches every loaded chunk that has a cell
next to it, since slopes and faces look one cell around; a change of liquid also sends the mesh of
the chunk above out of date, since its column depths start here. Loading and unloading touch all
loaded neighbours.
-/

namespace VoxelScene

structure World where
  dims : Dims
  chunks : Std.ExtTreeMap Address Chunk
  nextGeneration : Nat

namespace World

/-- A world with no chunk loaded. -/
def empty (d : Dims) : World := ⟨d, ∅, 1⟩

instance : Inhabited World := ⟨empty default⟩

def chunk? (w : World) (a : Address) : Option Chunk := w.chunks[a]?

def isLoaded (w : World) (a : Address) : Bool := (w.chunk? a).isSome

/-- Replaces the chunk at an address, if one is loaded. -/
def modifyChunk (w : World) (a : Address) (f : Chunk → Chunk) : World :=
  { w with chunks := w.chunks.modify a f }

/-- Touches the loaded ones among the listed chunks. -/
def touchAll (w : World) (as : List Address) : World :=
  as.foldl (fun w a => w.modifyChunk a Chunk.touch) w

/-- Clears dirty bits of every chunk. -/
def clearDirty (w : World) (flags : UInt8) : World :=
  { w with chunks := w.chunks.map fun _ c => c.clearDirty flags }

/-- Puts a chunk into the world in a fresh generation, in place of any chunk at the address. Nothing
happens if the chunk has another size than the world's. -/
def load (w : World) (a : Address) (c : Chunk) : Checked (Option World) := do
  if c.grid.dims ≠ w.dims then return none
  let entered : World :=
    ⟨w.dims, w.chunks.insert a (c.enter w.nextGeneration), w.nextGeneration + 1⟩
  return some (entered.touchAll (← a.neighbors))

/-- Takes a chunk out of the world. -/
def unload (w : World) (a : Address) : Checked (Option (Chunk × World)) :=
  match w.chunk? a with
  | none => return none
  | some c => do
    let left : World := { w with chunks := w.chunks.erase a }
    return some (c, left.touchAll (← a.neighbors))

/-- The chunk and the cell of it at a position. -/
def locate (w : World) (p : Pos) : Checked (Address × Local) := do
  let (q, r) ← p.quotRem w.dims.extent
  return (⟨q.x, q.y, q.z⟩, ⟨r.x.toNat, r.y.toNat, r.z.toNat⟩)

/-- Writes a voxel; nothing happens where no chunk is loaded. -/
def setVoxel (w : World) (p : Pos) (v : Voxel) : Checked (Option World) := do
  let (a, l) ← w.locate p
  if !w.isLoaded a then return none
  let written := w.modifyChunk a fun c => (c.setVoxel? l v).getD c
  let readers ← a.readers l w.dims
  return some (written.touchAll (readers.drop 1))

/-- Writes a liquid cell; nothing happens where no chunk is loaded. -/
def setLiquid (w : World) (p : Pos) (x : LiquidCell) : Checked (Option World) := do
  let (a, l) ← w.locate p
  if !w.isLoaded a then return none
  let written := w.modifyChunk a fun c => (c.setLiquid? l x).getD c
  let readers ← a.readers l w.dims
  let above ← a.offset 0 1 0
  return some ((written.touchAll (readers.drop 1)).modifyChunk above Chunk.invalidateMesh)

/-- Addresses of the chunks with all the given dirty bits set, in order. -/
def dirtyAddresses (w : World) (flags : UInt8) : List Address :=
  (w.chunks.toList.filter fun e => e.2.isDirty flags).map (·.1)

def voxelAt (w : World) (p : Pos) : Checked (Option Voxel) := do
  let (a, l) ← w.locate p
  return (w.chunk? a).map fun c => c.grid.voxel l

def liquidAt (w : World) (p : Pos) : Checked (Option LiquidCell) := do
  let (a, l) ← w.locate p
  return (w.chunk? a).map fun c => c.grid.liquid l

/-- The live world as a query. -/
def query (w : World) : Query := ⟨w.voxelAt, w.liquidAt⟩

end World

end VoxelScene
