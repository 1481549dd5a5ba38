import VoxelScene.Demo.Grove
import VoxelScene.Demo.Report
import VoxelScene.Noise.Stream
import VoxelScene.World.Ramp

/-!
A run of the demo.

The world is built, its slopes are found and its chunks are meshed. Then a trench is dug across the
first chunk border, and what it changed is meshed anew. Last, trees and tufts are planted. What was
reported before a run stops is kept.
-/

namespace VoxelScene

/-- Why a run stopped. -/
inductive RunError where
  | fault (f : Fault)
  | types (e : TypeError)
  | species (e : SpeciesError)
deriving DecidableEq, Repr

def RunError.message : RunError → String
  | .fault f => f.message
  | .types e => s!"world setup failed: {e.message}"
  | .species e => s!"billboard setup failed: {e.message}"

/-- A run with its reports so far. -/
abbrev RunM := ExceptT RunError (StateM (List Report))

namespace RunM

def ofExcept {ε α : Type} (f : ε → RunError) (x : Except ε α) : RunM α :=
  ExceptT.mk (pure (x.mapError f))

instance : MonadLift (Except Fault) RunM := ⟨ofExcept .fault⟩

def report (r : Report) : RunM Unit := modify (· ++ [r])

end RunM

/-! ### Meshing -/

/-- A world with its meshes and those who make them. -/
structure Workshop where
  world : World
  store : Store
  pipeline : Pipeline

namespace Workshop

/-- Asks for all builds that are due, waits for them and publishes them. Also says whether there was
nothing left to do. -/
def round (x : Workshop) : Checked (Bool × Workshop) := do
  let pass ← x.store.schedule x.world x.pipeline
  let (_, store, pipeline) := pass.store.collect pass.world (← pass.pipeline.runAll)
  let settled := pass.report.submitted = 0 && pass.report.deferred = 0 && store.inFlightCount = 0
  return (settled, ⟨pass.world, store, pipeline⟩)

/-- Rounds until there is nothing left to do, but `fuel` at most. -/
def settleWithin : (fuel : Nat) → Workshop → Checked Workshop
  | 0, x => return x
  | fuel + 1, x => do
    let (settled, x) ← x.round
    if settled then return x else x.settleWithin fuel

/-- Meshes all chunks that are out of date. Each round but the last finishes a chunk at least. -/
def settle (x : Workshop) : Checked Workshop := x.settleWithin (x.world.chunks.size + 2)

end Workshop

/-! ### The trench -/

/-- Takes away the ground at the top of a column, three voxels deep. -/
def Terrain.dig (t : Terrain) (z : Int) (w : World) (x : Int) : Checked World := do
  let top ← t.height x z
  let low ← Coord.sub top 2
  (List.range 3).foldlM (fun w (i : Nat) => return (← w.setVoxel ⟨x, low + i, z⟩ .empty).getD w) w

/-- Digs across the border between the first two chunks. -/
def Terrain.trench (t : Terrain) (size : ChunkSize) (w : World) : Checked World := do
  let border := Coord.ofWord size.x.toNat
  let z := (Coord.ofWord size.z.toNat).tdiv 2
  [-2, -1, 0, 1].foldlM (fun w step => do t.dig z w (← Coord.add border step)) w

/-! ### The run -/

/-- Height of the world, enough for the pond and some ground above it. -/
def ChunkSize.maxHeight (s : ChunkSize) : Checked Int :=
  return max (← Coord.mul Terrain.chunksUp (Coord.ofWord s.y.toNat)) (Terrain.pondLevel + 4)

/-- The middle of the world's floor. -/
def ChunkSize.center (s : ChunkSize) : Checked Vec3 := do
  let x ← Coord.mul Terrain.chunksAcross (Coord.ofWord s.x.toNat)
  let z ← Coord.mul Terrain.chunksAcross (Coord.ofWord s.z.toNat)
  return (⟨.ofInt x, .zero, .ofInt z⟩ : Vec3).scale .half

namespace Settings

/-- Plants the grove and draws the frames. -/
def runGrove (s : Settings) (points : List Pos) (center : Vec3) : RunM Unit := do
  let g ← RunM.ofExcept .species (Grove.create s)
  let g := (g.play (Grove.standardTurns Noise.Stream points center)).finish (Grove.lastCamera center)
  let (species, live, visible) := g.table.stats
  RunM.report (.sprites species live g.planted.size visible g.sorts)

/-- The whole run. -/
def runDemo (s : Settings) : RunM Unit := do
  let size := s.meshing.chunkSize
  let d := size.dims
  let terrain := Terrain.ofSeed s.meshing.jitterSeed (← size.maxHeight)
  let built ← (terrain.world d).run
  let w ← RunM.ofExcept .types built
  RunM.report (.built w.chunks.size d)
  let (ramped, w) ← w.resolveDirtyRamps Palette.voxels
  RunM.report (.ramps ramped)
  let mesher := Mesher.ofSettings Noise.simplex Palette.voxels Palette.liquids s.mesh
  let pipeline := Pipeline.start s.workers.threads.toNat s.workers.inFlightBudget.toNat mesher
  let x ← (⟨w, .empty, pipeline⟩ : Workshop).settle
  RunM.report (.meshed x.store.counts)
  let before := x.store.quadCount
  let dug ← terrain.trench size x.world
  let (resloped, w) ← dug.resolveDirtyRamps Palette.voxels
  let x ← ({ x with world := w } : Workshop).settle
  RunM.report (.trench resloped before x.store.quadCount)
  s.runGrove (← terrain.surfacePoints d) (← size.center)

end Settings

end VoxelScene
