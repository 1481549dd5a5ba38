import VoxelScene.Noise.Jitter
import VoxelScene.Types.Liquid
import VoxelScene.Types.Voxel

/-!
What meshing depends on besides the cells: the types, the settings and the jitter made from them.
-/

namespace VoxelScene

/-- How the solid geometry of a chunk is laid out. -/
inductive SliceMode where
  /-- One mesh for the chunk. -/
  | whole
  /-- One mesh for each layer. -/
  | layers
deriving DecidableEq, Repr, Inhabited

structure MeshSettings where
  /-- How far a lowered corner is pulled down. -/
  rampDepth : Single := 0.5
  jitterAmplitude : Single := 0.02
  jitterSeed : UInt32 := 0x5EED
  sliceMode : SliceMode := .whole
  /-- Greatest world height that is drawn. -/
  viewLimit : Option Int := none
  /-- Columns shallower than this are puddles. -/
  puddleDepth : Nat := 32
  /-- Least foam of a puddle. -/
  puddleFoam : Single := 0.95
  /-- Texture scale of puddles. -/
  liquidScale : Single := 0.25
  /-- How many cells below a chunk count toward column depths. -/
  maxColumnScan : Nat := 64
deriving DecidableEq, Repr

structure Mesher where
  voxelTypes : VoxelCatalogue
  liquidTypes : LiquidCatalogue
  settings : MeshSettings
  jitter : Jitter

namespace Mesher

def ofSettings (noise : UInt32 → Noise.Field) (voxelTypes : VoxelCatalogue)
    (liquidTypes : LiquidCatalogue) (settings : MeshSettings) : Mesher :=
  ⟨voxelTypes, liquidTypes, settings, .ofSeed noise settings.jitterSeed settings.jitterAmplitude⟩

end Mesher

/-- The layer lies above the view limit. -/
def isLayerAbove (floor : Int) (limit : Option Int) (y : Nat) : Checked Bool :=
  match limit with
  | none => return false
  | some top => do
    let height ← Coord.add floor y
    return top < height

/-- Runs over layers from the lowest and joins what they give, up to the first layer above the view
limit. -/
def collectLayers {β : Type} (floor : Int) (limit : Option Int) (f : Nat → Checked (List β)) :
    List Nat → Checked (List β)
  | [] => return []
  | y :: ys => do
    if ← isLayerAbove floor limit y then return []
    let here ← f y
    let rest ← collectLayers floor limit f ys
    return here ++ rest

end VoxelScene
