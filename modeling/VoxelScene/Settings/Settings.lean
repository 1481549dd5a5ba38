import VoxelScene.Mesh.Mesher
import VoxelScene.Sprite.Batch

/-!
Settings of the program, in sections.
-/

namespace VoxelScene

inductive ViewMode where
  /-- One mesh for each chunk. -/
  | full
  /-- One mesh for each layer of a chunk. -/
  | sliced
deriving DecidableEq, Repr, Inhabited

def ViewMode.name : ViewMode → String
  | .full => "Full"
  | .sliced => "Sliced"

/-- Sizes of a chunk as they were asked for; zero is allowed here. -/
structure ChunkSize where
  x : UInt32
  y : UInt32
  z : UInt32
deriving DecidableEq, Repr

structure MeshingSection where
  chunkSize : ChunkSize := ⟨16, 16, 16⟩
  rampDepth : Single := 0.5
  jitterAmplitude : Single := 0.02
  jitterSeed : UInt32 := 0x5EED
  viewMode : ViewMode := .full
  viewLevel : Option Int32 := none
deriving DecidableEq, Repr

structure LiquidSection where
  puddleDepth : UInt32 := 32
  puddleFoam : Single := 0.95
  scale : Single := 0.25
  maxColumnScan : UInt32 := 64
deriving DecidableEq, Repr

structure SpriteSection where
  sortInterval : Single := 0.1
  cullDistance : Single := 96.0
  depthPenalty : Single := 100.0
  capacity : UInt32 := 4096
deriving DecidableEq, Repr

structure WorkerSection where
  /-- Number of workers; zero leaves the choice to the program. -/
  threads : UInt32 := 0
  inFlightBudget : UInt32 := 64
deriving DecidableEq, Repr

structure DebugSection where
  logLevel : String := "info"
  logMeshStats : Bool := false
deriving DecidableEq, Repr

structure Settings where
  meshing : MeshingSection := {}
  liquid : LiquidSection := {}
  sprites : SpriteSection := {}
  workers : WorkerSection := {}
  debug : DebugSection := {}
deriving DecidableEq, Repr

/-! ### Agreement

Two settings agree if their values are equal, numbers as numbers: the two zeros agree, and what is
not a number agrees with nothing. -/

def MeshingSection.agrees (a b : MeshingSection) : Bool :=
  a.chunkSize == b.chunkSize && a.rampDepth.beq b.rampDepth &&
    a.jitterAmplitude.beq b.jitterAmplitude && a.jitterSeed == b.jitterSeed &&
    a.viewMode == b.viewMode && a.viewLevel == b.viewLevel

def LiquidSection.agrees (a b : LiquidSection) : Bool :=
  a.puddleDepth == b.puddleDepth && a.puddleFoam.beq b.puddleFoam && a.scale.beq b.scale &&
    a.maxColumnScan == b.maxColumnScan

def SpriteSection.agrees (a b : SpriteSection) : Bool :=
  a.sortInterval.beq b.sortInterval && a.cullDistance.beq b.cullDistance &&
    a.depthPenalty.beq b.depthPenalty && a.capacity == b.capacity

def Settings.agrees (a b : Settings) : Bool :=
  a.meshing.agrees b.meshing && a.liquid.agrees b.liquid && a.sprites.agrees b.sprites &&
    a.workers == b.workers && a.debug == b.debug

/-! ### What follows from the settings -/

def ChunkSize.dims (s : ChunkSize) : Dims := .ofSizes s.x.toNat s.y.toNat s.z.toNat

def Settings.mesh (s : Settings) : MeshSettings where
  rampDepth := s.meshing.rampDepth
  jitterAmplitude := s.meshing.jitterAmplitude
  jitterSeed := s.meshing.jitterSeed
  sliceMode := match s.meshing.viewMode with
    | .full => .whole
    | .sliced => .layers
  viewLimit := s.meshing.viewLevel.map Int32.toInt
  puddleDepth := s.liquid.puddleDepth.toNat
  puddleFoam := s.liquid.puddleFoam
  liquidScale := s.liquid.scale
  maxColumnScan := s.liquid.maxColumnScan.toNat

def Settings.batch (s : Settings) (blend : BlendMode) : BatchSettings where
  capacity := s.sprites.capacity.toNat
  sortInterval := s.sprites.sortInterval
  depth := ⟨s.sprites.cullDistance, s.sprites.depthPenalty⟩
  blend := blend

end VoxelScene
