import VoxelScene.Demo.Terrain
import VoxelScene.Noise.Source
import VoxelScene.Settings.Settings
import VoxelScene.Sprite.Species

/-!
Trees and tufts on the ground.

A producer plants sprites on some of the surface points and fells every fifth tree after that. Its
changes only queue up. Frames are drawn meanwhile, in any order with the producer's acts; each takes
what is queued by then. When the producer is done, the visible sprites are chosen once more.
-/

namespace VoxelScene

inductive PlantKind where
  | tree
  | tuft
deriving DecidableEq, Repr

def PlantKind.species : PlantKind → String
  | .tree => "tree"
  | .tuft => "tuft"

/-- A sprite to be planted. -/
structure Plant where
  kind : PlantKind
  placement : Placement
  tint : Vec4
deriving DecidableEq, Repr

/-- What the producer does next. -/
inductive Act where
  | plant (p : Plant)
  /-- Fells a tree, by its number among all that were planted. -/
  | fell (n : Nat)
deriving DecidableEq, Repr

namespace Plant

variable {σ : Type} [Noise.Draws σ]

/-- Decides what grows at a place: a tree, or else a tuft, or nothing. -/
def decide? (s : σ) (p : Pos) : Option Plant × σ :=
  let base := p.toVec3.add ⟨.half, .zero, .half⟩
  let (isTree, s) := Noise.Draws.chance 0.08 s
  if isTree then
    let (scale, s) := Noise.Draws.between 2.0 4.0 s
    (some ⟨.tree, .scaledAt scale base, .ones⟩, s)
  else
    let (isTuft, s) := Noise.Draws.chance 0.3 s
    if isTuft then
      let (shade, s) := Noise.Draws.between 0.7 1.0 s
      (some ⟨.tuft, .standingAt base, ⟨shade, .one, shade, .one⟩⟩, s)
    else (none, s)

/-- What grows at the given places. -/
def decideAll : σ → List Pos → List Plant
  | _, [] => []
  | s, p :: rest =>
    let (plant, s) := decide? s p
    plant.toList ++ decideAll s rest

end Plant

namespace Act

/-- All that the producer does: it plants, then it fells every fifth tree. -/
def plan (σ : Type) [Noise.Draws σ] (points : List Pos) : List Act :=
  let plants := Plant.decideAll (Noise.Draws.ofSeed 42 : σ) points
  let trees := plants.countP fun p => p.kind = .tree
  plants.map .plant ++ ((List.range trees).filter fun n => n % 5 = 0).map .fell

end Act

structure Grove where
  table : SpeciesTable
  trees : Spawner
  tufts : Spawner
  /-- Ids of the trees that were planted, in order. -/
  planted : Array Nat
  /-- Sorts of a batch that were done in frames. -/
  sorts : Nat

/-- Either the producer acts or a frame is drawn. -/
inductive Turn where
  | act (a : Act)
  | frame (c : Camera)

namespace Grove

/-- Time between two frames. -/
def frameTime : Single := .one / 30.0

/-- No plants yet. -/
def create (s : Settings) : Except SpeciesError Grove := do
  let t ← SpeciesTable.empty.register PlantKind.tree.species (s.batch .alpha)
  let t ← t.register PlantKind.tuft.species (s.batch .replace)
  let spawner (k : PlantKind) : Spawner := (t.spawner? k.species).getD ⟨k.species, 0⟩
  return ⟨t, spawner .tree, spawner .tuft, #[], 0⟩

def spawner (g : Grove) : PlantKind → Spawner
  | .tree => g.trees
  | .tuft => g.tufts

/-- The producer acts: changes are queued. -/
def act (g : Grove) : Act → Grove
  | .plant p =>
    let (id, t) := g.table.spawnVia (g.spawner p.kind) p.placement p.tint
    { g with table := t, planted := if p.kind = .tree then g.planted.push id else g.planted }
  | .fell n =>
    match g.planted[n]? with
    | some id => { g with table := g.table.sendVia g.trees (.remove id) }
    | none => g

/-- A frame is drawn. -/
def frame (g : Grove) (c : Camera) : Grove :=
  let (sorted, t) := g.table.update c frameTime
  { g with table := t, sorts := g.sorts + sorted }

def turn (g : Grove) : Turn → Grove
  | .act a => g.act a
  | .frame c => g.frame c

def play (g : Grove) (ts : List Turn) : Grove := ts.foldl turn g

/-- Chooses the visible sprites once more. -/
def finish (g : Grove) (c : Camera) : Grove :=
  { g with table := (g.table.refresh PlantKind.tree.species c).refresh PlantKind.tuft.species c }

/-! ### Cameras -/

/-- Number of frames. -/
def frames : Nat := 30

/-- A full turn, in radians. -/
def fullTurn : Single := ⟨0x40c90fdb⟩

/-- The camera of a frame: it goes round the center and looks at it. -/
def camera (center : Vec3) (n : Nat) : Camera :=
  let angle := Single.ofNat n / Single.ofNat frames * fullTurn
  let position := center.add ⟨angle.cos * 20.0, 18.0, angle.sin * 20.0⟩
  .looking position (center.sub position)

/-- The camera after the last frame. -/
def lastCamera (center : Vec3) : Camera :=
  .looking (center.add ⟨.zero, 18.0, 20.0⟩) ⟨.zero, .zero, -.one⟩

/-- The producer is done before the first frame. -/
def standardTurns (σ : Type) [Noise.Draws σ] (points : List Pos) (center : Vec3) : List Turn :=
  (Act.plan σ points).map .act ++ ((List.range frames).map (camera center)).map .frame

end Grove

end VoxelScene
