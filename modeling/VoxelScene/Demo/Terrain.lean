import VoxelScene.Demo.Palette
import VoxelScene.Noise.Simplex
import VoxelScene.World.World

/-!
The demo world.

The ground is stone under one layer of grass, with a height that follows smooth noise. Low ground is
flooded up to the pond level. At one column stands a pillar of stone, and water falls down beside it.
What a cell holds depends on its place in the world only, not on the chunk it is in.
-/

namespace VoxelScene

/-- Ground heights. -/
structure Terrain where
  /-- Height of a column before it is held to the world. -/
  relief : Int → Int → Int
  maxHeight : Int

/-- What fills a cell. -/
inductive Ground where
  | stone
  | grass
  | falls
  | pond
  | air
deriving DecidableEq, Repr

namespace Terrain

/-- Chunks along x and along z. -/
def chunksAcross : Nat := 3

/-- Layers of chunks. -/
def chunksUp : Nat := 2

/-- Ground up to this height is flooded. -/
def pondLevel : Int := 9

/-- Foot of the pillar. -/
def pillar : Pos := ⟨6, 0, 6⟩

/-- Ground height for a noise value, a half rounded away from zero. -/
def level (n : Float) : Int := (11 + n * 5).round.toInt32.toInt

def ofSeed (seed : UInt32) (maxHeight : Int) : Terrain :=
  let table := Noise.Table.ofSeed seed
  ⟨fun x z => level (Noise.simplex2 table (Float.ofInt x * 0.06) (Float.ofInt z * 0.06)), maxHeight⟩

/-- Height of the topmost ground voxel of a column. -/
def height (t : Terrain) (x z : Int) : Checked Int := do
  Coord.clamp 1 (← Coord.sub t.maxHeight 1) (t.relief x z)

/-- Height of the pillar and the waterfall. -/
def pillarTop (t : Terrain) : Checked Int :=
  return max (← Coord.sub t.maxHeight 4) (pondLevel + 2)

/-- What fills the cell at a place of a column with a given surface. -/
def ground (surface top : Int) (p : Pos) : Ground :=
  if p.y < surface ∨ p.x = pillar.x ∧ p.z = pillar.z ∧ p.y ≤ top then .stone
  else if p.y = surface then .grass
  else if p.x = pillar.x + 1 ∧ p.z = pillar.z ∧ p.y ≤ top then .falls
  else if p.y ≤ pondLevel then .pond
  else .air

/-- The higher, the lighter. -/
def shade (t : Terrain) (y : Int) : Color :=
  let share := (Single.ofInt (max y 0) / Single.ofInt (max t.maxHeight 1)).clamp .zero .one
  let v := (140.0 + share * 115.0).toByte
  ⟨v, v, v, 255⟩

end Terrain

namespace Ground

def voxel (shade : Color) : Ground → Voxel
  | .stone => (Voxel.ofKind Palette.stone).withColor shade
  | .grass => (Voxel.ofKind Palette.grass).withColor shade
  | _ => .empty

/-- Pond water is less deep at the pond level and flows away from the waterfall near to it. -/
def liquid (p : Pos) : Ground → LiquidCell
  | .falls => ⟨Palette.water, 255, 0, 0, true⟩
  | .pond =>
    ⟨Palette.water, if p.y = Terrain.pondLevel then 200 else 255,
      if p.x < Terrain.pillar.x + 4 then 32 else 0, 0, false⟩
  | _ => .dry

end Ground

namespace Terrain

/-- The cell at a place of a column with a given surface. -/
def cell (t : Terrain) (surface top : Int) (p : Pos) : Voxel × LiquidCell :=
  let g := ground surface top p
  (g.voxel (t.shade p.y), g.liquid p)

/-- A column of cells. -/
structure Column where
  x : Int
  z : Int
  surface : Int
deriving DecidableEq, Repr

/-- The columns of a chunk, in the order of one layer. -/
def columns (t : Terrain) (origin : Pos) (d : Dims) : Checked (List Column) :=
  (d.layer 0).mapM fun l => do
    let x ← Coord.add origin.x l.x
    let z ← Coord.add origin.z l.z
    return ⟨x, z, ← t.height x z⟩

/-- The heights of the layers of a chunk. -/
def layers (origin : Pos) (d : Dims) : Checked (List Int) :=
  (List.range d.y).mapM fun (y : Nat) => Coord.add origin.y y

/-- The cells of a chunk. -/
def grid (t : Terrain) (a : Address) (d : Dims) : Checked Grid := do
  let origin ← a.origin d
  let top ← t.pillarTop
  let _ ← Grid.reserve d
  let columns ← t.columns origin d
  let layers ← layers origin d
  let cells := layers.flatMap fun y => columns.map fun c => t.cell c.surface top ⟨c.x, y, c.z⟩
  return .ofCells d cells.toArray

/-- The chunks of the world in the order in which they are loaded. -/
def addresses : List Address :=
  (List.range chunksUp).flatMap fun (y : Nat) =>
    (List.range chunksAcross).flatMap fun (z : Nat) =>
      (List.range chunksAcross).map fun (x : Nat) => ⟨x, y, z⟩

/-- Adds one chunk to a world, once its cells are found to be of known types. -/
def loadChunk (t : Terrain) (w : World) (a : Address) : ExceptT TypeError (Except Fault) World := do
  let g ← t.grid a w.dims
  ExceptT.mk (pure (VoxelCatalogue.validate Palette.voxels g))
  ExceptT.mk (pure (LiquidCatalogue.validate Palette.liquids g))
  return (← w.load a (.ofGrid g)).getD w

/-- The whole demo world. -/
def world (t : Terrain) (d : Dims) : ExceptT TypeError (Except Fault) World :=
  addresses.foldlM t.loadChunk (.empty d)

/-- Places just above the ground of columns that are not flooded. -/
def surfacePoints (t : Terrain) (d : Dims) : Checked (List Pos) := do
  let width ← Coord.mul chunksAcross d.extent.x
  let depth ← Coord.mul chunksAcross d.extent.z
  Checked.collect (fun (z : Nat) =>
    Checked.collect (fun (x : Nat) => do
      let y ← t.height x z
      return if pondLevel < y then [⟨x, y + 1, z⟩] else []) (List.range width.toNat))
    (List.range depth.toNat)

end Terrain

end VoxelScene
