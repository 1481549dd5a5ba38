import VoxelScene.Cell.Liquid
import VoxelScene.Cell.Voxel
import VoxelScene.Geometry.Face

/-!
Reading cells by world position.

A query answers with the cell at a position, or with nothing where no chunk is present. The ramp and
mesh rules read the world through a query only, so they work alike on the live world and on a
snapshot of part of it.
-/

namespace VoxelScene

structure Query where
  voxelAt : Pos → Checked (Option Voxel)
  liquidAt : Pos → Checked (Option LiquidCell)

namespace Query

/-- The voxels across the six faces of a cell that are present, with their positions. -/
def around (q : Query) (p : Pos) : Checked (List (Pos × Voxel)) :=
  Checked.collect (fun f => do
    let n ← p.plus (Face.step f)
    let v ← q.voxelAt n
    return (v.map fun v => (n, v)).toList) Face.all

/-- Some voxel is present across a face, and every one that is present occludes. -/
def isSurrounded (q : Query) (p : Pos) : Checked Bool := do
  let near ← q.around p
  return !near.isEmpty && near.all fun n => n.2.occludes

/-- A voxel is present and occludes. -/
def occludesAt (q : Query) (p : Pos) : Checked Bool := do
  let v ← q.voxelAt p
  return v.any Voxel.occludes

/-- A voxel is present and does not occlude. -/
def isOpenAt (q : Query) (p : Pos) : Checked Bool := do
  let v ← q.voxelAt p
  return v.any fun v => !v.occludes

/-- A liquid cell is present and wet. -/
def isWetAt (q : Query) (p : Pos) : Checked Bool := do
  let c ← q.liquidAt p
  return c.any LiquidCell.isWet

/-- A liquid cell is present and wet with this type. -/
def isWetWithAt (q : Query) (p : Pos) (liquid : UInt8) : Checked Bool := do
  let c ← q.liquidAt p
  return c.any fun c => c.isWetWith liquid

end Query

end VoxelScene
