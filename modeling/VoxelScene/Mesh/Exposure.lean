import VoxelScene.Cell.Voxel
import VoxelScene.World.Query

/-!
Which faces of a voxel are drawn.

Between two occluding voxels a side face is hidden exactly when both voxels have the same outline
along the edge they share: its two ends are lowered alike. A top or bottom face between two
occluding voxels is always hidden. A face toward open space is drawn; a face toward a chunk that is
not present is drawn unless all voxels that are present around occlude.
-/

namespace VoxelScene

namespace Face

/-- Which ends of the face's top edge are lowered; the top and the bottom have no such edge. -/
def edgeProfile (f : Face) (m : RampMask) : Bool × Bool :=
  match f.topEdge with
  | some (a, b) => (m.lowered a, m.lowered b)
  | none => (false, false)

/-- The face must be drawn against an occluding neighbour. -/
def isExposed (f : Face) (own neighbor : RampMask) : Bool :=
  f.isSide && f.edgeProfile own.normalized != f.opposite.edgeProfile neighbor.normalized

end Face

namespace Query

/-- The face of an occluding voxel is drawn. With a view limit, the top of a voxel at that height
is. -/
def isFaceVisible (q : Query) (p : Pos) (v : Voxel) (limit : Option Int) (f : Face) :
    Checked Bool := do
  if f = .top ∧ limit = some p.y then return true
  match ← q.voxelAt (← p.plus f.step) with
  | none => return !(← q.isSurrounded p)
  | some n => return !n.occludes || f.isExposed v.ramp n.ramp

/-- The faces of a voxel that are drawn. -/
def visibleFaces (q : Query) (p : Pos) (v : Voxel) (limit : Option Int) : Checked FaceSet := do
  if !v.occludes then return .empty
  return .ofList (← Checked.select (q.isFaceVisible p v limit) Face.all)

end Query

end VoxelScene
