import VoxelScene.Sprite.Sprite

/-!
Which sprites are drawn, and in which order.

The score of a sprite is its squared distance to the camera, multiplied by a penalty if it lies
behind the camera or beyond the culling distance. The lowest scores are kept, up to the capacity, and
drawn from the highest to the lowest. Scores are compared in the total order of all bit patterns, and
equal ones by id, so the outcome depends on the set of sprites alone.
-/

namespace VoxelScene

structure DepthPolicy where
  cullDistance : Single := 96.0
  depthPenalty : Single := 100.0
deriving DecidableEq, Repr

def DepthPolicy.score (d : DepthPolicy) (c : Camera) (p : Vec3) : Single :=
  let offset := p.sub c.position
  let distance := offset.dot offset
  let behind := (offset.dot c.forward).blt .zero
  let culled := (d.cullDistance * d.cullDistance).blt distance
  if behind || culled then distance * d.depthPenalty else distance

structure Ranked where
  score : Single
  id : Nat
deriving DecidableEq, Repr

namespace Ranked

/-- At most as far: by score, then by id. -/
def le (a b : Ranked) : Bool :=
  a.score.rank < b.score.rank || (a.score.rank == b.score.rank && a.id ≤ b.id)

/-- The ids of the `capacity` nearest, the farthest of them first. -/
def selectVisible (rs : List Ranked) (capacity : Nat) : List Nat :=
  (((rs.mergeSort le).take capacity).map (·.id)).reverse

end Ranked

end VoxelScene
