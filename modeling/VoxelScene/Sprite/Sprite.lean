import VoxelScene.Geometry.Corner

/-!
Sprites and the camera they are sorted against.

A sprite is placed by a matrix of four columns; the last column holds its position. What is drawn of a
sprite is its matrix and its tint.
-/

namespace VoxelScene

structure Vec4 where
  x : Single
  y : Single
  z : Single
  w : Single
deriving DecidableEq, Repr, Inhabited

namespace Vec4

def ones : Vec4 := ⟨.one, .one, .one, .one⟩

/-- The vector with a fourth coordinate of zero. -/
def ofVec3 (v : Vec3) : Vec4 := ⟨v.x, v.y, v.z, .zero⟩

def toList (v : Vec4) : List Single := [v.x, v.y, v.z, v.w]

end Vec4

/-- A matrix by columns. -/
structure Placement where
  xAxis : Vec4
  yAxis : Vec4
  zAxis : Vec4
  wAxis : Vec4
deriving DecidableEq, Repr, Inhabited

namespace Placement

/-- Scales about the origin, then moves. -/
def scaledAt (k : Single) (p : Vec3) : Placement where
  xAxis := ⟨k, .zero, .zero, .zero⟩
  yAxis := ⟨.zero, k, .zero, .zero⟩
  zAxis := ⟨.zero, .zero, k, .zero⟩
  wAxis := ⟨p.x, p.y, p.z, .one⟩

/-- Stands at a point, at its own size. -/
def standingAt (p : Vec3) : Placement := scaledAt .one p

def columns (p : Placement) : List Vec4 := [p.xAxis, p.yAxis, p.zAxis, p.wAxis]

end Placement

structure Sprite where
  id : Nat
  placement : Placement
  tint : Vec4
deriving DecidableEq, Repr, Inhabited

/-- A sprite as it lies in the instance buffer. -/
structure PackedSprite where
  model : Placement
  tint : Vec4
deriving DecidableEq, Repr

namespace Sprite

def position (s : Sprite) : Vec3 := ⟨s.placement.wAxis.x, s.placement.wAxis.y, s.placement.wAxis.z⟩

def pack (s : Sprite) : PackedSprite := ⟨s.placement, s.tint⟩

end Sprite

structure Camera where
  position : Vec3
  /-- Direction of view, of unit length. -/
  forward : Vec3
deriving DecidableEq, Repr

namespace Camera

/-- A camera looking along a direction; along -z if the direction has no length. -/
def looking (position forward : Vec3) : Camera :=
  ⟨position, forward.normalize?.getD ⟨.zero, .zero, -.one⟩⟩

/-- The camera at the origin, looking along -z. -/
def standard : Camera := looking .zero ⟨.zero, .zero, -.one⟩

end Camera

/-- What the sprite shader needs of the camera. -/
structure CameraUniform where
  viewProjection : Placement
  right : Vec4
  up : Vec4
deriving DecidableEq, Repr

def CameraUniform.ofAxes (viewProjection : Placement) (right up : Vec3) : CameraUniform :=
  ⟨viewProjection, .ofVec3 right, .ofVec3 up⟩

end VoxelScene
