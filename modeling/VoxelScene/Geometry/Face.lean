import VoxelScene.Geometry.Corner
import VoxelScene.Geometry.Pos

/-!
Faces of a cell.

Each of the six faces has a neighbour cell, an outward normal, four corners in drawing order and
texture coordinates at the corners. The four side faces meet the top of the cell in an edge, whose
two ends are listed in the same order for a face and for the face across from it.
-/

namespace VoxelScene

/-- The position nearest to which single-precision arithmetic can come. -/
def Pos.toVec3 (p : Pos) : Vec3 := ⟨.ofInt p.x, .ofInt p.y, .ofInt p.z⟩

/-- Step from the least corner of a cell to this corner. -/
def CubeCorner.unit (c : CubeCorner) : Pos := ⟨c.x.toNat, c.y.toNat, c.z.toNat⟩

/-- One of the six faces of a cell. -/
inductive Face where
  | top
  | bottom
  | left
  | right
  | front
  | back
deriving DecidableEq, Repr, Inhabited

/-- Four things, one for each corner of a face in drawing order. -/
structure Loop (α : Type) where
  a : α
  b : α
  c : α
  d : α
deriving DecidableEq, Repr, Inhabited

namespace Loop

/-- The four things in order. -/
def toList {α : Type} (l : Loop α) : List α := [l.a, l.b, l.c, l.d]

/-- Applies a function to each of the four. -/
def map {α β : Type} (f : α → β) (l : Loop α) : Loop β := ⟨f l.a, f l.b, f l.c, f l.d⟩

/-- Applies a function that may fault to each of the four, in order. -/
@[inline] def mapChecked {α β : Type} (f : α → Checked β) (l : Loop α) : Checked (Loop β) := do
  let a ← f l.a
  let b ← f l.b
  let c ← f l.c
  let d ← f l.d
  return ⟨a, b, c, d⟩

theorem length_toList {α : Type} (l : Loop α) : l.toList.length = 4 := rfl

end Loop

namespace Face

/-- All faces, by number. -/
def all : List Face := [.top, .bottom, .left, .right, .front, .back]

/-- The side faces, by number. -/
def sides : List Face := [.left, .right, .front, .back]

/-- Number of a face. -/
def index : Face → Fin 6
  | .top => 0
  | .bottom => 1
  | .left => 2
  | .right => 3
  | .front => 4
  | .back => 5

/-- The face stands upright. -/
def isSide : Face → Bool
  | .top | .bottom => false
  | _ => true

/-- Step to the cell across the face. -/
def step : Face → Pos
  | .top => ⟨0, 1, 0⟩
  | .bottom => ⟨0, -1, 0⟩
  | .left => ⟨-1, 0, 0⟩
  | .right => ⟨1, 0, 0⟩
  | .front => ⟨0, 0, -1⟩
  | .back => ⟨0, 0, 1⟩

/-- Outward unit normal. -/
def normal (f : Face) : Vec3 := f.step.toVec3

/-- The same face seen from the cell across it. -/
def opposite : Face → Face
  | .top => .bottom
  | .bottom => .top
  | .left => .right
  | .right => .left
  | .front => .back
  | .back => .front

/-- Corners in drawing order. -/
def corners : Face → Loop CubeCorner
  | .top => ⟨⟨false, true, false⟩, ⟨false, true, true⟩, ⟨true, true, true⟩, ⟨true, true, false⟩⟩
  | .bottom =>
    ⟨⟨false, false, false⟩, ⟨true, false, false⟩, ⟨true, false, true⟩, ⟨false, false, true⟩⟩
  | .left =>
    ⟨⟨false, false, false⟩, ⟨false, false, true⟩, ⟨false, true, true⟩, ⟨false, true, false⟩⟩
  | .right =>
    ⟨⟨true, false, false⟩, ⟨true, true, false⟩, ⟨true, true, true⟩, ⟨true, false, true⟩⟩
  | .front =>
    ⟨⟨false, false, false⟩, ⟨false, true, false⟩, ⟨true, true, false⟩, ⟨true, false, false⟩⟩
  | .back =>
    ⟨⟨false, false, true⟩, ⟨true, false, true⟩, ⟨true, true, true⟩, ⟨false, true, true⟩⟩

/-- Ends of the edge where a side face meets the top of its cell. -/
def topEdge : Face → Option (TopCorner × TopCorner)
  | .top | .bottom => none
  | .left => some (.frontLeft, .backLeft)
  | .right => some (.frontRight, .backRight)
  | .front => some (.frontLeft, .frontRight)
  | .back => some (.backLeft, .backRight)

/-- One end of a texture axis. -/
def texel (upper : Bool) : Single := if upper then .one else .zero

/-- Texture coordinates of a corner on a face. On the sides v runs downward from the top. -/
def uv (f : Face) (c : CubeCorner) : UV :=
  match f with
  | .top => ⟨texel c.x, texel c.z⟩
  | .bottom => ⟨texel c.x, texel !c.z⟩
  | .left => ⟨texel c.z, texel !c.y⟩
  | .right => ⟨texel !c.z, texel !c.y⟩
  | .front => ⟨texel !c.x, texel !c.y⟩
  | .back => ⟨texel c.x, texel !c.y⟩

theorem opposite_opposite (f : Face) : f.opposite.opposite = f := by
  cases f <;> rfl

theorem mem_all (f : Face) : f ∈ all := by
  cases f <;> decide

theorem isSide_opposite (f : Face) : f.opposite.isSide = f.isSide := by
  cases f <;> rfl

end Face

/-- A set of faces, one bit each by number; bits 6 and 7 are carried along. -/
structure FaceSet where
  bits : UInt8
deriving DecidableEq, Repr, Inhabited

namespace FaceSet

/-- No face. -/
def empty : FaceSet := ⟨0⟩

/-- Every face. -/
def full : FaceSet := ⟨0x3f⟩

/-- The bit of a face. -/
def bit : Face → UInt8
  | .top => 1
  | .bottom => 2
  | .left => 4
  | .right => 8
  | .front => 16
  | .back => 32

/-- The face is in the set. -/
def contains (s : FaceSet) (f : Face) : Bool := s.bits &&& bit f != 0

/-- The set with a face added. -/
def insert (s : FaceSet) (f : Face) : FaceSet := ⟨s.bits ||| bit f⟩

/-- The set of the listed faces. -/
def ofList (fs : List Face) : FaceSet := fs.foldl insert empty

/-- The faces of the set, by number. -/
def toList (s : FaceSet) : List Face := Face.all.filter s.contains

/-- Number of bits set. -/
def count (s : FaceSet) : Nat := (List.range 8).countP s.bits.toNat.testBit

/-- No bit is set. -/
def isEmpty (s : FaceSet) : Bool := s.bits == 0

end FaceSet

end VoxelScene
