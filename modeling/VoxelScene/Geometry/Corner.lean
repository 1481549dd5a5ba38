import VoxelScene.Number.Single

/-!
Corners of a cell.

A cell has eight corners, told apart by one bit along each axis; the four with the upper y bit are
its top corners, named for where they lie when looking along +z. A point with fractional coordinates
belongs to the corner that is nearest along each axis.
-/

namespace VoxelScene

/-- A point or direction with single-precision coordinates. -/
structure Vec3 where
  x : Single
  y : Single
  z : Single
deriving DecidableEq, Repr, Inhabited

namespace Vec3

def zero : Vec3 := ⟨.zero, .zero, .zero⟩

def add (a b : Vec3) : Vec3 := ⟨a.x + b.x, a.y + b.y, a.z + b.z⟩

def sub (a b : Vec3) : Vec3 := ⟨a.x - b.x, a.y - b.y, a.z - b.z⟩

def scale (a : Vec3) (k : Single) : Vec3 := ⟨a.x * k, a.y * k, a.z * k⟩

/-- Inner product, summed from x to z. -/
def dot (a b : Vec3) : Single := a.x * b.x + a.y * b.y + a.z * b.z

/-- The vector at unit length; nothing if its length has no usable inverse. -/
def normalize? (a : Vec3) : Option Vec3 :=
  let inverse := Single.one / (a.dot a).sqrt
  if inverse.isFinite && Single.zero.blt inverse then some (a.scale inverse) else none

end Vec3

/-- A point of a texture. -/
structure UV where
  u : Single
  v : Single
deriving DecidableEq, Repr, Inhabited

/-- One of the eight corners of a cell: the upper end of each axis is `true`. -/
structure CubeCorner where
  x : Bool
  y : Bool
  z : Bool
deriving DecidableEq, Repr, Inhabited

namespace CubeCorner

/-- Number of a corner: bit 0 is x, bit 1 is y, bit 2 is z. -/
def index (c : CubeCorner) : Fin 8 :=
  match c with
  | ⟨false, false, false⟩ => 0
  | ⟨true, false, false⟩ => 1
  | ⟨false, true, false⟩ => 2
  | ⟨true, true, false⟩ => 3
  | ⟨false, false, true⟩ => 4
  | ⟨true, false, true⟩ => 5
  | ⟨false, true, true⟩ => 6
  | ⟨true, true, true⟩ => 7

/-- The corner with a given number. -/
def ofIndex (i : Fin 8) : CubeCorner := ⟨i.val.testBit 0, i.val.testBit 1, i.val.testBit 2⟩

/-- All corners by number. -/
def all : List CubeCorner := (List.finRange 8).map ofIndex

/-- The corner nearest to a point of the unit cell; a half goes up. -/
def nearest (p : Vec3) : CubeCorner :=
  ⟨Single.half.ble p.x, Single.half.ble p.y, Single.half.ble p.z⟩

end CubeCorner

/-- One of the four upper corners of a cell. -/
inductive TopCorner where
  | frontLeft
  | frontRight
  | backLeft
  | backRight
deriving DecidableEq, Repr, Inhabited

namespace TopCorner

/-- All top corners, by number. -/
def all : List TopCorner := [.frontLeft, .frontRight, .backLeft, .backRight]

/-- Number of a top corner. -/
def index : TopCorner → Fin 4
  | .frontLeft => 0
  | .frontRight => 1
  | .backLeft => 2
  | .backRight => 3

/-- The upper end of x is `right`. -/
def right : TopCorner → Bool
  | .frontLeft | .backLeft => false
  | .frontRight | .backRight => true

/-- The upper end of z is `back`. -/
def back : TopCorner → Bool
  | .frontLeft | .frontRight => false
  | .backLeft | .backRight => true

/-- The top corner at given ends of x and z. -/
def ofEnds (right back : Bool) : TopCorner :=
  match right, back with
  | false, false => .frontLeft
  | true, false => .frontRight
  | false, true => .backLeft
  | true, true => .backRight

/-- Step along x toward the corner. -/
def stepX (c : TopCorner) : Int := if c.right then 1 else -1

/-- Step along z toward the corner. -/
def stepZ (c : TopCorner) : Int := if c.back then 1 else -1

/-- The corner of the cell that this top corner is. -/
def toCube (c : TopCorner) : CubeCorner := ⟨c.right, true, c.back⟩

end TopCorner

/-- The top corner that a corner is, if it lies in the upper layer. -/
def CubeCorner.top? (c : CubeCorner) : Option TopCorner :=
  if c.y then some (.ofEnds c.x c.z) else none

theorem TopCorner.top?_toCube (c : TopCorner) : c.toCube.top? = some c := by
  cases c <;> rfl

end VoxelScene
