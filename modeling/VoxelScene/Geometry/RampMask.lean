import VoxelScene.Geometry.Corner

/-!
Ramp masks.

A ramp mask says which top corners of a voxel are pulled down. Bits 0 to 3 belong to the four top
corners; the other bits are carried along and never read. A mask that lowers two opposite corners
only, or all four, has no slope: it is degenerate and counts as flat.
-/

namespace VoxelScene

/-- Set of lowered top corners, one bit each. -/
structure RampMask where
  bits : UInt8
deriving DecidableEq, Repr, Inhabited

namespace RampMask

/-- No corner is lowered. -/
def none : RampMask := ⟨0⟩

/-- The bit of a corner. -/
def bit : TopCorner → UInt8
  | .frontLeft => 1
  | .frontRight => 2
  | .backLeft => 4
  | .backRight => 8

/-- The corner is lowered. -/
def lowered (m : RampMask) (c : TopCorner) : Bool := m.bits &&& bit c != 0

/-- The mask with a corner lowered. -/
def lower (m : RampMask) (c : TopCorner) : RampMask := ⟨m.bits ||| bit c⟩

/-- The mask with a corner raised. -/
def raise (m : RampMask) (c : TopCorner) : RampMask := ⟨m.bits &&& ~~~ bit c⟩

/-- The mask with a corner lowered or raised. -/
def set (m : RampMask) (c : TopCorner) (down : Bool) : RampMask :=
  if down then m.lower c else m.raise c

/-- The four corner bits alone. -/
def low (m : RampMask) : UInt8 := m.bits &&& 15

/-- Number of the set of lowered corners, below 16. -/
def index (m : RampMask) : Nat := m.low.toNat

/-- No corner is lowered. -/
def isFlat (m : RampMask) : Bool := m.low == 0

/-- How many corners are lowered. -/
def count (m : RampMask) : Nat := TopCorner.all.countP m.lowered

/-- Only two opposite corners, or all four, are lowered. -/
def isDegenerate (m : RampMask) : Bool := m.low == 9 || m.low == 6 || m.low == 15

/-- The mask that is drawn: flat if degenerate, and only the corner bits. -/
def normalized (m : RampMask) : RampMask := if m.isDegenerate then none else ⟨m.low⟩

end RampMask

end VoxelScene
