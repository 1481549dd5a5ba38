/-!
Liquid cells.

A liquid cell holds a type, a fill level, a horizontal flow and a mark for falling liquid. Type 0 is
the dry type. A cell is wet when it holds another type at a level above zero.
-/

namespace VoxelScene

structure LiquidCell where
  liquid : UInt8
  level : UInt8
  flowX : Int8
  flowZ : Int8
  falling : Bool
deriving DecidableEq, Repr

namespace LiquidCell

/-- No liquid. -/
def dry : LiquidCell := ⟨0, 0, 0, 0, false⟩

instance : Inhabited LiquidCell := ⟨dry⟩

/-- Still liquid. -/
def still (liquid level : UInt8) : LiquidCell := ⟨liquid, level, 0, 0, false⟩

def isWet (c : LiquidCell) : Bool := c.liquid != 0 && c.level != 0

/-- The cell holds this type at a level above zero; the type may be the dry one. -/
def isWetWith (c : LiquidCell) (liquid : UInt8) : Bool := c.liquid == liquid && c.level != 0

theorem not_isWet_dry : dry.isWet = false := rfl

end LiquidCell

end VoxelScene
