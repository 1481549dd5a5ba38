import VoxelScene.Chunk.Grid
import VoxelScene.Types.Catalogue

/-!
Liquid types.

A liquid type has a name and one texture for its surface.
-/

namespace VoxelScene

structure LiquidType where
  name : String
  texture : UInt16
deriving DecidableEq, Repr

instance : Catalogued LiquidType UInt8 where
  name := LiquidType.name
  textures t := [t.texture]
  reserved := ⟨"dry", 0⟩
  limit := 256
  number := UInt8.ofNat
  place := UInt8.toNat
  limit_pos := by decide
  place_lt := UInt8.toNat_lt
  place_number _ := UInt8.toNat_ofNat_of_lt'
  number_place _ := UInt8.ofNat_toNat

abbrev LiquidCatalogue := Catalogue LiquidType UInt8

namespace LiquidCatalogue

def type? (c : LiquidCatalogue) (liquid : UInt8) : Option LiquidType := c.get? liquid

/-- Every liquid cell of the grid has a registered type; else the first that has none is named. -/
def validate (c : LiquidCatalogue) (g : Grid) : Except TypeError Unit :=
  match g.liquids.find? fun x => c.size ≤ x.liquid.toNat with
  | some x => .error (.unknownLiquid x.liquid)
  | none => .ok ()

end LiquidCatalogue

end VoxelScene
