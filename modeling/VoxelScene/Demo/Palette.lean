import VoxelScene.Types.Liquid
import VoxelScene.Types.Voxel

/-!
The cell types of the demo world: stone, grass that slopes, and water.
-/

namespace VoxelScene.Palette

def stone : UInt16 := 1

def grass : UInt16 := 2

def water : UInt8 := 1

/-- Layers of the texture atlas. -/
def textureCount : UInt16 := 8

def voxels : VoxelCatalogue :=
  ((Catalogue.withTextureCount textureCount).registerEach [
    ⟨"stone", false, .uniform 1, none⟩,
    ⟨"grass", true, ⟨2, 3, 4⟩, some ⟨2, 3, 5⟩⟩]).2

def liquids : LiquidCatalogue :=
  ((Catalogue.withTextureCount textureCount).registerEach [⟨"water", 6⟩]).2

end VoxelScene.Palette
