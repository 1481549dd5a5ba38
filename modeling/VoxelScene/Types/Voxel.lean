import VoxelScene.Chunk.Grid
import VoxelScene.Geometry.Face
import VoxelScene.Types.Catalogue

/-!
Voxel types.

A voxel type names its textures and says whether its top corners may slope. A type may have a second
set of textures for voxels that do slope.
-/

namespace VoxelScene

/-- Textures of the faces of a voxel; the four sides share one. -/
structure FaceTextures where
  top : UInt16
  bottom : UInt16
  side : UInt16
deriving DecidableEq, Repr, Inhabited

namespace FaceTextures

def uniform (t : UInt16) : FaceTextures := ⟨t, t, t⟩

def toList (t : FaceTextures) : List UInt16 := [t.top, t.bottom, t.side]

def ofFace (t : FaceTextures) : Face → UInt16
  | .top => t.top
  | .bottom => t.bottom
  | _ => t.side

end FaceTextures

structure VoxelType where
  name : String
  rampCapable : Bool
  textures : FaceTextures
  rampTextures : Option FaceTextures
deriving DecidableEq, Repr

/-- The textures of a voxel that slopes or does not. -/
def VoxelType.texturesFor (t : VoxelType) (ramped : Bool) : FaceTextures :=
  if ramped then t.rampTextures.getD t.textures else t.textures

instance : Catalogued VoxelType UInt16 where
  name := VoxelType.name
  textures t := t.textures.toList ++ (t.rampTextures.map FaceTextures.toList).getD []
  reserved := ⟨"empty", false, .uniform 0, none⟩
  limit := 65536
  number := UInt16.ofNat
  place := UInt16.toNat
  limit_pos := by decide
  place_lt := UInt16.toNat_lt
  place_number _ := UInt16.toNat_ofNat_of_lt'
  number_place _ := UInt16.ofNat_toNat

abbrev VoxelCatalogue := Catalogue VoxelType UInt16

namespace VoxelCatalogue

def type? (c : VoxelCatalogue) (kind : UInt16) : Option VoxelType := c.get? kind

/-- Voxels of this kind may slope; an unregistered kind never does. -/
def isRampCapable (c : VoxelCatalogue) (kind : UInt16) : Bool :=
  (VoxelCatalogue.type? c kind).any VoxelType.rampCapable

/-- Every voxel of the grid has a registered kind; else the first that has none is named. -/
def validate (c : VoxelCatalogue) (g : Grid) : Except TypeError Unit :=
  match g.voxels.find? fun v => c.size ≤ v.kind.toNat with
  | some v => .error (.unknownVoxel v.kind)
  | none => .ok ()

end VoxelCatalogue

end VoxelScene
