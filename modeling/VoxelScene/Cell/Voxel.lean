import VoxelScene.Geometry.RampMask

/-!
Voxel cells.

A voxel has a kind, a visibility flag, a ramp mask and a baked colour at each of its eight corners.
Kind 0 is empty space. Only a visible voxel of another kind occludes: it hides the faces of its
neighbours that it covers.
-/

namespace VoxelScene

structure Color where
  r : UInt8
  g : UInt8
  b : UInt8
  a : UInt8
deriving DecidableEq, Repr, Inhabited

namespace Color

def white : Color := ⟨255, 255, 255, 255⟩

/-- Two lower-case hexadecimal digits for each part. -/
def hex (c : Color) : String :=
  String.ofList ([c.r, c.g, c.b, c.a].flatMap fun b => (Nat.toDigits 16 (b.toNat + 256)).drop 1)

end Color

structure Voxel where
  kind : UInt16
  visible : Bool
  ramp : RampMask
  /-- Baked colours, by corner number. -/
  colors : Vector Color 8
deriving DecidableEq, Repr

namespace Voxel

/-- Empty space. -/
def empty : Voxel := ⟨0, false, .none, Vector.replicate 8 .white⟩

instance : Inhabited Voxel := ⟨empty⟩

/-- A visible flat voxel, lit white. -/
def ofKind (kind : UInt16) : Voxel := ⟨kind, true, .none, Vector.replicate 8 .white⟩

/-- The voxel with one colour at every corner. -/
def withColor (v : Voxel) (c : Color) : Voxel := { v with colors := Vector.replicate 8 c }

def isEmpty (v : Voxel) : Bool := v.kind == 0

def occludes (v : Voxel) : Bool := v.visible && !v.isEmpty

def colorAt (v : Voxel) (c : CubeCorner) : Color := v.colors[c.index]

theorem not_occludes_empty : empty.occludes = false := rfl

end Voxel

end VoxelScene
