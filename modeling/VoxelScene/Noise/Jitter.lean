import VoxelScene.Geometry.Face
import VoxelScene.Noise.Source

/-!
Jitter of lattice points.

A vertex is moved a little by noise sampled at its lattice point alone, so all faces that share the
point move it alike. The three axes read three distant parts of one noise field.
-/

namespace VoxelScene

structure Jitter where
  field : Noise.Field
  /-- Greatest displacement along an axis; zero turns the jitter off. -/
  amplitude : Single

namespace Jitter

/-- A negative amplitude, or one that is no number, counts as zero. -/
def ofSeed (noise : UInt32 → Noise.Field) (seed : UInt32) (amplitude : Single) : Jitter :=
  ⟨noise seed, amplitude.max .zero⟩

/-- Noise for one axis at a lattice point, read at a distance of its own into the field. -/
def sample (j : Jitter) (p : Pos) (dx dy dz : Float) : Single :=
  let scaled (n : Int) : Float := Float.ofInt n * 0.173 + 0.5
  .ofDouble (j.field.value (scaled p.x + dx) (scaled p.y + dy) (scaled p.z + dz))

/-- Displacement of a lattice point. -/
def offset (j : Jitter) (p : Pos) : Vec3 :=
  if j.amplitude.beq .zero then .zero
  else
    Vec3.scale ⟨j.sample p 0 0 0, j.sample p 31.7 11.3 5.9, j.sample p 71.3 43.1 97.7⟩ j.amplitude

end Jitter

end VoxelScene
