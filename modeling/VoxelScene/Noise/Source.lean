import VoxelScene.Number.Single

/-!
Where noise and chance come from.

The program asks little of them: a field of noise over space for each seed, and a stream of draws
that a seed starts. It does not depend on how either is made.
-/

namespace VoxelScene.Noise

/-- Noise over space. -/
structure Field where
  value : Float → Float → Float → Float

/-- No noise, whatever the seed. -/
def still (_ : UInt32) : Field := ⟨fun _ _ _ => 0⟩

/-- States of a stream of random draws. -/
class Draws (σ : Type) where
  ofSeed : UInt64 → σ
  /-- True with the given probability. -/
  chance : Float → σ → Bool × σ
  /-- A number between two others. -/
  between : Single → Single → σ → Single × σ

end VoxelScene.Noise
