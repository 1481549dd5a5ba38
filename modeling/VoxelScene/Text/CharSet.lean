/-!
Sets of characters.

A set is kept as the ascending list of code points where membership flips, starting from outside.
-/

namespace VoxelScene

structure CharSet where
  ofFlips ::
  flips : List Nat
deriving DecidableEq, Repr

/-- An odd number of flips lie at or before the character. -/
def CharSet.contains (s : CharSet) (c : Char) : Bool :=
  (s.flips.takeWhile (· ≤ c.toNat)).length % 2 == 1

end VoxelScene
