/-!
Faults.

Coordinates, storage indices and depths are machine words. An operation whose exact result does not
fit its word, a division that has no answer, a range with its ends exchanged, a cut through a
character and more storage than can be addressed are faults: the computation stops there, and the
fault is its outcome. `Checked` is a computation that may fault.
-/

namespace VoxelScene

/-- Why an operation had no answer. -/
inductive Fault where
  /-- The sum does not fit its word. -/
  | addOverflow
  /-- The difference does not fit its word. -/
  | subOverflow
  /-- The product does not fit its word. -/
  | mulOverflow
  /-- The divisor is zero. -/
  | divideByZero
  /-- The quotient does not fit its word. -/
  | divideOverflow
  /-- A value was to be kept inside a range whose lower end is above its upper end. -/
  | emptyRange (lo hi : Int)
  /-- A text was to be cut inside a character. -/
  | splitCharacter
  /-- More storage was asked for than can be addressed. -/
  | capacityOverflow
deriving DecidableEq, Repr, Inhabited

/-- The text shown for a fault. -/
def Fault.message : Fault → String
  | .addOverflow => "attempt to add with overflow"
  | .subOverflow => "attempt to subtract with overflow"
  | .mulOverflow => "attempt to multiply with overflow"
  | .divideByZero => "attempt to divide by zero"
  | .divideOverflow => "attempt to divide with overflow"
  | .emptyRange lo hi => s!"min > max. min = {lo}, max = {hi}"
  | .splitCharacter => "byte index is not a char boundary"
  | .capacityOverflow => "capacity overflow"

/-- A computation that either gives a value or stops at its first fault. -/
abbrev Checked (α : Type) := Except Fault α

namespace Checked

/-- Runs `f` over the list in order and joins the pieces. -/
def collect {α β : Type} (f : α → Checked (List β)) (xs : List α) : Checked (List β) := do
  let pieces ← xs.mapM f
  return pieces.flatten

/-- Keeps the elements that pass a test which may fault; elements are tested in order. -/
def select {α : Type} (test : α → Checked Bool) : List α → Checked (List α)
  | [] => pure []
  | x :: xs => do
    let keep ← test x
    let rest ← select test xs
    return if keep then x :: rest else rest

/-- Whether some element passes; stops at the first that does. -/
def any {α : Type} (test : α → Checked Bool) : List α → Checked Bool
  | [] => pure false
  | x :: xs => do
    if ← test x then return true
    any test xs

end Checked

end VoxelScene
