import VoxelScene.Fault

/-!
Signed 32-bit coordinates.

A coordinate is an `Int`; `Coord.Fits` says that it is representable in 32 signed bits. The
operations compute in `Int` and fault when the result does not fit. Division is Euclidean: the
remainder is never negative.
-/

namespace VoxelScene.Coord

/-- The least coordinate. -/
def least : Int := -2147483648

/-- The greatest coordinate. -/
def greatest : Int := 2147483647

/-- The integer is representable in 32 signed bits. -/
def Fits (n : Int) : Prop := least ≤ n ∧ n ≤ greatest

instance (n : Int) : Decidable (Fits n) := inferInstanceAs (Decidable (_ ∧ _))

/-- The value, if it fits, else the given fault. -/
@[inline] def guarded (fault : Fault) (n : Int) : Checked Int :=
  if Fits n then .ok n else .error fault

/-- Sum of two coordinates. -/
@[inline] def add (a b : Int) : Checked Int := guarded .addOverflow (a + b)

/-- Difference of two coordinates. -/
@[inline] def sub (a b : Int) : Checked Int := guarded .subOverflow (a - b)

/-- Product of two coordinates. -/
@[inline] def mul (a b : Int) : Checked Int := guarded .mulOverflow (a * b)

/-- Euclidean quotient. -/
@[inline] def quot (a b : Int) : Checked Int :=
  if b = 0 then .error .divideByZero else guarded .divideOverflow (a / b)

/-- The coordinate that the low 32 bits of an unsigned word spell. -/
def ofWord (n : Nat) : Int := (n : Int).bmod 4294967296

/-- The value moved to the nearest end of a range when it lies outside. -/
def clamp (lo hi n : Int) : Checked Int :=
  if hi < lo then .error (.emptyRange lo hi) else .ok (max lo (min n hi))

theorem guarded_eq_ok_iff {fault : Fault} {n m : Int} :
    guarded fault n = .ok m ↔ Fits n ∧ m = n := by
  unfold guarded
  split
  · rename_i h
    constructor
    · intro e
      injection e with e
      exact ⟨h, e.symm⟩
    · rintro ⟨-, rfl⟩
      rfl
  · rename_i h
    simp [h]

theorem add_eq_ok_iff {a b c : Int} : add a b = .ok c ↔ Fits (a + b) ∧ c = a + b :=
  guarded_eq_ok_iff

theorem sub_eq_ok_iff {a b c : Int} : sub a b = .ok c ↔ Fits (a - b) ∧ c = a - b :=
  guarded_eq_ok_iff

theorem mul_eq_ok_iff {a b c : Int} : mul a b = .ok c ↔ Fits (a * b) ∧ c = a * b :=
  guarded_eq_ok_iff

/-- A size that fits a coordinate is read unchanged. -/
theorem ofWord_eq {n : Nat} (h : (n : Int) ≤ greatest) : ofWord n = n := by
  unfold ofWord greatest at *
  rw [Int.bmod_eq_of_le] <;> omega

end VoxelScene.Coord
