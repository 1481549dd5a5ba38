import VoxelScene.Fault

/-!
Unsigned words.

Storage sizes and indices are 64-bit words, liquid depths 32-bit words. Both are `Nat`s; sums and
products fault when they leave the word. The numbers of vertices are 32-bit words as they are
stored.
-/

namespace VoxelScene.Word

/-- Storage words are below this. -/
def storageBound : Nat := 18446744073709551616

/-- The sizes in bytes of pieces of storage are below this. -/
def pieceBound : Nat := 9223372036854775808

/-- Depths are below this. -/
def depthBound : Nat := 4294967296

/-- The value, if it is below the bound, else the given fault. -/
@[inline] def below (bound : Nat) (fault : Fault) (n : Nat) : Checked Nat :=
  if n < bound then .ok n else .error fault

/-- Sum of two storage words. -/
@[inline] def add (a b : Nat) : Checked Nat := below storageBound .addOverflow (a + b)

/-- Product of two storage words. -/
@[inline] def mul (a b : Nat) : Checked Nat := below storageBound .mulOverflow (a * b)

/-- Sum of two depths. -/
@[inline] def addDepth (a b : Nat) : Checked Nat := below depthBound .addOverflow (a + b)

/-- Sum of two vertex numbers. -/
@[inline] def addNumber (a b : UInt32) : Checked UInt32 :=
  if a.toNat + b.toNat < depthBound then .ok (a + b) else .error .addOverflow

theorem below_eq_ok_iff {bound : Nat} {fault : Fault} {n m : Nat} :
    below bound fault n = .ok m ↔ n < bound ∧ m = n := by
  unfold below
  split
  · rename_i h
    constructor
    · intro e
      injection e with e
      exact ⟨h, e.symm⟩
    · rintro ⟨-, rfl⟩
      rfl
  · rename_i h
    constructor
    · intro e
      cases e
    · rintro ⟨h', -⟩
      exact absurd h' h

theorem below_cases (bound : Nat) (fault : Fault) (n : Nat) :
    below bound fault n = .ok n ∨ below bound fault n = .error fault := by
  unfold below
  split
  · exact .inl rfl
  · exact .inr rfl

theorem mul_cases (a b : Nat) : mul a b = .ok (a * b) ∨ mul a b = .error .mulOverflow :=
  below_cases ..

theorem add_cases (a b : Nat) : add a b = .ok (a + b) ∨ add a b = .error .addOverflow :=
  below_cases ..

theorem add_eq_ok_iff {a b c : Nat} : add a b = .ok c ↔ a + b < storageBound ∧ c = a + b :=
  below_eq_ok_iff

theorem mul_eq_ok_iff {a b c : Nat} : mul a b = .ok c ↔ a * b < storageBound ∧ c = a * b :=
  below_eq_ok_iff

theorem addDepth_eq_ok_iff {a b c : Nat} :
    addDepth a b = .ok c ↔ a + b < depthBound ∧ c = a + b :=
  below_eq_ok_iff

end VoxelScene.Word
