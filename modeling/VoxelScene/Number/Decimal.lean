import VoxelScene.Number.Single

/-!
Decimals and the single-precision numbers nearest to them.

A decimal is a whole number times a power of ten. Its nearest number is found by one exact division:
the quotient is scaled so that it has 24 bits, or as many as the smallest numbers leave, and is
rounded to nearest with ties to even.
-/

namespace VoxelScene

/-- The number `coefficient * 10 ^ exponent`. -/
structure Decimal where
  coefficient : Nat
  exponent : Int
deriving DecidableEq, Repr

/-- The quotient rounded to nearest, a half to the even neighbour. -/
def roundedQuotient (num den : Nat) : Nat :=
  let q := num / den
  let r := num % den
  if den < 2 * r ∨ (den = 2 * r ∧ q % 2 = 1) then q + 1 else q

/-- `num / den * 2 ^ -shift` rounded to nearest. -/
def scaledQuotient (num den : Nat) (shift : Int) : Nat :=
  if 0 ≤ shift then roundedQuotient num (den * Nat.pow 2 shift.toNat)
  else roundedQuotient (num * Nat.pow 2 (-shift).toNat) den

/-- The greatest `e` with `2 ^ e ≤ num / den`. -/
def binaryExponent (num den : Nat) : Int :=
  let guess : Int := (num.log2 : Int) - den.log2
  let reaches : Bool :=
    if 0 ≤ guess then den * Nat.pow 2 guess.toNat ≤ num else den ≤ num * Nat.pow 2 (-guess).toNat
  if reaches then guess else guess - 1

namespace Single

/-- The number nearest to a positive quotient. -/
def ofRatio (num den : Nat) : Single :=
  let shift := max (binaryExponent num den - 23) (-149)
  let mantissa := scaledQuotient num den shift
  let bits : Int :=
    if mantissa < Nat.pow 2 23 then mantissa else (shift + 149) * Nat.pow 2 23 + mantissa
  if bits < 0x7f800000 then ⟨UInt32.ofNat bits.toNat⟩ else infinity

/-- The number nearest to a decimal. Those beyond reach are decided by their size alone. -/
def ofDecimal (d : Decimal) : Single :=
  let size := (Nat.toDigits 10 d.coefficient).length + d.exponent
  if d.coefficient = 0 ∨ size < -60 then zero
  else if 60 < size then infinity
  else if 0 ≤ d.exponent then ofRatio (d.coefficient * Nat.pow 10 d.exponent.toNat) 1
  else ofRatio d.coefficient (Nat.pow 10 (-d.exponent).toNat)

end Single

end VoxelScene
