import VoxelScene.Number.Decimal

/-!
The shortest decimal of a number.

Of the decimals that lie closer to a number than to its neighbours, the one with the fewest digits is
chosen, and of those the nearest, the greater if two are equally near. A decimal halfway to a
neighbour counts when the number's last bit is even, since reading then comes back to it.
-/

namespace VoxelScene.Single

/-- The decimals that read back as a positive number, all over a common denominator: the number
itself and both ends of the interval around it. -/
structure Interval where
  value : Nat
  low : Nat
  high : Nat
  denominator : Nat
  /-- The ends belong to the interval. -/
  closed : Bool

namespace Interval

/-- The interval around a number with a clear sign that is neither zero nor infinite. -/
def around (a : Single) : Interval :=
  let fraction := a.bits.toNat % Nat.pow 2 23
  let field : Nat := a.bits.toNat / Nat.pow 2 23
  let mantissa := if field = 0 then fraction else fraction + Nat.pow 2 23
  let power : Int := (max field 1 : Nat) - 152
  let below := if fraction = 0 ∧ 1 < field then 1 else 2
  let scale := Nat.pow 2 power.toNat
  { value := 4 * mantissa * scale
    low := (4 * mantissa - below) * scale
    high := (4 * mantissa + 2) * scale
    denominator := Nat.pow 2 (-power).toNat
    closed := mantissa % 2 = 0 }

/-- The decimal lies in the interval. -/
def holds (i : Interval) (d : Decimal) : Bool :=
  let scaled := d.coefficient * i.denominator * Nat.pow 10 d.exponent.toNat
  let unit := Nat.pow 10 (-d.exponent).toNat
  if i.closed then i.low * unit ≤ scaled ∧ scaled ≤ i.high * unit
  else i.low * unit < scaled ∧ scaled < i.high * unit

/-- How many digits the value has before the point; at most zero for a fraction. -/
def wholeDigits (i : Interval) : Int :=
  (Nat.toDigits 10 (i.value * Nat.pow 10 60 / i.denominator)).length - 60

/-- The multiple of `10 ^ exponent` in the interval that is nearest to the value. -/
def nearest? (i : Interval) (exponent : Int) : Option Decimal :=
  let num := i.value * Nat.pow 10 (-exponent).toNat
  let den := i.denominator * Nat.pow 10 exponent.toNat
  let below : Decimal := ⟨num / den, exponent⟩
  let above : Decimal := ⟨num / den + 1, exponent⟩
  let near := if 2 * (num % den) < den then [below, above] else [above, below]
  near.find? i.holds

end Interval

/-- Drops the zeros at the end of the coefficient; `fuel` bounds their number. -/
def dropZeros : (fuel : Nat) → Decimal → Decimal
  | 0, d => d
  | fuel + 1, d =>
    if d.coefficient ≠ 0 ∧ d.coefficient % 10 = 0 then
      dropZeros fuel ⟨d.coefficient / 10, d.exponent + 1⟩
    else d

/-- The shortest decimal of a number with a clear sign that is neither zero nor infinite. Nine digits
are enough for every number. -/
def shortest (a : Single) : Decimal :=
  let i := Interval.around a
  let whole := i.wholeDigits
  let found := (List.range 9).findSome? fun (n : Nat) => i.nearest? (whole - (n + 1 : Nat))
  dropZeros 10 (found.getD ⟨0, 0⟩)

end VoxelScene.Single
