import VoxelScene.Number.Shortest

/-!
Numbers as text.

Two ways of writing a number share its shortest digits: the plain one never has an exponent and
writes whole numbers without a point; the settings way keeps a `.0` on whole numbers and has an
exponent for magnitudes from 1e16 on and below 1e-4. Reading takes an optional sign and either a
decimal with an optional exponent, or a word for infinity or no number in any case of letters.
-/

namespace VoxelScene

/-- The decimal digits of a number. -/
def decimalDigits (n : Nat) : List Char := Nat.toDigits 10 n

namespace Decimal

/-- The decimal without an exponent; a point only where a fraction follows. -/
def positional (d : Decimal) : String :=
  let digits := decimalDigits d.coefficient
  if 0 ≤ d.exponent then
    String.ofList (digits ++ List.replicate d.exponent.toNat '0')
  else
    let places := (-d.exponent).toNat
    let padded := List.replicate (places + 1 - digits.length) '0' ++ digits
    let whole := padded.length - places
    String.ofList (padded.take whole ++ '.' :: padded.drop whole)

/-- The decimal with one digit before the point and an exponent. -/
def scientific (d : Decimal) : String :=
  let digits := decimalDigits d.coefficient
  let exponent := d.exponent + (digits.length - 1 : Nat)
  let fraction := digits.drop 1
  let mantissa := digits.take 1 ++ if fraction.isEmpty then [] else '.' :: fraction
  s!"{String.ofList mantissa}e{exponent}"

end Decimal

namespace Single

/-- Writes a number: `finite` writes the magnitude of one that is finite. -/
def writeWith (finite : Single → String) (a : Single) : String :=
  if a.isNaN then "NaN"
  else
    let size : Single := ⟨a.magnitude⟩
    (if a.isNegative then "-" else "") ++ (if size.isFinite then finite size else "inf")

/-- The plain text of a number. -/
def plain (a : Single) : String :=
  writeWith (fun size => if size.bits = 0 then "0" else size.shortest.positional) a

/-- The text of a number in the settings. -/
def written (a : Single) : String :=
  writeWith (fun size =>
    if size.bits = 0 then "0.0"
    else
      let d := size.shortest
      if size.blt 1e-4 || Single.ble 1e16 size then d.scientific
      else if 0 ≤ d.exponent then d.positional ++ ".0"
      else d.positional) a

/-- The value of a run of digits. -/
def digitsValue (ds : List Char) : Nat := ds.foldl (fun n c => 10 * n + (c.toNat - 48)) 0

/-- An exponent: an optional sign and at least one digit. -/
def exponentOf? (cs : List Char) : Option Int :=
  let (negative, digits) := match cs with
    | '-' :: rest => (true, rest)
    | '+' :: rest => (false, rest)
    | rest => (false, rest)
  if digits.isEmpty || !digits.all Char.isDigit then none
  else some (if negative then -(digitsValue digits : Int) else digitsValue digits)

/-- A decimal: digits with an optional point, at least one digit, and an optional exponent. -/
def decimalOf? (cs : List Char) : Option Decimal :=
  let whole := cs.takeWhile Char.isDigit
  let rest := cs.dropWhile Char.isDigit
  let (fraction, rest) := match rest with
    | '.' :: rest => (rest.takeWhile Char.isDigit, rest.dropWhile Char.isDigit)
    | rest => ([], rest)
  let digits := whole ++ fraction
  if digits.isEmpty then none
  else
    let exponent := match rest with
      | [] => some 0
      | e :: rest => if e = 'e' ∨ e = 'E' then exponentOf? rest else none
    exponent.map fun e => ⟨digitsValue digits, e - fraction.length⟩

/-- A magnitude: a decimal, or a word for infinity or no number. -/
def magnitudeOf? (cs : List Char) : Option Single :=
  let word := String.ofList (cs.map Char.toLower)
  if word = "inf" ∨ word = "infinity" then some infinity
  else if word = "nan" then some nan
  else (decimalOf? cs).map ofDecimal

/-- The number that a text spells. -/
def ofText? (s : String) : Option Single :=
  match s.toList with
  | '-' :: rest => (magnitudeOf? rest).map neg
  | '+' :: rest => magnitudeOf? rest
  | rest => magnitudeOf? rest

end Single

end VoxelScene
