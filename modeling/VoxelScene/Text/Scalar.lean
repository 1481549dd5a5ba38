import VoxelScene.Number.Notation
import VoxelScene.Text.Reader

/-!
Numbers and truth values in structured text.

An integer has an optional sign, an optional base and digits that underscores may divide; it may end
with the name of its own type. A fraction is any run of its signs that spells a number; two points in
a row end it.
-/

namespace VoxelScene

/-- A range of integers with the name that may follow one. -/
structure IntegerType where
  suffix : String
  least : Int
  greatest : Int
deriving DecidableEq, Repr

namespace IntegerType

def signed (bits : Nat) : IntegerType := ⟨s!"i{bits}", -(Nat.pow 2 (bits - 1) : Int), (Nat.pow 2 (bits - 1) : Int) - 1⟩

def unsigned (bits : Nat) : IntegerType := ⟨s!"u{bits}", 0, (Nat.pow 2 bits : Int) - 1⟩

def all : List IntegerType := [8, 16, 32, 64].flatMap fun n => [signed n, unsigned n]

def holds (t : IntegerType) (n : Int) : Bool := t.least ≤ n && n ≤ t.greatest

end IntegerType

namespace Reader

/-- Takes a sign; says whether it was a minus. -/
def minus? : Reader Bool := do
  if ← sign? '+' then return false
  sign? '-'

/-- The base that comes next. -/
def base : Reader Nat := do
  if ← letters? "0b" then return 2
  if ← letters? "0o" then return 8
  if ← letters? "0x" then return 16
  return 10

def isDigitSign (c : Char) : Bool := c == '_' || (Quoted.hexValue? c).isSome

/-- Takes the run of characters that pass a test. -/
def run (test : Char → Bool) : Reader (List Char) := fun cs =>
  let taken := cs.takeWhile test
  some (taken, cs.drop taken.length)

/-- The number that digits in a base stand for; underscores divide them but do not come first. -/
def digitsIn? (b : Nat) (digits : List Char) : Option Nat :=
  if digits.isEmpty || digits.head? = some '_' then none
  else (digits.filter (· != '_')).foldlM (fun n c => do
    let d ← Quoted.hexValue? c
    if d < b then some (b * n + d) else none) 0

/-- An integer without the name of a type. -/
def plainInteger : Reader Int := do
  let negative ← minus?
  let b ← base
  let digits ← run isDigitSign
  match digitsIn? b digits with
  | none => failure
  | some n => return if negative then -(n : Int) else n

/-- An integer of a type, which may name it. -/
def integer (t : IntegerType) : Reader Int := do
  let n ← plainInteger
  let _ ← word? t.suffix
  if t.holds n then return n else failure

def isFractionSign (c : Char) : Bool := c.isDigit || ['e', 'E', '.', '+', '-', '_'].contains c

/-- The signs of a fraction in front of a text. -/
def fractionSigns : List Char → List Char
  | '.' :: '.' :: _ => []
  | c :: rest => if isFractionSign c then c :: fractionSigns rest else []
  | [] => []

/-- The signs without underscores, which may stand after a digit or an exponent mark only. -/
def dropUnderscores : (allowed : Bool) → List Char → Option (List Char)
  | _, [] => some []
  | allowed, '_' :: rest => if allowed then dropUnderscores allowed rest else none
  | allowed, c :: rest =>
    let allowed := if c = '.' then false else if c = '+' ∨ c = '-' then allowed else true
    (dropUnderscores allowed rest).map (c :: ·)

/-- Words for numbers without digits. -/
def numberWords : List String := ["inf", "+inf", "-inf", "NaN", "+NaN", "-NaN"]

/-- Takes a number without digits, perhaps with the name of a type. -/
def numberWord? (suffixes : List String) : List String → Reader (Option Single)
  | [] => return none
  | w :: rest => do
    if ← anyWord? (w :: suffixes.map (w ++ ·)) then return Single.ofText? w
    numberWord? suffixes rest

/-- A fraction, which may name one of the given types. -/
def fraction (suffixes : List String) : Reader Single := do
  if let some x ← numberWord? suffixes numberWords then return x
  let signs := fractionSigns (← get)
  modify (·.drop signs.length)
  match (dropUnderscores false signs).bind fun cs => Single.ofText? (String.ofList cs) with
  | none => failure
  | some x =>
    let _ ← anyWord? suffixes
    return x

def truth : Reader Bool := do
  if ← word? "true" then return true
  if ← word? "false" then return false
  failure

/-- Takes something quoted. -/
def quoted {α : Type} (read : List Char → Except Quoted.Flaw (α × List Char)) : Reader α :=
  fun cs => (read cs).toOption

/-- A text in quotes. -/
def text : Reader String := do return String.ofList (← quoted Quoted.read)

end Reader

end VoxelScene
