/-!
IEEE single-precision numbers.

A number is kept as its 32 bits, so signed zeros and the many NaNs stay distinct. Arithmetic rounds
once, to nearest with ties to even. A NaN operand is the result, made quiet, the left one first; an
operation without an answer gives the negative quiet NaN.
-/

namespace VoxelScene

/-- A single-precision number, by its bits. -/
structure Single where
  bits : UInt32
deriving DecidableEq, Repr, Inhabited

namespace Single

/-- Positive zero. -/
def zero : Single := ⟨0⟩

/-- One half. -/
def half : Single := ⟨0x3f000000⟩

/-- One. -/
def one : Single := ⟨0x3f800000⟩

/-- Positive infinity. -/
def infinity : Single := ⟨0x7f800000⟩

/-- The quiet NaN with a clear sign. -/
def nan : Single := ⟨0x7fc00000⟩

/-- The NaN that an operation without an answer gives. -/
def invalid : Single := ⟨0xffc00000⟩

/-- The bits without the sign. -/
@[inline] def magnitude (a : Single) : UInt32 := a.bits &&& 0x7fffffff

/-- The sign bit is set. -/
@[inline] def isNegative (a : Single) : Bool := a.bits &&& 0x80000000 != 0

/-- The number is one of the NaNs. -/
@[inline] def isNaN (a : Single) : Bool := a.magnitude > 0x7f800000

/-- The number is neither infinite nor a NaN. -/
@[inline] def isFinite (a : Single) : Bool := a.magnitude < 0x7f800000

/-- The same NaN with its quiet bit set. -/
@[inline] def quiet (a : Single) : Single := ⟨a.bits ||| 0x00400000⟩

/-- The value with its sign turned. -/
@[inline] def neg (a : Single) : Single := ⟨a.bits ^^^ 0x80000000⟩

/-- The machine's number for these bits. -/
@[inline] def toFloat32 (a : Single) : Float32 := Float32.ofBits a.bits

/-- The outcome of an operation on numbers that are not NaNs. -/
@[inline] def ofResult (r : Float32) : Single :=
  let s : Single := ⟨r.toBits⟩
  if s.isNaN then invalid else s

/-- An operation of two arguments under the NaN rule. -/
@[inline] def lift (op : Float32 → Float32 → Float32) (a b : Single) : Single :=
  if a.isNaN then a.quiet
  else if b.isNaN then b.quiet
  else ofResult (op a.toFloat32 b.toFloat32)

/-- Sum. -/
def add (a b : Single) : Single := lift (· + ·) a b

/-- Difference. -/
def sub (a b : Single) : Single := lift (· - ·) a b

/-- Product. -/
def mul (a b : Single) : Single := lift (· * ·) a b

/-- Quotient. -/
def div (a b : Single) : Single := lift (· / ·) a b

/-- Square root. -/
def sqrt (a : Single) : Single :=
  if a.isNaN then a.quiet else ofResult a.toFloat32.sqrt

def sin (a : Single) : Single :=
  if a.isNaN then a.quiet else ofResult a.toFloat32.sin

def cos (a : Single) : Single :=
  if a.isNaN then a.quiet else ofResult a.toFloat32.cos

instance : Add Single := ⟨add⟩
instance : Sub Single := ⟨sub⟩
instance : Mul Single := ⟨mul⟩
instance : Div Single := ⟨div⟩
instance : Neg Single := ⟨neg⟩
instance : OfScientific Single :=
  ⟨fun m s e => ⟨(OfScientific.ofScientific m s e : Float32).toBits⟩⟩

/-- Strictly less as numbers; false when either is a NaN. -/
@[inline] def blt (a b : Single) : Bool := decide (a.toFloat32 < b.toFloat32)

/-- At most as numbers; false when either is a NaN. -/
@[inline] def ble (a b : Single) : Bool := decide (a.toFloat32 ≤ b.toFloat32)

/-- Equal as numbers: the two zeros agree and no NaN equals anything. -/
@[inline] def beq (a b : Single) : Bool := a.toFloat32 == b.toFloat32

/-- The greater of the two, the right one when they agree; a NaN gives way to the other. -/
protected def max (a b : Single) : Single :=
  if b.isNaN then a else if b.blt a then a else b

/-- The value moved to the nearest end of a range; a NaN stays. -/
def clamp (a lo hi : Single) : Single :=
  if a.blt lo then lo else if hi.blt a then hi else a

/-- The nearest number to an integer. -/
def ofInt (n : Int) : Single := ⟨(Float32.ofInt n).toBits⟩

/-- The nearest number to a natural number. -/
def ofNat (n : Nat) : Single := ⟨(Float32.ofNat n).toBits⟩

/-- The nearest number to a double-precision one. -/
def ofDouble (x : Float) : Single := ⟨x.toFloat32.toBits⟩

/-- The integer part as a byte, held to 0 and 255; a NaN gives 0. -/
def toByte (a : Single) : UInt8 := a.toFloat32.toUInt8

/-- Position in the total order of all bit patterns: negative NaNs, negative numbers, `-0`, `+0`,
positive numbers, positive NaNs. -/
def rank (a : Single) : Int :=
  if a.isNegative then -1 - (a.magnitude.toNat : Int) else a.magnitude.toNat

/-- The eight lower-case hexadecimal digits of the bits. -/
def hex (a : Single) : String :=
  let digits := Nat.toDigits 16 a.bits.toNat
  String.ofList (List.replicate (8 - digits.length) '0' ++ digits)


end Single

end VoxelScene
