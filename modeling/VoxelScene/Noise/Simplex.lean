import VoxelScene.Noise.Shuffle
import VoxelScene.Noise.Source

/-!
Simplex noise.

Space is cut into simplices by a skewed lattice. Each corner of the simplex around a point has a
pseudo-random gradient, chosen by hashing the lattice cell through a shuffled table; the noise is the
sum over the corners of the gradient's slope at the point, faded out with distance. All arithmetic
is in double precision and in the order written.
-/

namespace VoxelScene.Noise

/-- The lattice coordinate below a number; a whole number that is not positive goes one lower. -/
@[inline] def latticeBelow (v : Float) : Int :=
  let whole := v.toInt64.toInt
  if v ≤ 0 then whole - 1 else whole

/-- The low byte of a lattice coordinate. -/
@[inline] def lowByte (n : Int) : UInt8 := UInt8.ofNat (n % 256).toNat

def diagonal : Float := 0.7071067811865476

def spaceDiagonal : Float := 0.5773502691896258

/-- Fades a slope with the squared distance from its corner; nothing is left beyond a half. -/
@[inline] def fade (distance slope : Float) : Float :=
  let t := 1 - distance * 2
  if t > 0 then
    let t2 := t * t
    (2 * t2 + t2 * t2) * slope
  else 0

namespace Table

@[inline] def hash2 (t : Table) (x y : Int) : UInt8 := t.entry (t.entry (lowByte x) ^^^ lowByte y)

@[inline] def hash3 (t : Table) (x y z : Int) : UInt8 :=
  t.entry (t.entry (t.entry (lowByte x) ^^^ lowByte y) ^^^ lowByte z)

end Table

/-! ### Two dimensions -/

def skew2 : Float := (Float.sqrt 3 - 1) / 2

def unskew2 : Float := (1 - 1 / Float.sqrt 3) / 2

/-- Slope at an offset of the gradient with a given hash. -/
def slope2 (h : UInt8) (x y : Float) : Float :=
  let along (gx gy : Float) : Float := 0 + x * gx + y * gy
  match (h % 8).toNat with
  | 0 => along 1 0
  | 1 => along (-1) 0
  | 2 => along 0 1
  | 3 => along 0 (-1)
  | 4 => along diagonal diagonal
  | 5 => along (-diagonal) diagonal
  | 6 => along diagonal (-diagonal)
  | _ => along (-diagonal) (-diagonal)

def corner2 (h : UInt8) (x y : Float) : Float := fade (0 + x * x + y * y) (slope2 h x y)

/-- Noise at a point of the plane. -/
def simplex2 (t : Table) (x y : Float) : Float :=
  let skew := (0 + x + y) * skew2
  let i := latticeBelow (x + skew)
  let j := latticeBelow (y + skew)
  let fi := Float.ofInt i
  let fj := Float.ofInt j
  let back := (0 + fi + fj) * unskew2
  let x1 := x - (fi - back)
  let y1 := y - (fj - back)
  let right : Int := if x1 > y1 then 1 else 0
  let x2 := (x1 - Float.ofInt right) + unskew2
  let y2 := (y1 - Float.ofInt (1 - right)) + unskew2
  let x3 := (x1 - 1) + 2 * unskew2
  let y3 := (y1 - 1) + 2 * unskew2
  corner2 (t.hash2 i j) x1 y1 + corner2 (t.hash2 (i + right) (j + (1 - right))) x2 y2
    + corner2 (t.hash2 (i + 1) (j + 1)) x3 y3

/-! ### Three dimensions -/

def skew3 : Float := (Float.sqrt 4 - 1) / 3

def unskew3 : Float := (1 - 1 / Float.sqrt 4) / 3

/-- Slope at an offset of the gradient with a given hash. -/
def slope3 (h : UInt8) (x y z : Float) : Float :=
  let along (gx gy gz : Float) : Float := 0 + x * gx + y * gy + z * gz
  let d := diagonal
  let e := spaceDiagonal
  let n := (h % 32).toNat
  if n < 24 then
    match n % 12 with
    | 0 => along d d 0
    | 1 => along (-d) d 0
    | 2 => along d (-d) 0
    | 3 => along (-d) (-d) 0
    | 4 => along d 0 d
    | 5 => along (-d) 0 d
    | 6 => along d 0 (-d)
    | 7 => along (-d) 0 (-d)
    | 8 => along 0 d d
    | 9 => along 0 (-d) d
    | 10 => along 0 d (-d)
    | _ => along 0 (-d) (-d)
  else
    match n with
    | 24 => along e e e
    | 25 => along (-e) e e
    | 26 => along e (-e) e
    | 27 => along (-e) (-e) e
    | 28 => along e e (-e)
    | 29 => along (-e) e (-e)
    | 30 => along e (-e) (-e)
    | _ => along (-e) (-e) (-e)

def corner3 (h : UInt8) (x y z : Float) : Float :=
  fade (0 + x * x + y * y + z * z) (slope3 h x y z)

/-- Steps from the simplex's first corner to its second and third, by the order of the offsets. -/
def path3 (x y z : Float) : (Int × Int × Int) × (Int × Int × Int) :=
  if x ≥ y then
    if y ≥ z then ((1, 0, 0), (1, 1, 0))
    else if x ≥ z then ((1, 0, 0), (1, 0, 1))
    else ((0, 0, 1), (1, 0, 1))
  else
    if y < z then ((0, 0, 1), (0, 1, 1))
    else if x < z then ((0, 1, 0), (0, 1, 1))
    else ((0, 1, 0), (1, 1, 0))

/-- Noise at a point of space. -/
def simplex3 (t : Table) (x y z : Float) : Float :=
  let skew := (0 + x + y + z) * skew3
  let i := latticeBelow (x + skew)
  let j := latticeBelow (y + skew)
  let k := latticeBelow (z + skew)
  let fi := Float.ofInt i
  let fj := Float.ofInt j
  let fk := Float.ofInt k
  let back := (0 + fi + fj + fk) * unskew3
  let x1 := x - (fi - back)
  let y1 := y - (fj - back)
  let z1 := z - (fk - back)
  let ((ax, ay, az), (bx, by', bz)) := path3 x1 y1 z1
  let x2 := (x1 - Float.ofInt ax) + unskew3
  let y2 := (y1 - Float.ofInt ay) + unskew3
  let z2 := (z1 - Float.ofInt az) + unskew3
  let x3 := (x1 - Float.ofInt bx) + 2 * unskew3
  let y3 := (y1 - Float.ofInt by') + 2 * unskew3
  let z3 := (z1 - Float.ofInt bz) + 2 * unskew3
  let x4 := (x1 - 1) + 3 * unskew3
  let y4 := (y1 - 1) + 3 * unskew3
  let z4 := (z1 - 1) + 3 * unskew3
  corner3 (t.hash3 i j k) x1 y1 z1
    + corner3 (t.hash3 (i + ax) (j + ay) (k + az)) x2 y2 z2
    + corner3 (t.hash3 (i + bx) (j + by') (k + bz)) x3 y3 z3
    + corner3 (t.hash3 (i + 1) (j + 1) (k + 1)) x4 y4 z4

/-- The field of a seed. -/
def simplex (seed : UInt32) : Field :=
  let table := Table.ofSeed seed
  ⟨simplex3 table⟩

end VoxelScene.Noise
