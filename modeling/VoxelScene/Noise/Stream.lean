import VoxelScene.Noise.Source

/-!
A seeded stream of 64-bit words.

The state is four words, drawn from the seed by a counter whose values are mixed. Each step gives one
word. A chance compares a word with a share of all words; a draw from a range takes the 23 top bits of
a word as a fraction.
-/

namespace VoxelScene.Noise

structure Stream where
  a : UInt64
  b : UInt64
  c : UInt64
  d : UInt64
deriving DecidableEq, Repr

namespace Stream

/-- Mixes a counter value. -/
def mix (n : UInt64) : UInt64 :=
  let n := (n ^^^ (n >>> 30)) * 0xbf58476d1ce4e5b9
  let n := (n ^^^ (n >>> 27)) * 0x94d049bb133111eb
  n ^^^ (n >>> 31)

def ofSeed (seed : UInt64) : Stream :=
  let word (k : UInt64) := mix (seed + k * 0x9e3779b97f4a7c15)
  ⟨word 1, word 2, word 3, word 4⟩

def rotate (n k : UInt64) : UInt64 := (n <<< k) ||| (n >>> (64 - k))

/-- The next word and the state after it. -/
def next (s : Stream) : UInt64 × Stream :=
  let c := s.c ^^^ s.a
  let d := s.d ^^^ s.b
  (rotate (s.b * 5) 7 * 9,
    ⟨s.a ^^^ d, s.b ^^^ c, c ^^^ (s.b <<< 17), rotate d 45⟩)

/-- True with the given probability. -/
def chance (p : Float) (s : Stream) : Bool × Stream :=
  let (word, s) := s.next
  (word < (p * 18446744073709551616.0).toUInt64, s)

/-- A number from `lo` on and below `hi`. A draw that rounds up to `hi` is repeated; `fuel` bounds the
repetitions, and `lo` is the answer when all are used up. -/
def between (lo hi : Single) : (fuel : Nat) → Stream → Single × Stream
  | 0, s => (lo, s)
  | fuel + 1, s =>
    let (word, s) := s.next
    let x := Single.ofNat (word >>> 41).toNat / Single.ofNat 8388608 * (hi - lo) + lo
    if x.blt hi then (x, s) else between lo hi fuel s

instance : Draws Stream where
  ofSeed := ofSeed
  chance := chance
  between lo hi := between lo hi 64

end Stream

end VoxelScene.Noise
