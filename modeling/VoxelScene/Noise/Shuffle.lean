/-!
Seeded permutations of the bytes.

A small shift-register generator draws 32-bit words; a draw below a bound multiplies a word by the
bound and keeps the high half, skipping the words that would favour some answers. Exchanging each
entry with a drawn one, from the last down, shuffles the table.
-/

namespace VoxelScene.Noise

/-- State of the word generator. -/
structure WordSource where
  x : UInt32
  y : UInt32
  z : UInt32
  w : UInt32
deriving Repr

namespace WordSource

def ofSeed (seed : UInt32) : WordSource := ⟨1, seed, seed, seed⟩

/-- The next word and the state after it. -/
def next (s : WordSource) : UInt32 × WordSource :=
  let t := s.x ^^^ (s.x <<< 11)
  let w := s.w ^^^ (s.w >>> 19) ^^^ (t ^^^ (t >>> 8))
  (w, ⟨s.y, s.z, s.w, w⟩)

/-- A word below `n`, drawn evenly. A draw is refused at most every other time, so `fuel` refusals
in a row do not happen for a table of bytes; should they, the answer is 0. -/
def below (n : UInt32) : (fuel : Nat) → WordSource → UInt32 × WordSource
  | 0, s => (0, s)
  | fuel + 1, s =>
    let zone := (n <<< (31 - n.log2)) - 1
    let (word, s) := s.next
    let product := word.toUInt64 * n.toUInt64
    if product.toUInt32 ≤ zone then ((product >>> 32).toUInt32, s) else below n fuel s

end WordSource

/-- The bytes in some order. -/
structure Table where
  entries : Vector UInt8 256

namespace Table

/-- The entry for a byte. -/
@[inline] def entry (t : Table) (i : UInt8) : UInt8 := t.entries.get ⟨i.toNat, i.toNat_lt⟩

/-- The bytes in ascending order. -/
def identity : Table := ⟨Vector.ofFn fun i => UInt8.ofNat i.val⟩

/-- Exchanges the entry at `i` with one drawn from the entries up to it. -/
def exchange (state : Table × WordSource) (i : Nat) : Table × WordSource :=
  let (j, s) := WordSource.below (UInt32.ofNat (i + 1)) 256 state.2
  (⟨state.1.entries.swapIfInBounds i j.toNat⟩, s)

/-- The table shuffled by a seed. -/
def ofSeed (seed : UInt32) : Table :=
  (((List.range 255).map (255 - ·)).foldl exchange (identity, .ofSeed seed)).1

end Table

end VoxelScene.Noise
