/-!
A 64-bit running digest of bytes.

The digest starts from a fixed basis; each byte is exclusive-ored in and the state is multiplied by
a fixed prime, modulo 2^64. Words are absorbed least significant byte first.
-/

namespace VoxelScene

/-- State of a running digest. -/
structure Digest where
  state : UInt64
deriving DecidableEq, Repr

namespace Digest

/-- The digest of no bytes. -/
def start : Digest := ⟨0xcbf29ce484222325⟩

/-- Takes in one byte. -/
@[inline] def byte (d : Digest) (b : UInt8) : Digest :=
  ⟨(d.state ^^^ b.toUInt64) * 0x100000001b3⟩

/-- Takes in a 16-bit word, low byte first. -/
@[inline] def word16 (d : Digest) (w : UInt16) : Digest :=
  (d.byte w.toUInt8).byte (w >>> 8).toUInt8

/-- Takes in a 32-bit word, low byte first. -/
@[inline] def word32 (d : Digest) (w : UInt32) : Digest :=
  (((d.byte w.toUInt8).byte (w >>> 8).toUInt8).byte (w >>> 16).toUInt8).byte (w >>> 24).toUInt8

/-- Takes in the 32 bits of a coordinate. -/
@[inline] def coord (d : Digest) (n : Int) : Digest := d.word32 (Int32.ofInt n).toUInt32

/-- Takes in a truth value as one byte. -/
@[inline] def flag (d : Digest) (b : Bool) : Digest := d.byte (if b then 1 else 0)

/-- Takes in the UTF-8 bytes of a text. -/
def text (d : Digest) (s : String) : Digest := s.toUTF8.foldl byte d

/-- The 16 lower-case hexadecimal digits of the state. -/
def hex (d : Digest) : String :=
  let digits := Nat.toDigits 16 d.state.toNat
  String.ofList (List.replicate (16 - digits.length) '0' ++ digits)

end Digest

end VoxelScene
