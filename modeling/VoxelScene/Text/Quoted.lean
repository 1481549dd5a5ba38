import VoxelScene.Text.Printable

/-!
Quoted texts.

A text is written between double quotes. Quotes, backslashes and the common controls are written as
a backslash and a sign, other characters that cannot stand alone by their code point. Reading also
takes bytes in hexadecimal, which have to make up characters, and leaves out a line break after a
backslash with the blanks that follow it. A raw text has no escapes; it ends with as many number
signs as it starts with. Texts of bytes, single characters and single bytes are quoted in like manner.
-/

namespace VoxelScene

/-- Characters that separate words. -/
def isBlank (c : Char) : Bool :=
  [' ', '\t', '\n', '\r', '\x0b', '\x0c', '\u0085', '\u200e', '\u200f', '\u2028', '\u2029'].contains c

namespace Quoted

/-! ### Writing -/

/-- A character by its code point. -/
def byCodePoint (c : Char) : List Char := ['\\', 'u', '\x7b'] ++ Nat.toDigits 16 c.toNat ++ ['\x7d']

def escaped (c : Char) : List Char :=
  match c with
  | '\x00' => ['\\', '0']
  | '\t' => ['\\', 't']
  | '\r' => ['\\', 'r']
  | '\n' => ['\\', 'n']
  | '"' => ['\\', '"']
  | '\'' => ['\\', '\'']
  | '\\' => ['\\', '\\']
  | c => if isPrintable c then [c] else byCodePoint c

/-- The text between quotes. -/
def write (s : List Char) : List Char := '"' :: s.flatMap escaped ++ ['"']

/-! ### Escapes -/

/-- What is quoted. -/
inductive Kind where
  | text
  | bytes
  | char
  | byte
deriving DecidableEq, Repr

/-- Why nothing quoted could be read. -/
inductive Flaw where
  /-- Nothing is quoted here. -/
  | absent
  /-- The quotes are not closed, or an escape has no meaning. -/
  | broken
deriving DecidableEq, Repr

def hexValue? (c : Char) : Option Nat :=
  if '0' ≤ c ∧ c ≤ '9' then some (c.toNat - '0'.toNat)
  else if 'a' ≤ c ∧ c ≤ 'f' then some (c.toNat - 'a'.toNat + 10)
  else if 'A' ≤ c ∧ c ≤ 'F' then some (c.toNat - 'A'.toNat + 10)
  else none

/-- The number that hexadecimal digits stand for. -/
def hexNumber (digits : List Char) : Nat :=
  digits.foldl (fun n c => 16 * n + (hexValue? c).getD 0) 0

/-- The character at a code point. -/
def charAt (n : Nat) : Except Flaw Char :=
  if n.isValidChar then .ok (Char.ofNat n) else .error .broken

/-- One hexadecimal digit. -/
def readDigit : List Char → Except Flaw (Nat × List Char)
  | [] => .error .broken
  | c :: rest =>
    match hexValue? c with
    | some d => .ok (d, rest)
    | none => .error .broken

/-- Two hexadecimal digits. -/
def readByte (cs : List Char) : Except Flaw (Nat × List Char) := do
  let (a, cs) ← readDigit cs
  let (b, cs) ← readDigit cs
  return (16 * a + b, cs)

/-- A further byte of a character, in its own escape. -/
def readNextByte : List Char → Except Flaw (Nat × List Char)
  | '\\' :: 'x' :: rest => do
    let (b, rest) ← readByte rest
    if 0x80 ≤ b ∧ b < 0xc0 then return (b - 0x80, rest) else throw .broken
  | _ => .error .broken

/-- The character whose first byte in UTF-8 is given. -/
def readWide (lead : Nat) (cs : List Char) : Except Flaw (Char × List Char) :=
  if 0xc0 ≤ lead ∧ lead < 0xe0 then do
    let (b, cs) ← readNextByte cs
    let n := (lead - 0xc0) * 64 + b
    if n < 0x80 then throw .broken else return (← charAt n, cs)
  else if 0xe0 ≤ lead ∧ lead < 0xf0 then do
    let (b, cs) ← readNextByte cs
    let (c, cs) ← readNextByte cs
    let n := ((lead - 0xe0) * 64 + b) * 64 + c
    if n < 0x800 then throw .broken else return (← charAt n, cs)
  else if 0xf0 ≤ lead ∧ lead < 0xf8 then do
    let (b, cs) ← readNextByte cs
    let (c, cs) ← readNextByte cs
    let (d, cs) ← readNextByte cs
    let n := (((lead - 0xf0) * 64 + b) * 64 + c) * 64 + d
    if n < 0x10000 then throw .broken else return (← charAt n, cs)
  else .error .broken

/-- A code point of one to six digits in braces. -/
def readCodePoint : List Char → Except Flaw (Char × List Char)
  | '\x7b' :: rest =>
    let digits := rest.takeWhile fun c => (hexValue? c).isSome
    match rest.drop digits.length with
    | '\x7d' :: rest =>
      if 1 ≤ digits.length ∧ digits.length ≤ 6 then do
        return (← charAt (hexNumber digits), rest)
      else .error .broken
    | _ => .error .broken
  | _ => .error .broken

/-- What follows a backslash. Bytes beyond ASCII make up a character in a text, stand for themselves
among bytes, and are refused in a single character. A single byte has no code point. -/
def readEscape (k : Kind) : List Char → Except Flaw (Char × List Char)
  | '\'' :: rest => .ok ('\'', rest)
  | '"' :: rest => .ok ('"', rest)
  | '\\' :: rest => .ok ('\\', rest)
  | 'n' :: rest => .ok ('\n', rest)
  | 'r' :: rest => .ok ('\r', rest)
  | 't' :: rest => .ok ('\t', rest)
  | '0' :: rest => .ok ('\x00', rest)
  | 'x' :: rest => do
    let (b, rest) ← readByte rest
    if b < 0x80 then return (Char.ofNat b, rest)
    match k with
    | .text => readWide b rest
    | .bytes | .byte => return (Char.ofNat b, rest)
    | .char => throw .broken
  | 'u' :: rest => if k = .byte then .error .broken else readCodePoint rest
  | _ => .error .broken

/-! ### Reading -/

/-- Blanks that are left out after a line break that is left out. -/
def isMargin (c : Char) : Bool := [' ', '\t', '\n', '\r'].contains c

/-- Reads on to the closing quote; every step takes a character, so `fuel` may be the length. -/
def readBody (k : Kind) : (fuel : Nat) → List Char → Except Flaw (List Char × List Char)
  | 0, _ => .error .broken
  | _ + 1, [] => .error .broken
  | _ + 1, '"' :: rest => .ok ([], rest)
  | fuel + 1, '\\' :: '\n' :: rest => readBody k fuel (rest.dropWhile isMargin)
  | fuel + 1, '\\' :: '\r' :: '\n' :: rest => readBody k fuel (rest.dropWhile isMargin)
  | fuel + 1, '\\' :: rest => do
    let (c, rest) ← readEscape k rest
    let (cs, rest) ← readBody k fuel rest
    return (c :: cs, rest)
  | fuel + 1, c :: rest => do
    let (cs, rest) ← readBody k fuel rest
    return (c :: cs, rest)

/-- Splits at the first place where the ending stands. -/
def splitAtEnding (ending : List Char) : List Char → Except Flaw (List Char × List Char)
  | [] => .error .broken
  | c :: rest =>
    if ending.isPrefixOf (c :: rest) then .ok ([], (c :: rest).drop ending.length)
    else do
      let (cs, rest) ← splitAtEnding ending rest
      return (c :: cs, rest)

/-- A raw text, from the number signs on. -/
def readRaw (cs : List Char) : Except Flaw (List Char × List Char) :=
  let signs := cs.takeWhile (· == '#')
  match cs.drop signs.length with
  | '"' :: rest => splitAtEnding ('"' :: signs) rest
  | _ => .error .absent

/-- A text in quotes, plain or raw. -/
def read : List Char → Except Flaw (List Char × List Char)
  | '"' :: rest => readBody .text rest.length rest
  | 'r' :: rest => readRaw rest
  | _ => .error .absent

/-- A text of bytes in quotes, plain or raw. -/
def readBytes : List Char → Except Flaw (List Char × List Char)
  | 'b' :: '"' :: rest => readBody .bytes rest.length rest
  | 'b' :: 'r' :: rest => readRaw rest
  | _ => .error .absent

/-- One sign or escape and the closing single quote. -/
def readSingle (k : Kind) (cs : List Char) : Except Flaw (Char × List Char) := do
  let (c, rest) ← match cs with
    | '\\' :: rest => readEscape k rest
    | c :: rest => .ok (c, rest)
    | [] => .error .broken
  match rest with
  | '\'' :: rest => return (c, rest)
  | _ => throw .broken

/-- A single character in quotes. -/
def readChar : List Char → Except Flaw (Char × List Char)
  | '\'' :: rest => readSingle .char rest
  | _ => .error .absent

/-- A single byte in quotes. -/
def readByteChar : List Char → Except Flaw (Char × List Char)
  | 'b' :: '\'' :: c :: rest =>
    if c.toNat < 128 then readSingle .byte (c :: rest) else .error .broken
  | _ => .error .absent

end Quoted

end VoxelScene
