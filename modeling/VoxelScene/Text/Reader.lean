import VoxelScene.Text.Letters
import VoxelScene.Text.Quoted

/-!
Readers of structured text.

A reader takes something from the front of a text and leaves the rest, or fails. Blanks and comments
may stand between any two words; comments run to the end of the line, or are bracketed and nest.
-/

namespace VoxelScene

abbrev Reader (α : Type) := StateT (List Char) Option α

namespace Reader

/-! ### Blanks -/

/-- What follows a bracketed comment, inside `level` more. -/
def afterComment : (level : Nat) → List Char → Option (List Char)
  | level, '/' :: '*' :: rest => afterComment (level + 1) rest
  | 0, '*' :: '/' :: rest => some rest
  | level + 1, '*' :: '/' :: rest => afterComment level rest
  | level, _ :: rest => afterComment level rest
  | _, [] => none

/-- What follows blanks and comments; each comment takes characters, so `fuel` may be the length. -/
def afterBlank : (fuel : Nat) → List Char → Option (List Char)
  | fuel, cs =>
    match cs.dropWhile isBlank, fuel with
    | '/' :: '/' :: rest, fuel + 1 => afterBlank fuel (rest.dropWhile (· != '\n'))
    | '/' :: '*' :: rest, fuel + 1 => (afterComment 0 rest).bind (afterBlank fuel)
    | '/' :: _, _ => none
    | rest, _ => some rest

/-- Skips blanks and comments. -/
def blank : Reader Unit := fun cs => (afterBlank cs.length cs).map ((), ·)

/-! ### Signs and words -/

/-- The next character, left in place. -/
def peek? : Reader (Option Char) := fun cs => some (cs.head?, cs)

/-- Takes the sign if it comes next. -/
def sign? (c : Char) : Reader Bool := fun cs =>
  match cs with
  | d :: rest => if d = c then some (true, rest) else some (false, cs)
  | [] => some (false, [])

def sign (c : Char) : Reader Unit := do
  if ← sign? c then return else failure

/-- Takes the letters if they come next. -/
def letters? (s : String) : Reader Bool := fun cs =>
  if s.toList.isPrefixOf cs then some (true, cs.drop s.length) else some (false, cs)

/-- Takes the word if it comes next and ends there. -/
def word? (s : String) : Reader Bool := fun cs =>
  let rest := cs.drop s.length
  if s.toList.isPrefixOf cs && !rest.head?.any isIdentifierRest then some (true, rest)
  else some (false, cs)

/-- Takes the first of the words that comes next. -/
def anyWord? : List String → Reader Bool
  | [] => return false
  | s :: rest => do
    if ← word? s then return true
    anyWord? rest

/-- The text goes on with a quoted text, not with an identifier. -/
def startsQuoted (cs : List Char) : Bool :=
  ["b\"", "b'", "br#", "br\"", "r\"", "r#\"", "r##"].any fun s => s.toList.isPrefixOf cs

/-- Characters that may stand in a raw identifier. -/
def isRawRest (c : Char) : Bool := c == '.' || c == '+' || c == '-' || isIdentifierRest c

/-- An identifier, or nothing if none comes next. A raw one is marked and may hold more signs. -/
def identifier? : Reader (Option String) := fun cs =>
  if startsQuoted cs then some (none, cs)
  else
    match cs with
    | 'r' :: '#' :: rest =>
      let name := rest.takeWhile isRawRest
      if name.isEmpty then some (none, cs)
      else some (some (String.ofList name), rest.drop name.length)
    | c :: rest =>
      if isIdentifierStart c then
        let tail := rest.takeWhile isIdentifierRest
        some (some (String.ofList (c :: tail)), rest.drop tail.length)
      else some (none, cs)
    | [] => some (none, [])

/-- An identifier that is not followed at once by a sign that only a raw one may hold. -/
def identifier : Reader String := do
  match ← identifier? with
  | none => failure
  | some name =>
    if (← peek?).any isRawRest then failure
    return name

/-! ### Lists -/

/-- Takes a comma with the blanks around it, if one comes next. -/
def comma? : Reader Bool := do
  blank
  if ← sign? ',' then
    blank
    return true
  return false

/-- Things with commas between them, and perhaps one after the last, up to a closing sign that is
left in place. Each takes a character at least, so `fuel` may be the length of the text. -/
def items {α : Type} (item : Reader α) (close : Char) : (fuel : Nat) → Reader (List α)
  | 0 => failure
  | fuel + 1 => do
    blank
    if (← peek?) = some close then return []
    let x ← item
    if ← comma? then
      return x :: (← items item close fuel)
    if (← peek?) = some close then return [x]
    failure

/-- As `items`, with the closing sign taken as well. -/
def itemsUntil {α : Type} (item : Reader α) (close : Char) : Reader (List α) := do
  let fuel := (← get).length + 1
  let xs ← items item close fuel
  blank
  sign close
  return xs

/-- A name and a value, with a colon between them. -/
def entry {α β : Type} (key : Reader α) (value : α → Reader β) : Reader β := do
  let k ← key
  blank
  sign ':'
  blank
  value k

end Reader

end VoxelScene
