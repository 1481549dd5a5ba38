import VoxelScene.Text.Alphanumeric
import VoxelScene.Text.Quoted
import VoxelScene.Text.WhiteSpace

/-!
Patterns for texts.

A pattern is made of characters, escapes, classes and groups, each of which may be repeated, and of
alternatives. Here it is only checked whether a pattern is well formed. Counted repetitions and other
things in braces are not supported.

How a pattern is read may change inside it: letters may stand for both cases, characters for bytes,
and white space and remarks may be left out. Without tables for all scripts, both cases, kinds of
characters and bounds of words are known for bytes only; and as a pattern is for texts, bytes have to
be ASCII.
-/

namespace VoxelScene

namespace Pattern

/-- How a pattern is read. -/
structure Mode where
  /-- Letters stand for both cases. -/
  foldCase : Bool := false
  /-- Characters are those of all scripts, not bytes. -/
  wide : Bool := true
  /-- White space and remarks are left out. -/
  spaced : Bool := false
deriving DecidableEq, Repr

/-- What is left to read, how it is read, and the names of groups so far. -/
structure State where
  rest : List Char
  mode : Mode := {}
  names : List (List Char) := []
deriving DecidableEq, Repr

abbrev Scan (α : Type) := StateT State Option α

/-! ### Characters -/

/-- What follows white space and remarks; a remark runs to the end of its line. -/
def afterSpace : (fuel : Nat) → List Char → List Char
  | 0, cs => cs
  | fuel + 1, cs =>
    match cs.dropWhile isWhiteSpace with
    | '#' :: rest => afterSpace fuel ((rest.dropWhile (· != '\n')).drop 1)
    | rest => rest

/-- Skips what is left out. -/
def skipSpace : Scan Unit :=
  modify fun s => if s.mode.spaced then { s with rest := afterSpace s.rest.length s.rest } else s

/-- The next character, left in place. -/
def peek? : Scan (Option Char) := return (← get).rest.head?

/-- Takes the next character. -/
def next : Scan Char := do
  let s ← get
  match s.rest with
  | c :: rest =>
    set { s with rest := rest }
    return c
  | [] => failure

/-- Takes the letters if they come next. -/
def letters? (word : String) : Scan Bool := do
  let s ← get
  if word.toList.isPrefixOf s.rest then
    set { s with rest := s.rest.drop word.length }
    return true
  return false

def require (b : Bool) : Scan Unit := if b then return else failure

/-- Skips what is left out; something has to follow. -/
def skipOn : Scan Unit := do
  skipSpace
  require (← peek?).isSome

/-! ### Escapes -/

/-- What is not a class, a group or a repetition. -/
inductive Primitive where
  /-- A character, perhaps written as a byte. -/
  | literal (c : Char) (ofByte : Bool)
  /-- A place in the text, perhaps the bound of a word. -/
  | place (ofWord : Bool)
  /-- Digits, white space or characters of words, or all others. -/
  | kind (negated : Bool)
  /-- Any character. -/
  | any
deriving DecidableEq, Repr

/-- The number that `n` hexadecimal digits stand for. -/
def hexDigits : (n : Nat) → (sum : Nat) → Scan Nat
  | 0, sum => return sum
  | n + 1, sum => do
    skipSpace
    match Quoted.hexValue? (← next) with
    | some d => hexDigits n (16 * sum + d)
    | none => failure

/-- A character by its code point. -/
def codePoint (digits : Nat) : Scan Char := do
  let n ← hexDigits digits 0
  skipSpace
  if n.isValidChar then return Char.ofNat n else failure

/-- What follows a backslash. -/
def escape : Scan Primitive := do
  match ← next with
  | 'x' => return .literal (← codePoint 2) true
  | 'u' => return .literal (← codePoint 4) false
  | 'U' => return .literal (← codePoint 8) false
  | 'd' | 's' | 'w' => return .kind false
  | 'D' | 'S' | 'W' => return .kind true
  | 'A' | 'z' => return .place false
  | 'b' | 'B' | '<' | '>' => return .place true
  | 'a' => return .literal '\x07' false
  | 't' => return .literal '\t' false
  | 'n' => return .literal '\n' false
  | 'v' => return .literal '\x0b' false
  | 'f' => return .literal '\x0c' false
  | 'r' => return .literal '\r' false
  | c => if c.toNat < 128 && !c.isAlphanum then return .literal c false else failure

/-- A primitive is possible where it stands. -/
def Mode.admits (m : Mode) : Primitive → Bool
  | .literal c ofByte => if m.wide then !m.foldCase else !ofByte || c.toNat < 128
  | .place ofWord => !(ofWord && m.wide)
  | .kind negated => !m.wide && !negated
  | .any => m.wide

/-- A character is possible in a class. -/
def Mode.admitsInClass (m : Mode) (c : Char) : Bool := if m.wide then !m.foldCase else c.toNat < 128

/-! ### Classes -/

/-- Depth of several things in a row: one that stands alone adds no level. -/
def joined : List Nat → Nat
  | [] => 0
  | [d] => d
  | ds => ds.foldl max 0 + 1

/-- Depth of a set after a sign that combines it with the sets before. -/
def combined (left : Option Nat) (right : Nat) : Nat :=
  match left with
  | none => right
  | some left => max left right + 1

/-- Names for kinds of ASCII characters. -/
def classNames : List String :=
  ["alnum", "alpha", "ascii", "blank", "cntrl", "digit", "graph", "lower", "print", "punct", "space",
    "upper", "word", "xdigit"]

/-- Takes a kind of ASCII characters by name, if one comes next; says whether it is negated. -/
def namedClass? : Scan (Option Bool) := do
  let s ← get
  if ← letters? "[:" then
    let negated ← letters? "^"
    for name in classNames do
      if ← letters? (name ++ ":]") then return some negated
  set s
  return none

/-- Counts the signs of a range that stand in front, where they stand for themselves. -/
def dashes : (fuel : Nat) → Nat → Scan Nat
  | 0, n => return n
  | fuel + 1, n => do
    if ← letters? "-" then
      skipOn
      dashes fuel (n + 1)
    else return n

/-- Opens a class: whether it is negated, and how many signs stand for themselves in front. -/
def openClass : Scan (Bool × Nat) := do
  skipOn
  let negated ← letters? "^"
  if negated then skipOn
  let fuel := (← get).rest.length
  let signs ← dashes fuel 0
  if signs = 0 && (← letters? "]") then
    skipOn
    return (negated, 1)
  return (negated, signs)

/-- A primitive in a class. -/
def classPrimitive : Scan Primitive := do
  match ← next with
  | '\\' => escape
  | c => return .literal c false

/-- The character that comes after the next one, without what is left out. -/
def peekBeyond? : Scan (Option Char) := do
  let s ← get
  let rest := s.rest.drop 1
  if !s.mode.spaced then return rest.head?
  match rest.dropWhile isWhiteSpace with
  | '#' :: rest => return (rest.dropWhile isWhiteSpace).head?
  | rest => return rest.head?

/-- A character or kind of a class, or a range of characters. -/
def classItem : Scan Unit := do
  let first ← classPrimitive
  skipOn
  let m := (← get).mode
  if (← peek?) != some '-' || [some ']', some '-'].contains (← peekBeyond?) then
    match first with
    | .literal c _ => require (m.admitsInClass c)
    | .kind _ => require (m.admits first)
    | _ => failure
  else
    let _ ← next
    skipOn
    match first, ← classPrimitive with
    | .literal a _, .literal b _ => require (a ≤ b && m.admitsInClass a && m.admitsInClass b)
    | _, _ => failure

/-- The rest of a class up to its closing bracket: its depth, given that of the sets before and of the
things since. Every step takes a character, so `fuel` may be the length. -/
def classBody : (fuel : Nat) → (left : Option Nat) → (items : List Nat) → Scan Nat
  | 0, _, _ => failure
  | fuel + 1, left, items => do
    skipOn
    let m := (← get).mode
    if let some negated ← namedClass? then
      require (if m.wide then !m.foldCase else !negated)
      classBody fuel left (0 :: items)
    else if ← letters? "[" then
      let (negated, signs) ← openClass
      require (!(negated && (m.foldCase || !m.wide)) && (signs == 0 || m.admitsInClass '-'))
      let depth ← classBody fuel none (List.replicate signs 0)
      classBody fuel left ((depth + 1) :: items)
    else if ← letters? "]" then return combined left (joined items)
    else if ← letters? "&&" <||> letters? "--" <||> letters? "~~" then
      classBody fuel (some (combined left (joined items))) []
    else
      classItem
      classBody fuel left (0 :: items)

/-- A class from behind its opening bracket: its depth. -/
def bracketed : Scan Nat := do
  let fuel := (← get).rest.length + 1
  let (negated, signs) ← openClass
  let m := (← get).mode
  require ((m.wide || !negated) && (signs == 0 || m.admitsInClass '-'))
  return (← classBody fuel none (List.replicate signs 0)) + 1

/-! ### Groups -/

/-- A mode after switches: those behind a minus are turned off. Some switches do not matter here. -/
def Mode.switched (m : Mode) (switches : List Char) : Mode :=
  let on := switches.takeWhile (· != '-')
  let change (c : Char) (old : Bool) : Bool := if switches.contains c then on.contains c else old
  ⟨change 'i' m.foldCase, change 'u' m.wide, change 'x' m.spaced⟩

/-- What the head of a group makes of it: a group that is read in a mode, or a change of the mode. -/
inductive Head where
  | group (m : Mode)
  | change (m : Mode)
deriving DecidableEq, Repr

/-- The name of a group up to the closing sign. No two groups have the same name. -/
def groupName : Scan Unit := do
  let s ← get
  let name := s.rest.takeWhile (· != '>')
  let ok := match name with
    | c :: rest =>
      (c == '_' || isAlphabetic c) &&
        rest.all fun c => isAlphanumeric c || ['_', '.', '[', ']'].contains c
    | [] => false
  require (ok && !s.names.contains name)
  set { s with rest := s.rest.drop name.length, names := name :: s.names }
  require (← letters? ">")

/-- The head of a group, from behind its parenthesis. -/
def groupHead : Scan Head := do
  skipSpace
  let m := (← get).mode
  if ← letters? "?P<" <||> letters? "?<" then
    groupName
    return .group m
  if ← letters? "?" then
    let switches := (← get).rest.takeWhile fun c =>
      ['i', 'm', 's', 'U', 'u', 'x', 'R', '-'].contains c
    modify fun s => { s with rest := s.rest.drop switches.length }
    require (decide switches.Nodup && switches.getLast? != some '-')
    if ← letters? ":" then return .group (m.switched switches)
    require (!switches.isEmpty && (← letters? ")"))
    return .change (m.switched switches)
  return .group m

/-! ### Sequences -/

/-- Something in a sequence: its depth, and whether it may be repeated. -/
structure Item where
  depth : Nat
  repeatable : Bool := true
deriving DecidableEq, Repr

/-- Alternatives up to a closing parenthesis or the end: their depth, given those of the alternatives
before and the sequence since, both from the last to the first. Every step takes a character, so
`fuel` may be one more than the length. -/
def alternatives : (fuel : Nat) → (before : List Nat) → (items : List Item) → Scan Nat
  | 0, _, _ => failure
  | fuel + 1, before, items => do
    skipSpace
    let m := (← get).mode
    match ← peek? with
    | none | some ')' => return joined (joined (items.map Item.depth) :: before)
    | some '|' =>
      let _ ← next
      alternatives fuel (joined (items.map Item.depth) :: before) []
    | some '(' =>
      let _ ← next
      match ← groupHead with
      | .change m =>
        modify fun s => { s with mode := m }
        alternatives fuel before (⟨0, false⟩ :: items)
      | .group inner =>
        modify fun s => { s with mode := inner }
        let depth ← alternatives fuel [] []
        require (← letters? ")")
        modify fun s => { s with mode := m }
        alternatives fuel before (⟨depth + 1, true⟩ :: items)
    | some '[' =>
      let _ ← next
      let depth ← bracketed
      alternatives fuel before (⟨depth, true⟩ :: items)
    | some '?' | some '*' | some '+' =>
      let _ ← next
      let _ ← letters? "?"
      match items with
      | ⟨depth, true⟩ :: items => alternatives fuel before (⟨depth + 1, true⟩ :: items)
      | _ => failure
    | some '\x7b' => failure
    | some _ =>
      let p ← match ← next with
        | '\\' => escape
        | '.' => pure .any
        | '^' | '$' => pure (.place false)
        | c => pure (.literal c false)
      require (m.admits p)
      alternatives fuel before (⟨0, true⟩ :: items)

/-- Levels to which patterns may nest. -/
def depthLimit : Nat := 250

end Pattern

/-- The text is a well-formed pattern. -/
def isPattern (cs : List Char) : Bool :=
  match (Pattern.alternatives (cs.length + 1) [] []).run { rest := cs } with
  | some (depth, s) => s.rest.isEmpty && depth ≤ Pattern.depthLimit
  | none => false

end VoxelScene
