import VoxelScene.Text.Scalar

/-!
Values of any shape.

A value whose meaning is not known can still be skipped if it is well formed: a number, a range, a
text, a character, a word, a list, a tuple, a map, a record or a variant of these. Values nest to a
limited depth: a value inside an option lies one level deeper, a value inside any other composite two.
-/

namespace VoxelScene

/-- How much may be left out, and what has to be there. -/
structure ReadMode where
  /-- An option may be written without parentheses, or as the bare value. -/
  implicitSome : Bool := false
  /-- Records have to carry the names of their types. -/
  explicitNames : Bool := false
  /-- A tuple or record in an option shares its parentheses. -/
  unwrapVariants : Bool := false
deriving DecidableEq, Repr

namespace Reader

/-! ### Numbers -/

/-- A number of any type, or a byte. Integers that fit no type count as fractions. -/
def anyNumber : Reader Unit := do
  let cs ← get
  let signs := match cs with
    | '+' :: rest | '-' :: rest => rest
    | rest => rest
  let isFraction := (signs.takeWhile isDigitSign).length < (fractionSigns signs).length
  let asFraction : Reader Unit := do
    let _ ← fraction ["f32", "f64"]
  let asByte : Reader Unit := do
    let _ ← quoted Quoted.readByteChar
  let asInteger : Reader Unit := do
    let n ← plainInteger
    let named ← IntegerType.all.findM? fun t => word? t.suffix
    let fits := match named with
      | some t => t.holds n
      | none => (IntegerType.signed 64).holds n || (IntegerType.unsigned 64).holds n
    if fits then return else failure
  if isFraction then asFraction else asByte <|> asInteger <|> asFraction

/-- A range goes on after its first number with two points and an end, which may be missing unless it
is said to be included. -/
def rangeEnd? : Reader Unit := do
  if ← letters? ".." then
    if ← sign? '=' then anyNumber else anyNumber <|> return

/-- A number, or a range of numbers whose ends may be missing. -/
def numberOrRange : Reader Unit := do
  if "..".toList.isPrefixOf (← get) then rangeEnd?
  else
    anyNumber
    rangeEnd?

/-! ### Composites -/

/-- What stands between parentheses. -/
inductive Content where
  | named
  | several
  | single
deriving DecidableEq, Repr

/-- What follows a character or a text in quotes, if one comes first. A text may not be broken; a
character that cannot be read is none. -/
def afterQuoted (cs : List Char) : Option (Option (List Char)) :=
  match Quoted.readChar cs with
  | .ok (_, rest) => some (some rest)
  | .error _ =>
    match Quoted.read cs, Quoted.readBytes cs with
    | .ok (_, rest), _ | .error .absent, .ok (_, rest) => some (some rest)
    | .error .absent, .error .absent => some none
    | _, _ => none

/-- Looks for a comma at the outermost of `level` levels of brackets which is not the last thing
there. Every step takes a character, so `fuel` may be the length. -/
def seesSeveral : (fuel level : Nat) → List Char → Option Bool
  | _, 0, _ => some false
  | 0, _ + 1, _ => none
  | fuel + 1, level + 1, cs => do
    let cs ← afterBlank cs.length cs
    match ← afterQuoted cs, cs with
    | some rest, _ => seesSeveral fuel (level + 1) rest
    | none, [] => none
    | none, ',' :: rest =>
      if level = 0 then return (← afterBlank rest.length rest).head? ≠ some ')'
      else seesSeveral fuel (level + 1) rest
    | none, c :: rest =>
      if ['(', '[', '\x7b'].contains c then seesSeveral fuel (level + 2) rest
      else if [')', ']', '\x7d'].contains c then seesSeveral fuel level rest
      else seesSeveral fuel (level + 1) rest

/-- What follows an opening parenthesis: fields if it starts with a name and a colon, several values
or one. Nothing is taken. -/
def content : Reader Content := do
  let cs ← get
  blank
  let name ← identifier?
  if name.isSome then blank
  let rest ← get
  set cs
  match name, rest with
  | some _, ':' :: _ => return .named
  | _, _ =>
    match seesSeveral rest.length 1 rest with
    | some several => return if several then .several else .single
    | none => failure

/-- The text goes on with a name and a colon. -/
def isNamed : Reader Bool := do
  let cs ← get
  blank
  let name ← identifier?
  blank
  let next ← peek?
  set cs
  return name.isSome && next = some ':'

/-! ### Values -/

/-- Words that are values by themselves. -/
def valueWords : List String := ["true", "false", "None"]

/-- Words that are numbers. -/
def unsignedNumberWords : List String := ["inf", "inff32", "inff64", "NaN", "NaNf32", "NaNf64"]

/-- A value after the word for one that is there. In parentheses it is read by `inner`, without them
by `bare`. -/
def someOf {α : Type} (m : ReadMode) (inner bare : Reader α) : Reader α := do
  blank
  if ← sign? '(' then
    blank
    let x ← inner
    let _ ← comma?
    sign ')'
    return x
  if m.implicitSome then bare else failure

/-- A value; `inner` reads what lies inside an option, `element` what lies inside any other composite.
Where one of them is missing, the depth is used up. A value that shares the parentheses around it is
`unwrapped`, as `inner` is told. -/
def valueWith (m : ReadMode) (inner : Option (Bool → Reader Unit)) (element : Option (Reader Unit))
    (unwrapped : Bool) : Reader Unit := do
  let element := element.getD failure
  let field : Reader Unit := entry identifier fun _ => element
  let pair : Reader Unit := entry element fun _ => element
  let upTo (item : Reader Unit) (close : Char) : Reader Unit := do
    if inner.isNone then failure
    let fuel := (← get).length + 1
    let _ ← items item close fuel
  let enclosed (item : Reader Unit) (close : Char) : Reader Unit := do
    upTo item close
    sign close
  let group : Reader Unit := do
    if ← isNamed then enclosed field ')' else enclosed element ')'
  if unwrapped then
    if (← peek?) = some ')' then return
    match ← content with
    | .named => return ← upTo field ')'
    | .several => return ← upTo element ')'
    | .single => pure ()
  if ← anyWord? valueWords then return
  if ← word? "Some" then
    let inner := inner.getD fun _ => failure
    return ← someOf m (inner m.unwrapVariants) (inner false)
  if ← letters? "()" then return
  if ← anyWord? unsignedNumberWords then return ← rangeEnd?
  if let some _ ← identifier? then
    blank
    if ← sign? '(' then group
    return
  match ← peek? with
  | some '(' => sign '('; group
  | some '[' => sign '['; enclosed element ']'
  | some '\x7b' => sign '\x7b'; enclosed pair '\x7d'
  | some '"' | some 'r' => let _ ← quoted Quoted.read
  | some '\'' => let _ ← quoted Quoted.readChar
  | some 'b' =>
    let bytes : Reader Unit := do
      let _ ← quoted Quoted.readBytes
    numberOrRange <|> bytes
  | some c => if c.isDigit || ['+', '-', '.'].contains c then numberOrRange else failure
  | none => failure

/-- Skips a value that nests at most `depth` levels. -/
def value (m : ReadMode) : (depth : Nat) → (unwrapped : Bool) → Reader Unit
  | 0 => valueWith m none none
  | 1 => valueWith m (some (value m 0)) none
  | depth + 2 => valueWith m (some (value m (depth + 1))) (some (value m depth false))

end Reader

end VoxelScene
