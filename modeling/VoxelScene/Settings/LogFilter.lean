import VoxelScene.Fault
import VoxelScene.Number.Notation
import VoxelScene.Text.Alphanumeric
import VoxelScene.Text.Pattern
import VoxelScene.Text.WhiteSpace

/-!
Which log lines are shown.

A filter is a list of directives divided by commas. A bare level is the default for all targets; a
target with a level holds for all targets that start with it; a target alone shows everything. In
brackets a directive may ask for a span and, in braces, for a field and its value. Lines lie in no
span and the values of fields are not looked at, so a directive for a span or a value decides nothing.
The longest target that fits decides, and with the same target a directive that asks for a field.
Where several directives are for the same lines, the last one holds.
-/

namespace VoxelScene

/-- How much is shown, or how much a line matters. -/
inductive LogLevel where
  | off
  | error
  | warn
  | info
  | debug
  | trace
deriving DecidableEq, Repr

namespace LogLevel

def all : List LogLevel := [.off, .error, .warn, .info, .debug, .trace]

def name : LogLevel → String
  | .off => "off"
  | .error => "error"
  | .warn => "warn"
  | .info => "info"
  | .debug => "debug"
  | .trace => "trace"

/-- Number of a level: a higher one shows more. -/
def rank : LogLevel → Nat
  | .off => 0
  | .error => 1
  | .warn => 2
  | .info => 3
  | .debug => 4
  | .trace => 5

/-- The level with a name, in any case, or a number. -/
def ofText? (s : String) : Option LogLevel :=
  let digits := if s.startsWith "+" then s.toList.drop 1 else s.toList
  let isNumber := !digits.isEmpty && digits.all Char.isDigit
  all.find? fun l =>
    String.ofList (s.toList.map Char.toLower) = l.name ||
      (isNumber && Single.digitsValue digits == l.rank)

end LogLevel

structure LogDirective where
  /-- Beginning of the targets it holds for; all targets if empty. -/
  target : String
  /-- The span that a line has to lie in. -/
  span : Option String
  /-- The field that a line has to have, perhaps with its value. -/
  field : Option (String × Option String)
  level : LogLevel
deriving DecidableEq, Repr

/-- Splits after a number of bytes; a character cannot be split. -/
def splitAtByte : Nat → List Char → Checked (List Char × List Char)
  | 0, cs => .ok ([], cs)
  | _ + 1, [] => .error .splitCharacter
  | n + 1, c :: rest =>
    if n + 1 < c.utf8Size then .error .splitCharacter
    else do
      let (before, after) ← splitAtByte (n + 1 - c.utf8Size) rest
      return (c :: before, after)

namespace LogDirective

/-! ### Reading

Blanks around a directive do not count when its words are looked for. Their places are then counted
from the start of the directive with its blanks, and the words are cut out there: blanks in front shift
the words to the left, and blanks at the end belong to the last word. -/

/-- What comes in place of the words after `before`. -/
def cutAfter (part before : List Char) : Checked (List Char) := do
  let (_, rest) ← splitAtByte (String.ofList before).utf8ByteSize part
  return rest

/-- What comes in place of `word` after `before`. -/
def cut (part before word : List Char) : Checked String := do
  let (w, _) ← splitAtByte (String.ofList word).utf8ByteSize (← cutAfter part before)
  return String.ofList w

/-- The level at the end of a directive; all levels if there is none. -/
def readLevel (part before : List Char) : List Char → OptionT (Except Fault) LogLevel
  | [] => return .trace
  | '=' :: _ => do
    let level ← cutAfter part (before ++ ['='])
    if level.isEmpty then return .trace
    match LogLevel.ofText? (String.ofList level) with
    | some l => return l
    | none => failure
  | _ => failure

/-- A field with the value that may follow an equals sign: a number or a pattern. -/
def readField (s : String) : Option (String × Option String) :=
  match s.splitOn "=" with
  | name :: value :: _ =>
    if (Single.ofText? value).isSome || isPattern value.toList then some (name, some value) else none
  | _ => if s.isEmpty then none else some (s, none)

/-- The directive from behind the opening bracket, which comes after `before`. -/
def readBrackets (part : List Char) (target : String) (before rest : List Char) :
    OptionT (Except Fault) LogDirective := do
  let span := rest.takeWhile fun c => c != ']' && c != '\x7b'
  match rest.drop span.length with
  | ']' :: rest =>
    let name ← cut part before span
    return ⟨target, some name, none, ← readLevel part (before ++ span ++ [']']) rest⟩
  | '\x7b' :: rest =>
    let name ← cut part before span
    let before := before ++ span ++ ['\x7b']
    let field := rest.takeWhile (· != '\x7d')
    match rest.drop field.length with
    | '\x7d' :: rest =>
      match readField (← cut part before field), rest with
      | some f, ']' :: rest =>
        let level ← readLevel part (before ++ field ++ ['\x7d', ']']) rest
        return ⟨target, if name.isEmpty then none else some name, some f, level⟩
      | _, _ => failure
    | _ => failure
  | _ => failure

/-- The directive that a part of a filter holds. -/
def read (part : List Char) : OptionT (Except Fault) LogDirective := do
  let words := trimWhiteSpace part
  let target := words.takeWhile fun c => c != '=' && c != '['
  match words.head?, words.drop target.length with
  | none, _ => failure
  | some '[', _ => readBrackets part "" ['['] (words.drop 1)
  | some c, rest =>
    if !(isAlphanumeric c || ['-', ':', '_'].contains c) then failure
    match rest with
    | [] =>
      let s := String.ofList part
      match LogLevel.ofText? s with
      | some l => return ⟨"", none, none, l⟩
      | none => return ⟨s, none, none, .trace⟩
    | '[' :: rest =>
      readBrackets part (← cut part [] target) (target ++ ['[']) rest
    | rest =>
      let name ← cut part [] target
      return ⟨name, none, none, ← readLevel part target rest⟩

/-! ### Use -/

/-- The directive decides on lines. -/
def decides (d : LogDirective) : Bool := d.span.isNone && d.field.all (·.2.isNone)

/-- Two directives are for the same lines. -/
def sameLines (a b : LogDirective) : Bool := a.target == b.target && a.field == b.field

/-- At least as specific: longer targets come first, then those with a field, then those that are
greater as texts. -/
def before (a b : LogDirective) : Bool :=
  let size (d : LogDirective) : Nat := d.target.utf8ByteSize
  let field (d : LogDirective) : String := (d.field.map (·.1)).getD ""
  if size a != size b then size b < size a
  else if a.field.isSome != b.field.isSome then a.field.isSome
  else if a.target != b.target then b.target < a.target
  else field b ≤ field a

/-- The directive holds for lines of this target with these fields. -/
def fits (d : LogDirective) (target : String) (fields : List String) : Bool :=
  target.startsWith d.target && d.field.all fun f => fields.contains f.1

def toText (d : LogDirective) : String :=
  let field := d.field.elim "" fun f => "[\x7b" ++ f.1 ++ "\x7d]"
  let lines := d.target ++ field
  if lines.isEmpty then d.level.name else lines ++ "=" ++ d.level.name

end LogDirective

/-- The directives of a filter that decide on lines, the most specific first. -/
structure LogFilter where
  directives : List LogDirective
deriving DecidableEq, Repr

namespace LogFilter

/-- The filter that is used where none is set. -/
def standardText : String := "info,wgpu=warn,naga=warn"

/-- The text of the filter for a log level of the settings. -/
def textFor (level : Option String) : String :=
  let level := String.ofList (trimWhiteSpace (level.getD "").toList)
  if level.isEmpty then standardText
  else if level.contains '=' then level
  else level ++ ",wgpu=warn,naga=warn"

/-- The filter with one more directive, in place of an earlier one for the same lines. -/
def add (f : LogFilter) (d : LogDirective) : LogFilter :=
  ⟨((f.directives.filter fun x => !x.sameLines d) ++ [d]).mergeSort LogDirective.before⟩

/-- The filter of a list of directives. Without any, errors are shown. -/
def ofDirectives (ds : List LogDirective) : LogFilter :=
  if ds.isEmpty then ⟨[⟨"", none, none, .error⟩]⟩
  else (ds.filter LogDirective.decides).foldl add ⟨[]⟩

/-- The filter that a text holds; parts that are no directives are left out. -/
def ofText (s : String) : Checked LogFilter := do
  let found ← (s.splitOn ",").mapM fun part => (LogDirective.read part.toList).run
  return ofDirectives (found.filterMap id)

def toText (f : LogFilter) : String := ",".intercalate (f.directives.map LogDirective.toText)

/-- A line of this level from this target with these fields is shown. -/
def shows (f : LogFilter) (target : String) (fields : List String) (level : LogLevel) : Bool :=
  match f.directives.find? fun d => d.fits target fields with
  | some d => level.rank ≤ d.level.rank
  | none => false

end LogFilter

end VoxelScene
