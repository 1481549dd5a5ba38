import VoxelScene.Settings.Settings

/-!
The command line.

Options override settings. An option takes the argument after it, or what follows an equals sign. A
value is judged when the next option is met or the line ends; an argument that is not known is
refused before that.
-/

namespace VoxelScene

/-- Why a command line was refused. -/
inductive UsageError where
  | unknownArgument
  /-- A value is missing or empty. -/
  | missingValue
  /-- A value does not read as what it should be. -/
  | badValue
  | repeated
  /-- A value for an option that takes none. -/
  | extraValue
  /-- Help was asked for. -/
  | help
deriving DecidableEq, Repr

inductive Flag where
  | rampDepth
  | sliced
  | viewLevel
  | meshThreads
  | spriteCapacity
  | logLevel
  | folder
  | help
deriving DecidableEq, Repr

namespace Flag

def all : List Flag :=
  [.rampDepth, .sliced, .viewLevel, .meshThreads, .spriteCapacity, .logLevel, .folder, .help]

def name : Flag → String
  | .rampDepth => "ramp-depth"
  | .sliced => "sliced"
  | .viewLevel => "view-level"
  | .meshThreads => "mesh-threads"
  | .spriteCapacity => "billboard-capacity"
  | .logLevel => "log-level"
  | .folder => "config"
  | .help => "help"

def named? (s : String) : Option Flag := all.find? fun f => f.name = s

def takesValue : Flag → Bool
  | .sliced | .help => false
  | _ => true

/-- The value may start with a hyphen. -/
def allowsHyphen : Flag → Bool
  | .viewLevel => true
  | _ => false

end Flag

/-- What the command line asks for. -/
structure Arguments where
  rampDepth : Option Single := none
  sliced : Bool := false
  viewLevel : Option Int32 := none
  meshThreads : Option UInt32 := none
  spriteCapacity : Option UInt32 := none
  logLevel : Option String := none
  folder : Option String := none
deriving DecidableEq, Repr

/-- A decimal integer with an optional sign. -/
def decimalInteger? (s : String) : Option Int :=
  let (negative, digits) := match s.toList with
    | '-' :: rest => (true, rest)
    | '+' :: rest => (false, rest)
    | rest => (false, rest)
  if digits.isEmpty || !digits.all Char.isDigit then none
  else
    let n : Int := Single.digitsValue digits
    some (if negative then -n else n)

namespace Arguments

def natural? (s : String) : Option UInt32 :=
  (decimalInteger? s).bind fun n => if 0 ≤ n ∧ n ≤ 4294967295 then some (.ofNat n.toNat) else none

def level? (s : String) : Option Int32 :=
  (decimalInteger? s).bind fun n => if Coord.Fits n then some (.ofInt n) else none

/-- Whether an option was given already. -/
def has (a : Arguments) : Flag → Bool
  | .rampDepth => a.rampDepth.isSome
  | .sliced => a.sliced
  | .viewLevel => a.viewLevel.isSome
  | .meshThreads => a.meshThreads.isSome
  | .spriteCapacity => a.spriteCapacity.isSome
  | .logLevel => a.logLevel.isSome
  | .folder => a.folder.isSome
  | .help => false

/-- Takes an option with its value. -/
def give (a : Arguments) (f : Flag) (v : String) : Except UsageError Arguments :=
  let checked {α : Type} (x : Option α) (put : α → Arguments) : Except UsageError Arguments :=
    match x with
    | some x => .ok (put x)
    | none => .error .badValue
  if a.has f then .error .repeated
  else
    match f with
    | .rampDepth => checked (Single.ofText? v) fun x => { a with rampDepth := some x }
    | .viewLevel => checked (level? v) fun x => { a with viewLevel := some x }
    | .meshThreads => checked (natural? v) fun x => { a with meshThreads := some x }
    | .spriteCapacity => checked (natural? v) fun x => { a with spriteCapacity := some x }
    | .logLevel => .ok { a with logLevel := some v }
    | .folder => if v.isEmpty then .error .missingValue else .ok { a with folder := some v }
    | .sliced => .ok { a with sliced := true }
    | .help => .error .help

end Arguments

/-- Where the reading of a command line stands. -/
structure LineState where
  given : Arguments := {}
  /-- An option whose value is not judged yet, or still to come. -/
  pending : Option (Flag × Option String) := none
  /-- A double hyphen was met: no more options. -/
  closed : Bool := false
deriving DecidableEq, Repr

namespace LineState

/-- Judges what is pending. -/
def settle (s : LineState) : Except UsageError LineState :=
  match s.pending with
  | none => .ok s
  | some (_, none) => .error .missingValue
  | some (f, some v) => do
    return { s with given := ← s.given.give f v, pending := none }

/-- The option that waits for a value. -/
def waiting? (s : LineState) : Option Flag :=
  match s.pending with
  | some (f, none) => some f
  | _ => none

/-- Takes an option that is written out, with what follows the equals sign. -/
def option (s : LineState) (name : String) (attached : Option String) :
    Except UsageError LineState := do
  match Flag.named? name with
  | none => throw .unknownArgument
  | some f =>
    if f.takesValue then
      let s ← s.settle
      match attached with
      | some v => return { s with given := ← s.given.give f v }
      | none => return { s with pending := some (f, none) }
    else if attached.isSome then throw .extraValue
    else
      let s ← s.settle
      return { s with given := ← s.given.give f "" }

/-- Splits at the first equals sign. -/
def splitEquals (cs : List Char) : String × Option String :=
  match cs.dropWhile (· != '=') with
  | '=' :: v => (String.ofList (cs.takeWhile (· != '=')), some (String.ofList v))
  | _ => (String.ofList cs, none)

/-- Takes the next argument. -/
def step (s : LineState) (arg : String) : Except UsageError LineState :=
  if s.closed then .error .unknownArgument
  else if s.waiting?.any Flag.allowsHyphen then
    .ok { s with pending := s.waiting?.map (·, some arg) }
  else
    match arg.toList with
    | ['-', '-'] => .ok { s with closed := true }
    | '-' :: '-' :: rest => let (name, attached) := splitEquals rest; s.option name attached
    | '-' :: 'h' :: _ => s.option "help" none
    | '-' :: _ :: _ => .error .unknownArgument
    | _ =>
      match s.waiting? with
      | some f => .ok { s with pending := some (f, some arg) }
      | none => .error .unknownArgument

end LineState

/-- Reads a command line, the name of the program left out. -/
def Arguments.parse (args : List String) : Except UsageError Arguments := do
  let s ← args.foldlM LineState.step {}
  return (← s.settle).given

/-- The settings with what the command line asks for. -/
def Settings.override (s : Settings) (a : Arguments) : Settings where
  meshing := { s.meshing with
    rampDepth := a.rampDepth.getD s.meshing.rampDepth
    viewMode := if a.sliced then .sliced else s.meshing.viewMode
    viewLevel := a.viewLevel.or s.meshing.viewLevel }
  liquid := s.liquid
  sprites := { s.sprites with capacity := a.spriteCapacity.getD s.sprites.capacity }
  workers := { s.workers with threads := a.meshThreads.getD s.workers.threads }
  debug := { s.debug with logLevel := a.logLevel.getD s.debug.logLevel }

end VoxelScene
