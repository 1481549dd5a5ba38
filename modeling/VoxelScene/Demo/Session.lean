import VoxelScene.Demo.Run
import VoxelScene.Settings.CommandLine
import VoxelScene.Settings.File
import VoxelScene.Settings.Format

/-!
One call of the program.

The settings come from the settings folder, with what the command line says on top. If they cannot be
loaded, the default ones are used instead.
-/

namespace VoxelScene

structure Session where
  exitCode : Nat
  /-- The settings folder afterwards. -/
  place : Place
  /-- Why the settings could not be loaded. -/
  loadError : Option SettingsError
  /-- The log lines that are shown. -/
  lines : List Report
  /-- A fault that ended the run. -/
  fault : Option Fault

namespace Session

/-- A command line that is refused changes nothing; asking for help is no failure. -/
def refused (p : Place) (e : UsageError) : Session :=
  ⟨if e = .help then 0 else 2, p, none, [], none⟩

/-- How a run ended: its exit code, a last line of the log and a fault. -/
def ending : Except RunError Unit → Nat × List Report × Option Fault
  | .ok () => (0, [], none)
  | .error (.fault f) => (101, [], some f)
  | .error e => (1, [.failed e.message], none)

/-- A call with options that were accepted. -/
def run (a : Arguments) (folder : String) (p : Place) : Session :=
  let (loaded, p) := p.load .parenthesised folder
  let (base, loadError) := match loaded with
    | .ok s => (s, none)
    | .error e => (({} : Settings), some e)
  let s := base.override a
  match LogFilter.ofText (LogFilter.textFor (some s.debug.logLevel)) with
  | .error f => ⟨101, p, loadError, [], some f⟩
  | .ok filter =>
    let (outcome, reports) := s.runDemo.run.run []
    let (exitCode, last, fault) := ending outcome
    let lines := (reports ++ last).filter fun r => filter.shows r.target Report.fields r.level
    ⟨exitCode, p, loadError, lines, fault⟩

/-- A call with the settings folder at `p`. -/
def ofArguments (args : List String) (folder : String) (p : Place) : Session :=
  match Arguments.parse args with
  | .ok a => run a folder p
  | .error e => refused p e

end Session

end VoxelScene
