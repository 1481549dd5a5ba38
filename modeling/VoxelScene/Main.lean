import VoxelScene.Demo.Session

/-!
The command line program: it looks at the settings folder, runs one session, writes what the session
left there and prints its log.
-/

namespace VoxelScene

/-- What lies at the path of the settings folder. -/
def inspectPlace (folder : String) : IO Place := do
  try
    return .folder (some (.file (← IO.FS.readBinFile (settingsPath folder))))
  catch e =>
    match e with
    | .inappropriateType _ 21 _ => return .folder (some .folder)
    | .inappropriateType .. => return .occupied
    | _ => return .absent

/-- Writes the settings file, if a session made one. -/
def writePlace (folder : String) (before after : Place) : IO Unit := do
  match before, after with
  | .absent, .folder (some (.file bytes)) =>
    IO.FS.createDirAll folder
    IO.FS.writeBinFile (settingsPath folder) bytes
  | _, _ => return

def Report.line (r : Report) : String :=
  String.ofList (r.level.name.toList.map Char.toUpper) ++ " " ++ r.target ++ ": " ++ r.message

/-- The options, as they are listed for help. -/
def usage : String :=
  "Options:\n" ++ String.join (Flag.all.map fun f =>
    "  --" ++ f.name ++ (if f.takesValue then " <VALUE>" else "") ++ "\n")

/-- One session in the settings folder that the options or the surroundings name. -/
def runSession (args : List String) : IO UInt32 := do
  match Arguments.parse args with
  | .error e =>
    if e = .help then IO.print usage else IO.eprint usage
    return UInt32.ofNat (Session.refused .absent e).exitCode
  | .ok a =>
    let standard := settingsFolder (← IO.getEnv "XDG_CONFIG_HOME") (← IO.getEnv "HOME")
    let folder := a.folder.getD standard
    let before ← inspectPlace folder
    let session := Session.run a folder before
    writePlace folder before session.place
    if let some e := session.loadError then
      IO.eprintln s!"Failed to load config: {e.message}, using defaults"
    for r in session.lines do
      IO.println r.line
    if let some f := session.fault then
      IO.eprintln f.message
    return UInt32.ofNat session.exitCode

end VoxelScene

def main (args : List String) : IO UInt32 := VoxelScene.runSession args
