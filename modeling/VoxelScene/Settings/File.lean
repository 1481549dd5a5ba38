import VoxelScene.Settings.Document

/-!
Settings on disk.

Settings are kept in a file of a fixed name in a folder. Loading reads the file, or writes the default
settings if there is none. Reloading tells whether the file holds other settings than the given ones.
-/

namespace VoxelScene

/-- What carries the name of the settings file. -/
inductive FolderEntry where
  | folder
  | file (bytes : ByteArray)

/-- What lies at the path of the settings folder. -/
inductive Place where
  | absent
  /-- A file that is no folder. -/
  | occupied
  | folder (entry : Option FolderEntry)

/-- Why a path could not be read or written. -/
inductive PathError where
  | missing
  | taken
  | notFolder
  | isFolder
  | notText
  /-- Any other reason. -/
  | other (reason : String)
deriving DecidableEq, Repr

def PathError.message : PathError → String
  | .missing => "No such file or directory (os error 2)"
  | .taken => "File exists (os error 17)"
  | .notFolder => "Not a directory (os error 20)"
  | .isFolder => "Is a directory (os error 21)"
  | .notText => "stream did not contain valid UTF-8"
  | .other reason => reason

inductive SettingsError where
  | read (path : String) (cause : PathError)
  | write (path : String) (cause : PathError)
  | parse (path : String)
deriving DecidableEq, Repr

def SettingsError.message : SettingsError → String
  | .read path cause => s!"cannot read {path}: {cause.message}"
  | .write path cause => s!"cannot write {path}: {cause.message}"
  | .parse path => s!"invalid config in {path}: "

/-- The path of something inside a folder. -/
def joinPath (folder name : String) : String :=
  if folder.isEmpty || folder.toList.getLast? = some '/' then folder ++ name
  else folder ++ "/" ++ name

/-- The path of the settings file. -/
def settingsPath (folder : String) : String := joinPath folder "config.ron"

namespace Place

variable (f : TextFormat)

/-- Something carries the name of the settings file. -/
def hasEntry : Place → Bool
  | .folder (some _) => true
  | _ => false

def bytes : Place → Except PathError ByteArray
  | .absent | .folder none => .error .missing
  | .occupied => .error .notFolder
  | .folder (some .folder) => .error .isFolder
  | .folder (some (.file bytes)) => .ok bytes

/-- The settings in the file. -/
def read (p : Place) (folder : String) : Except SettingsError Settings := do
  let path := settingsPath folder
  let bytes ← p.bytes.mapError (.read path)
  match String.fromUTF8? bytes with
  | none => throw (.read path .notText)
  | some text =>
    match f.read? Settings.shape text with
    | none => throw (.parse path)
    | some doc => return .ofDocument doc

/-- The place after the settings were written to the file; the folder is made if it is not there. -/
def save (p : Place) (folder : String) (s : Settings) : Except SettingsError Place :=
  match p with
  | .occupied => .error (.write folder .taken)
  | .folder (some .folder) => .error (.write (settingsPath folder) .isFolder)
  | _ => .ok (.folder (some (.file (f.write s.sections).toUTF8)))

/-- The settings in the file, or the default ones, which are then written. -/
def load (p : Place) (folder : String) : Except SettingsError Settings × Place :=
  if p.hasEntry then (p.read f folder, p)
  else
    match p.save f folder {} with
    | .ok p => (.ok {}, p)
    | .error e => (.error e, p)

/-- The settings in the file, if they do not agree with the given ones. -/
def reload (p : Place) (folder : String) (s : Settings) :
    Except SettingsError (Option Settings) := do
  let found ← p.read f folder
  return if found.agrees s then none else some found

end Place

/-- The folder for settings: below the folder for all settings, if that is given by an absolute path,
else below the user's own. -/
def settingsFolder (forSettings home : Option String) : String :=
  match forSettings.filter (·.startsWith "/") with
  | some folder => joinPath folder "strata"
  | none =>
    match home.filter (!·.isEmpty) with
    | some home => joinPath (joinPath home ".config") "strata"
    | none => "."

end VoxelScene
