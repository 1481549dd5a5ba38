import VoxelScene.Settings.Document
import VoxelScene.Text.Value

/-!
Documents as text in parentheses.

A document is written as nested records, one field a line. Reading is more liberal: fields may come in
any order and be left out, records may carry the name of their type, and fields that are not known
are skipped. A known field may be given once only.
-/

namespace VoxelScene

/-! ### Writing -/

namespace SettingsText

def indent (depth : Nat) : String := String.ofList (List.replicate (4 * depth) ' ')

def field (depth : Nat) (name value : String) : String :=
  indent depth ++ name ++ ": " ++ value ++ ",\n"

/-- Lines between parentheses; the closing one stands at `depth`. -/
def block (depth : Nat) (lines : List String) : String :=
  "(\n" ++ String.join lines ++ indent depth ++ ")"

def natural (n : UInt32) : String := toString n.toNat

/-- A NaN keeps its sign. -/
def single (x : Single) : String := (if x.isNaN && x.isNegative then "-" else "") ++ x.written

def truth (b : Bool) : String := if b then "true" else "false"

def level : Option Int32 → String
  | none => "None"
  | some n => "Some(" ++ toString n.toInt ++ ")"

def sizes (s : ChunkSize) : String :=
  block 2 ([s.x, s.y, s.z].map fun n => indent 3 ++ natural n ++ ",\n")

def quoted (s : String) : String := String.ofList (Quoted.write s.toList)

end SettingsText

def Setting.toText : Setting → String
  | .natural n => SettingsText.natural n
  | .single x => SettingsText.single x
  | .truth b => SettingsText.truth b
  | .text s => SettingsText.quoted s
  | .level n => SettingsText.level n
  | .mode m => m.name
  | .sizes s => SettingsText.sizes s

/-- The text of the fields, at the depth of a section. -/
def SettingsText.fields (fs : List (String × Setting)) : String :=
  SettingsText.block 1 (fs.map fun f => SettingsText.field 2 f.1 f.2.toText)

def Document.toText (doc : Document) : String :=
  SettingsText.block 0 (doc.map fun p => SettingsText.field 1 p.1 (SettingsText.fields p.2))

/-! ### Reading -/

namespace Reader

/-- The letters, then blanks. -/
def mark (s : String) : Reader Unit := do
  if ← letters? s then blank else failure

/-- The mode with one more extension. -/
def extend (m : ReadMode) (extension : String) : Option ReadMode :=
  match extension with
  | "implicit_some" => some { m with implicitSome := true }
  | "explicit_struct_names" => some { m with explicitNames := true }
  | "unwrap_variant_newtypes" => some { m with unwrapVariants := true }
  | "unwrap_newtypes" => some m
  | _ => none

/-- One extension at least, in parentheses. -/
def extensions (m : ReadMode) : Reader ReadMode := do
  mark "("
  let names ← itemsUntil identifier ')'
  if names.isEmpty then failure
  match names.foldlM extend m with
  | some m => return m
  | none => failure

/-- A remark on the type or the schema of the settings, which changes nothing. -/
def remark : Reader Unit := do
  if ← anyWord? ["type", "schema"] then
    blank
    mark "="
    let _ ← text
  else failure

/-- One attribute: extensions or a remark. -/
def header (m : ReadMode) : Reader ReadMode := do
  ["#", "!", "["].forM mark
  let m ← if ← word? "enable" then
      blank
      extensions m
    else
      remark
      pure m
  blank
  mark "]"
  return m

/-- All attributes in front; each takes a character at least, so `fuel` may be the length. -/
def headers : (fuel : Nat) → ReadMode → Reader ReadMode
  | 0, m => return m
  | fuel + 1, m => do
    if (← peek?) = some '#' then headers fuel (← header m) else return m

/-- The name of a type, where it is given or has to be. -/
def typeName (m : ReadMode) (name : String) : Reader Unit := do
  if (← peek?).any isIdentifierRest then
    if (← identifier) = name then blank else failure
  else if m.explicitNames then failure

/-- A field of a record, if it is known. -/
def fieldOf {α : Type} (m : ReadMode) (depth : Nat) (fields : List (String × Reader α)) :
    Reader (Option (String × α)) :=
  entry identifier fun name =>
    match fields.lookup name with
    | some r => return some (name, ← r)
    | none => do
      value m depth false
      return none

/-- The known fields that a record gives. -/
def record {α : Type} (m : ReadMode) (name : String) (depth : Nat)
    (fields : List (String × Reader α)) : Reader (List (String × α)) := do
  typeName m name
  sign '('
  let given ← itemsUntil (fieldOf m depth fields) ')'
  let known := given.filterMap id
  if (known.map (·.1)).Nodup then return known
  failure

def natural : Reader UInt32 := return .ofNat (← integer (.unsigned 32)).toNat

def single : Reader Single := fraction ["f32"]

/-- A value that may be missing. -/
def optional {α : Type} (m : ReadMode) (r : Reader α) : Reader (Option α) := do
  if ← word? "None" then return none
  if ← word? "Some" then return some (← someOf m r r)
  if m.implicitSome then return some (← r) else failure

def level (m : ReadMode) : Reader (Option Int32) :=
  optional m (return .ofInt (← integer (.signed 32)))

def sizes : Reader ChunkSize := do
  sign '('
  match ← itemsUntil natural ')' with
  | [x, y, z] => return ⟨x, y, z⟩
  | _ => failure

def viewMode : Reader ViewMode := do
  match ← identifier with
  | "Full" => return .full
  | "Sliced" => return .sliced
  | _ => failure

def setting (m : ReadMode) : SettingKind → Reader Setting
  | .natural => return .natural (← natural)
  | .single => return .single (← single)
  | .truth => return .truth (← truth)
  | .text => return .text (← text)
  | .level => return .level (← level m)
  | .mode => return .mode (← viewMode)
  | .sizes => return .sizes (← sizes)

/-- The fields of a section. -/
def sectionOf (m : ReadMode) (c : SectionShape) : Reader (List (String × Setting)) :=
  record m c.type 124 (c.fields.map fun f => (f.1, setting m f.2))

/-- A document with the attributes in front of it and nothing behind. -/
def document (shape : Shape) : Reader Document := do
  blank
  let fuel := (← get).length
  let m ← headers fuel {}
  let doc ← record m shape.type 126 (shape.sections.map fun c => (c.name, sectionOf m c))
  blank
  if (← get).isEmpty then return doc else failure

end Reader

/-- The format of the settings file. -/
def TextFormat.parenthesised : TextFormat where
  write := Document.toText
  read? shape s := (Reader.document shape s.toList).map (·.1)

end VoxelScene
