import VoxelScene.Settings.Settings

/-!
Settings as a document.

On disk, settings are sections of named fields. Which fields there are, what kind of value each takes
and what stands for a field that is not given is settled here. How a document becomes text is up to a
format, which knows nothing about settings but the shape of their documents.
-/

namespace VoxelScene

/-- The value of one field. -/
inductive Setting where
  | natural (n : UInt32)
  | single (x : Single)
  | truth (b : Bool)
  | text (s : String)
  | level (n : Option Int32)
  | mode (m : ViewMode)
  | sizes (s : ChunkSize)
deriving DecidableEq, Repr

inductive SettingKind where
  | natural
  | single
  | truth
  | text
  | level
  | mode
  | sizes
deriving DecidableEq, Repr

def Setting.kind : Setting → SettingKind
  | .natural _ => .natural
  | .single _ => .single
  | .truth _ => .truth
  | .text _ => .text
  | .level _ => .level
  | .mode _ => .mode
  | .sizes _ => .sizes

/-- Sections by name, each with its fields by name. -/
abbrev Document := List (String × List (String × Setting))

/-- The names of a section, of its type and of its fields. -/
structure SectionShape where
  name : String
  type : String
  fields : List (String × SettingKind)
deriving DecidableEq, Repr

structure Shape where
  type : String
  sections : List SectionShape
deriving DecidableEq, Repr

/-! ### Documents of settings -/

/-- All fields by section, in the order in which they are written. -/
def Settings.sections (s : Settings) : Document := [
  ("meshing", [
    ("chunk_size", .sizes s.meshing.chunkSize),
    ("ramp_depth", .single s.meshing.rampDepth),
    ("jitter_amplitude", .single s.meshing.jitterAmplitude),
    ("jitter_seed", .natural s.meshing.jitterSeed),
    ("view_mode", .mode s.meshing.viewMode),
    ("view_level", .level s.meshing.viewLevel)]),
  ("liquid", [
    ("puddle_depth_threshold", .natural s.liquid.puddleDepth),
    ("puddle_foam", .single s.liquid.puddleFoam),
    ("uv_scale", .single s.liquid.scale),
    ("max_column_scan", .natural s.liquid.maxColumnScan)]),
  ("billboards", [
    ("sort_interval_secs", .single s.sprites.sortInterval),
    ("cull_distance", .single s.sprites.cullDistance),
    ("depth_penalty", .single s.sprites.depthPenalty),
    ("default_capacity", .natural s.sprites.capacity)]),
  ("workers", [
    ("mesh_threads", .natural s.workers.threads),
    ("in_flight_budget", .natural s.workers.inFlightBudget)]),
  ("debug", [
    ("log_level", .text s.debug.logLevel),
    ("log_mesh_stats", .truth s.debug.logMeshStats)])]

def Settings.shape : Shape where
  type := "Config"
  sections := [
    ⟨"meshing", "MeshingConfig", [("chunk_size", .sizes), ("ramp_depth", .single),
      ("jitter_amplitude", .single), ("jitter_seed", .natural), ("view_mode", .mode),
      ("view_level", .level)]⟩,
    ⟨"liquid", "LiquidConfig", [("puddle_depth_threshold", .natural), ("puddle_foam", .single),
      ("uv_scale", .single), ("max_column_scan", .natural)]⟩,
    ⟨"billboards", "BillboardConfig", [("sort_interval_secs", .single), ("cull_distance", .single),
      ("depth_penalty", .single), ("default_capacity", .natural)]⟩,
    ⟨"workers", "WorkerConfig", [("mesh_threads", .natural), ("in_flight_budget", .natural)]⟩,
    ⟨"debug", "DebugConfig", [("log_level", .text), ("log_mesh_stats", .truth)]⟩]

def MeshingSection.put (s : MeshingSection) : String × Setting → MeshingSection
  | ("chunk_size", .sizes x) => { s with chunkSize := x }
  | ("ramp_depth", .single x) => { s with rampDepth := x }
  | ("jitter_amplitude", .single x) => { s with jitterAmplitude := x }
  | ("jitter_seed", .natural x) => { s with jitterSeed := x }
  | ("view_mode", .mode x) => { s with viewMode := x }
  | ("view_level", .level x) => { s with viewLevel := x }
  | _ => s

def LiquidSection.put (s : LiquidSection) : String × Setting → LiquidSection
  | ("puddle_depth_threshold", .natural x) => { s with puddleDepth := x }
  | ("puddle_foam", .single x) => { s with puddleFoam := x }
  | ("uv_scale", .single x) => { s with scale := x }
  | ("max_column_scan", .natural x) => { s with maxColumnScan := x }
  | _ => s

def SpriteSection.put (s : SpriteSection) : String × Setting → SpriteSection
  | ("sort_interval_secs", .single x) => { s with sortInterval := x }
  | ("cull_distance", .single x) => { s with cullDistance := x }
  | ("depth_penalty", .single x) => { s with depthPenalty := x }
  | ("default_capacity", .natural x) => { s with capacity := x }
  | _ => s

def WorkerSection.put (s : WorkerSection) : String × Setting → WorkerSection
  | ("mesh_threads", .natural x) => { s with threads := x }
  | ("in_flight_budget", .natural x) => { s with inFlightBudget := x }
  | _ => s

def DebugSection.put (s : DebugSection) : String × Setting → DebugSection
  | ("log_level", .text x) => { s with logLevel := x }
  | ("log_mesh_stats", .truth x) => { s with logMeshStats := x }
  | _ => s

/-- A section that is given starts from its default values. -/
def Settings.put (s : Settings) : String × List (String × Setting) → Settings
  | ("meshing", fields) => { s with meshing := fields.foldl .put {} }
  | ("liquid", fields) => { s with liquid := fields.foldl .put {} }
  | ("billboards", fields) => { s with sprites := fields.foldl .put {} }
  | ("workers", fields) => { s with workers := fields.foldl .put {} }
  | ("debug", fields) => { s with debug := fields.foldl .put {} }
  | _ => s

/-- The settings of a document; what it does not give has its default value. -/
def Settings.ofDocument (doc : Document) : Settings := doc.foldl .put {}

/-! ### Formats -/

/-- A way to keep documents as text. -/
structure TextFormat where
  write : Document → String
  /-- The document that a text holds, if it is one of the given shape. Sections and fields of the
  shape may be missing from it. -/
  read? : Shape → String → Option Document

/-! ### What a format has to do -/

namespace Document

/-- The values of all fields. -/
def values (doc : Document) : List Setting := doc.flatMap fun p => p.2.map (·.2)

/-- The document has the sections and fields of the shape, in their order. -/
def Fits (doc : Document) (shape : Shape) : Prop :=
  doc.map (fun p => (p.1, p.2.map fun f => (f.1, f.2.kind))) =
    shape.sections.map fun c => (c.name, c.fields)

end Document

def Setting.single? : Setting → Option Single
  | .single x => some x
  | _ => none

/-- The numbers among the values. -/
def Document.singles (doc : Document) : List Single := doc.values.filterMap Setting.single?

/-- What is written for a whole document without a NaN is read back. -/
structure TextFormat.Faithful (f : TextFormat) (shape : Shape) : Prop where
  read_write : ∀ doc : Document, doc.Fits shape → (∀ x ∈ doc.singles, x.isNaN = false) →
    f.read? shape (f.write doc) = some doc

end VoxelScene
