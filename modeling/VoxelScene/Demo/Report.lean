import VoxelScene.Build.Store
import VoxelScene.Settings.LogFilter

/-!
What the demo reports while it runs.
-/

namespace VoxelScene

/-- Counts over all published meshes. Faces by direction and sloping faces are counted in whole meshes
only. -/
structure MeshCounts where
  chunks : Nat
  quads : Nat
  top : Nat
  bottom : Nat
  sides : Nat
  ramped : Nat
  liquid : Nat
deriving DecidableEq, Repr

def Store.counts (s : Store) : MeshCounts :=
  let sets := s.meshes.toList.map (·.2)
  let wholes := sets.filterMap fun m =>
    match m.solid with
    | .whole mesh => some mesh
    | .sliced _ => none
  let toward (f : Face) : Nat := total (wholes.map fun m => FaceMesh.countToward m f)
  { chunks := s.publishedCount
    quads := s.quadCount
    top := toward .top
    bottom := toward .bottom
    sides := total (Face.sides.map toward)
    ramped := total (wholes.map fun m => m.faces.countP SolidFace.ramped)
    liquid := total (sets.map fun m => total (m.liquids.map fun l => l.mesh.quadCount)) }

/-- One line of the log. -/
inductive Report where
  | built (chunks : Nat) (d : Dims)
  | ramps (chunks : Nat)
  | meshed (counts : MeshCounts)
  | trench (resloped before after : Nat)
  | sprites (species live planted visible sorts : Nat)
  | failed (reason : String)
deriving DecidableEq, Repr

namespace Report

def message : Report → String
  | .built chunks d => s!"built world: {chunks} chunks of {d.x}x{d.y}x{d.z}"
  | .ramps chunks => s!"resolved ramps in {chunks} chunks"
  | .meshed c =>
    s!"meshed {c.chunks} chunks: {c.quads} quads (top {c.top}, bottom {c.bottom}, " ++
      s!"sides {c.sides}), {c.ramped} ramped, {c.liquid} liquid"
  | .trench resloped before after =>
    s!"trench edit: {resloped} chunks resloped, quads {before} -> {after}"
  | .sprites species live planted visible sorts =>
    s!"billboards: {species} species, {live} instances ({planted} trees spawned), " ++
      s!"{visible} visible, {sorts} re-sorts"
  | .failed reason => s!"demo failed: {reason}"

/-- The part of the program that speaks. -/
def target : Report → String
  | .built .. => "strata_demo::world"
  | _ => "strata_demo"

/-- The fields of every line. -/
def fields : List String := ["message"]

def level : Report → LogLevel
  | .failed _ => .error
  | _ => .info

end Report

end VoxelScene
