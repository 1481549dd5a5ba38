import VoxelScene.Chunk.Address
import VoxelScene.Mesh.Exposure
import VoxelScene.Mesh.Mesh
import VoxelScene.Mesh.Mesher
import VoxelScene.Number.Total

/-!
Solid meshes.

One quad is drawn for each visible face of each voxel, layer by layer in storage order. Lowered top
corners are pulled down by the ramp depth, and every vertex is moved by the jitter of its lattice
point. A sliced mesh keeps each layer apart, with a cap that closes the layer when it is cut open.
-/

namespace VoxelScene

structure SolidVertex where
  /-- Position from the chunk's least corner. -/
  position : Vec3
  normal : Vec3
  uv : UV
  color : Color
  texture : UInt32
deriving DecidableEq

structure SolidFace where
  direction : Face
  x : UInt16
  y : UInt16
  z : UInt16
  ramped : Bool
deriving DecidableEq, Repr

abbrev SolidQuad := Quad SolidVertex SolidFace

abbrev FaceMesh := Mesh SolidVertex SolidFace

/-- One layer of a sliced mesh. -/
structure Slice where
  layer : Nat
  /-- What is drawn whenever the layer is. -/
  body : FaceMesh
  /-- Top faces that are drawn only when the layer is the highest one drawn. -/
  cap : FaceMesh
deriving DecidableEq

def Slice.isEmpty (s : Slice) : Bool := s.body.isEmpty && s.cap.isEmpty

inductive SolidMesh where
  | whole (mesh : FaceMesh)
  | sliced (slices : List Slice)
deriving DecidableEq

namespace SolidMesh

def quadCount : SolidMesh → Nat
  | .whole m => m.quadCount
  | .sliced slices => total (slices.map fun s => s.body.quadCount + s.cap.quadCount)

def isEmpty : SolidMesh → Bool
  | .whole m => m.isEmpty
  | .sliced slices => slices.all Slice.isEmpty

end SolidMesh

namespace Mesher

/-- The vertex at a corner of a face. -/
def solidVertex (m : Mesher) (origin : Pos) (l : Local) (v : Voxel) (ramp : RampMask) (f : Face)
    (texture : UInt16) (c : CubeCorner) : Checked SolidVertex := do
  let base := (← l.toPos.plus c.unit).toVec3
  let lowered := c.top?.any ramp.lowered
  let depth := m.settings.rampDepth
  let position := if lowered then { base with y := base.y - depth } else base
  let uv := f.uv c
  let uv := if lowered && f.isSide then { uv with v := uv.v + depth } else uv
  let lattice ← (← origin.plus l.toPos).plus c.unit
  return {
    position := position.add (m.jitter.offset lattice)
    normal := f.normal
    uv := uv
    color := v.colorAt c
    texture := texture.toUInt32 }

/-- The quad of a face. -/
def solidQuad (m : Mesher) (origin : Pos) (l : Local) (v : Voxel) (type : VoxelType) (f : Face) :
    Checked SolidQuad := do
  let ramp := v.ramp.normalized
  let texture := (type.texturesFor !ramp.isFlat).ofFace f
  let corners ← f.corners.mapChecked (m.solidVertex origin l v ramp f texture)
  return ⟨⟨f, .ofNat l.x, .ofNat l.y, .ofNat l.z, !ramp.isFlat⟩, corners⟩

/-- The quads of some faces of a voxel; a voxel of an unregistered kind has none. -/
def voxelQuads (m : Mesher) (origin : Pos) (l : Local) (v : Voxel) (faces : FaceSet) :
    Checked (List SolidQuad) :=
  match VoxelCatalogue.type? m.voxelTypes v.kind with
  | none => return []
  | some type => faces.toList.mapM (m.solidQuad origin l v type)

/-- The quads of one cell under a view limit. -/
def cellQuads (m : Mesher) (q : Query) (origin : Pos) (g : Grid) (limit : Option Int) (l : Local) :
    Checked (List SolidQuad) := do
  let v := g.voxel l
  if !v.occludes then return []
  let faces ← q.visibleFaces (← origin.plus l.toPos) v limit
  m.voxelQuads origin l v faces

/-- The solid mesh of a chunk up to the view limit. -/
def faceMesh (m : Mesher) (q : Query) (a : Address) (g : Grid) : Checked FaceMesh := do
  let origin ← a.origin g.dims
  let limit := m.settings.viewLimit
  let quads ← collectLayers origin.y limit
    (fun y => Checked.collect (m.cellQuads q origin g limit) (g.dims.layer y))
    (List.range g.dims.y)
  Mesh.ofQuads quads

/-- The body and cap quads of one cell of a sliced mesh. -/
def cellSlice (m : Mesher) (q : Query) (origin : Pos) (g : Grid) (l : Local) :
    Checked (List SolidQuad × List SolidQuad) := do
  let v := g.voxel l
  if !v.occludes then return ([], [])
  let faces ← q.visibleFaces (← origin.plus l.toPos) v none
  let body ← m.voxelQuads origin l v faces
  let cap ← if faces.contains .top then pure []
    else m.voxelQuads origin l v (.ofList [.top])
  return (body, cap)

/-- One slice for each layer of the chunk, whatever the view limit. -/
def slices (m : Mesher) (q : Query) (a : Address) (g : Grid) : Checked (List Slice) := do
  let origin ← a.origin g.dims
  (List.range g.dims.y).mapM fun y => do
    let parts ← (g.dims.layer y).mapM (m.cellSlice q origin g)
    return ⟨y, ← Mesh.ofQuads (parts.flatMap (·.1)), ← Mesh.ofQuads (parts.flatMap (·.2))⟩

/-- The solid geometry of a chunk in the layout of the settings. -/
def solidMesh (m : Mesher) (q : Query) (a : Address) (g : Grid) : Checked SolidMesh :=
  match m.settings.sliceMode with
  | .whole => return .whole (← m.faceMesh q a g)
  | .layers => return .sliced (← m.slices q a g)

end Mesher

namespace Digest

def vec3 (d : Digest) (v : Vec3) : Digest :=
  ((d.word32 v.x.bits).word32 v.y.bits).word32 v.z.bits

def uv (d : Digest) (p : UV) : Digest := (d.word32 p.u.bits).word32 p.v.bits

end Digest

/-- How many faces look in a direction. -/
def FaceMesh.countToward (m : FaceMesh) (f : Face) : Nat := m.faces.countP fun x => x.direction = f

/-- The faces of one cell, in drawing order. -/
def FaceMesh.facesOf (m : FaceMesh) (x y z : UInt16) : List SolidFace :=
  m.faces.filter fun f => f.x = x ∧ f.y = y ∧ f.z = z

/-- Digest of the vertex buffer. -/
def FaceMesh.vertexDigest (m : FaceMesh) : Digest :=
  m.vertices.foldl (fun d v =>
    let d := ((d.vec3 v.position).vec3 v.normal).uv v.uv
    ((((d.byte v.color.r).byte v.color.g).byte v.color.b).byte v.color.a).word32 v.texture) .start

end VoxelScene
