import VoxelScene.Mesh.Liquid
import VoxelScene.World.World

/-!
Snapshots for meshing.

A snapshot holds the cells of a chunk and of those of its 26 neighbours that were loaded when it was
taken. It answers queries about these chunks and knows of no other, so a mesh can be built from it
while the world goes on changing.
-/

namespace VoxelScene

/-- Place of a neighbour among the 27 chunks around a centre; none if it is further away. -/
def slot? (dx dy dz : Int) : Option (Fin 27) :=
  if h : (-1 ≤ dx ∧ dx ≤ 1) ∧ (-1 ≤ dy ∧ dy ≤ 1) ∧ (-1 ≤ dz ∧ dz ≤ 1) then
    some ⟨((dx + 1) + 3 * ((dz + 1) + 3 * (dy + 1))).toNat, by omega⟩
  else none

structure Snapshot where
  address : Address
  center : Grid
  /-- The neighbours by place; the centre's own place stays free. -/
  neighbors : Vector (Option Grid) 27

namespace Snapshot

def dims (s : Snapshot) : Dims := s.center.dims

/-- A snapshot without neighbours. -/
def ofCenter (a : Address) (g : Grid) : Snapshot := ⟨a, g, Vector.replicate 27 none⟩

/-- Adds a neighbour. Chunks that are too far away, the centre itself and chunks of another size are
left out. -/
def withNeighbor (s : Snapshot) (dx dy dz : Int) (g : Grid) : Snapshot :=
  match slot? dx dy dz with
  | none => s
  | some i =>
    if i = 13 ∨ g.dims ≠ s.dims then s else { s with neighbors := s.neighbors.set i (some g) }

/-- Snapshot of a loaded chunk. -/
def capture (w : World) (a : Address) : Checked (Option Snapshot) :=
  match w.chunk? a with
  | none => return none
  | some c => do
    let around ← a.neighbors
    return some (around.foldl (fun s n =>
      match w.chunk? n with
      | none => s
      | some c => s.withNeighbor (n.x - a.x) (n.y - a.y) (n.z - a.z) c.grid) (ofCenter a c.grid))

/-- How many neighbours are present. -/
def neighborCount (s : Snapshot) : Nat := s.neighbors.toList.countP Option.isSome

/-- The cells of the chunk at a place. -/
def grid? (s : Snapshot) (i : Fin 27) : Option Grid :=
  if i = 13 then some s.center else s.neighbors[i]

/-- The chunk and the cell of it at a position. -/
def locate (s : Snapshot) (p : Pos) : Checked (Option (Grid × Local)) := do
  let rel ← p.minus (← s.address.origin s.dims)
  let (q, r) ← rel.quotRem s.dims.extent
  return do
    let i ← slot? q.x q.y q.z
    let g ← s.grid? i
    return (g, ⟨r.x.toNat, r.y.toNat, r.z.toNat⟩)

def voxelAt (s : Snapshot) (p : Pos) : Checked (Option Voxel) := do
  return (← s.locate p).bind fun (g, l) => g.voxel? l

def liquidAt (s : Snapshot) (p : Pos) : Checked (Option LiquidCell) := do
  return (← s.locate p).bind fun (g, l) => g.liquid? l

/-- The snapshot as a query. -/
def query (s : Snapshot) : Query := ⟨s.voxelAt, s.liquidAt⟩

end Snapshot

/-- Everything that is drawn for a chunk. -/
structure MeshSet where
  solid : SolidMesh
  liquids : List LiquidMesh
deriving DecidableEq

def MeshSet.quadCount (s : MeshSet) : Nat :=
  s.solid.quadCount + total (s.liquids.map fun l => l.mesh.quadCount)

/-- The meshes of a chunk whose surroundings a query answers for. -/
def Mesher.meshSet (m : Mesher) (q : Query) (a : Address) (g : Grid) : Checked MeshSet := do
  let solid ← m.solidMesh q a g
  let liquids ← m.liquidMeshes q a g
  return ⟨solid, liquids⟩

/-- The meshes of a snapshot's centre. -/
def Mesher.build (m : Mesher) (s : Snapshot) : Checked MeshSet :=
  m.meshSet s.query s.address s.center

end VoxelScene
