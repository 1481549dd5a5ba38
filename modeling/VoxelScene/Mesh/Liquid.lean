import VoxelScene.Mesh.Solid

/-!
Liquid surfaces.

Each liquid type of a chunk has a mesh of its own. The depth of a cell is the sum of the levels of the
unbroken run of its liquid from the cell downward; shallow columns are puddles. The surface is smoothed
by averaging the levels of the four cells around each corner, and foam grows with the open cells there.
-/

namespace VoxelScene

structure LiquidVertex where
  position : Vec3
  normal : Vec3
  uv : UV
  foam : Single
  flow : UV
  texture : UInt32
deriving DecidableEq

structure LiquidFace where
  direction : Face
  x : UInt16
  y : UInt16
  z : UInt16
  puddle : Bool
deriving DecidableEq, Repr

abbrev LiquidQuad := Quad LiquidVertex LiquidFace

structure LiquidMesh where
  liquid : UInt8
  mesh : Mesh LiquidVertex LiquidFace
deriving DecidableEq

/-! ### Depth -/

/-- Running depth of a column whose levels are listed from the bottom; a level of zero starts
afresh. -/
def columnRun : (running : Nat) → List UInt8 → Checked (List Nat)
  | _, [] => return []
  | running, level :: rest => do
    let here ← if level = 0 then pure 0 else Word.addDepth running level.toNat
    return here :: (← columnRun here rest)

namespace Query

/-- `depth` and the levels of the unbroken run of a liquid from a cell downward, `scan` cells at
most. -/
def depthBelow (q : Query) (liquid : UInt8) : (scan : Nat) → Pos → (depth : Nat) → Checked Nat
  | 0, _, depth => return depth
  | scan + 1, p, depth => do
    match ← q.liquidAt p with
    | none => return depth
    | some c =>
      if c.isWetWith liquid then
        let depth ← Word.addDepth depth c.level.toNat
        q.depthBelow liquid scan (← p.minus .up) depth
      else return depth

end Query

/-- The depths of a liquid in the column of a chunk that stands on `base`. Its run goes on below the
chunk through the query, `scan` cells at most. -/
def columnOf (q : Query) (origin : Pos) (g : Grid) (liquid : UInt8) (scan : Nat) (base : Local) :
    Checked (List Nat) := do
  let levels := (List.range g.dims.y).map fun y =>
    let c := g.liquid { base with y := y }
    if c.isWetWith liquid then c.level else 0
  let below ← origin.plus ⟨base.x, -1, base.z⟩
  let seed ← q.depthBelow liquid scan below 0
  columnRun seed levels

/-- Writes depths to the places of the cells from `base` upward. -/
def writeUpward (d : Dims) : (base : Local) → (depths : Array Nat) → List Nat → Array Nat
  | _, depths, [] => depths
  | base, depths, depth :: rest =>
    writeUpward d { base with y := base.y + 1 } (depths.setIfInBounds (d.index base) depth) rest

/-- Depths of a liquid in the chunk at an address, by place in storage. No scan goes past the chunk
below. -/
def columnDepths (q : Query) (a : Address) (g : Grid) (liquid : UInt8) (maxScan : Nat) :
    Checked (Array Nat) := do
  let origin ← a.origin g.dims
  let scan := min maxScan (g.dims.y % Word.depthBound)
  (g.dims.layer 0).foldlM (fun depths base => do
    return writeUpward g.dims base depths (← columnOf q origin g liquid scan base))
    (.replicate g.dims.volume 0)

/-! ### Faces and corners -/

namespace Query

/-- The face of a wet cell is drawn: its neighbour is not wet and, except for the top, does not
occlude. With a view limit, the top of a cell at that height is drawn. -/
def isLiquidFaceVisible (q : Query) (p : Pos) (limit : Option Int) (f : Face) : Checked Bool := do
  let n ← p.plus f.step
  let wet ← q.isWetAt n
  if f = .top then return limit = some p.y || !wet
  if wet then return false
  return !(← q.occludesAt n)

def liquidFaces (q : Query) (p : Pos) (limit : Option Int) : Checked FaceSet := do
  return .ofList (← Checked.select (q.isLiquidFaceVisible p limit) Face.all)

end Query

/-- What the cells around a corner add up to. -/
structure CornerTally where
  /-- Sum of the levels. -/
  levels : Nat
  /-- Cells that count toward the mean. -/
  cells : Nat
  /-- Cells that are open and dry, or not present. -/
  exposed : Nat
deriving DecidableEq, Repr

namespace CornerTally

/-- Height of the surface within the cell. -/
def height (t : CornerTally) : Single :=
  (Single.ofNat t.levels / (Single.ofNat t.cells * 255.0)).clamp 0.0 1.0

def foam (t : CornerTally) : Single := Single.ofNat t.exposed / 3.0

end CornerTally

namespace Query

/-- Adds a cell next to a corner. A cell of the liquid counts with its level, or as full when it is
covered by more of it. A dry cell counts as empty, and is open unless a voxel occludes there. -/
def tallyCell (q : Query) (liquid : UInt8) (t : CornerTally) (p : Pos) : Checked CornerTally := do
  match ← q.liquidAt p with
  | none => return { t with exposed := t.exposed + 1 }
  | some c =>
    let t := { t with cells := t.cells + 1 }
    if c.isWetWith liquid then
      let covered ← q.isWetWithAt (← p.plus .up) liquid
      return { t with levels := t.levels + if covered then 255 else c.level.toNat }
    else if c.isWet then return t
    else if ← q.occludesAt p then return t
    else return { t with exposed := t.exposed + 1 }

/-- Tally of a top corner of a cell that holds `level` of a liquid. -/
def tallyCorner (q : Query) (p : Pos) (level : UInt8) (liquid : UInt8) (c : TopCorner) :
    Checked CornerTally :=
  [⟨c.stepX, 0, 0⟩, ⟨0, 0, c.stepZ⟩, ⟨c.stepX, 0, c.stepZ⟩].foldlM
    (fun t s => do q.tallyCell liquid t (← p.plus s)) ⟨level.toNat, 1, 0⟩

/-- The tallies of the four top corners, by number. -/
def tallyCorners (q : Query) (p : Pos) (level : UInt8) (liquid : UInt8) :
    Checked (Loop CornerTally) :=
  Loop.mapChecked (q.tallyCorner p level liquid)
    ⟨.frontLeft, .frontRight, .backLeft, .backRight⟩

end Query

/-- The tally above or below a corner of the cell. -/
def Loop.atCorner {α : Type} (l : Loop α) (c : TopCorner) : α :=
  match c with
  | .frontLeft => l.a
  | .frontRight => l.b
  | .backLeft => l.c
  | .backRight => l.d

/-! ### Meshes -/

/-- Texture coordinates tiled over the world. -/
def worldUV (f : Face) (p : Vec3) (scale : Single) : UV :=
  match f with
  | .top | .bottom => ⟨p.x * scale, p.z * scale⟩
  | .left | .right => ⟨p.z * scale, -p.y * scale⟩
  | .front | .back => ⟨p.x * scale, -p.y * scale⟩

/-- What all faces of one liquid cell share. -/
structure LiquidPart where
  origin : Pos
  cell : Local
  content : LiquidCell
  depth : Nat
  puddle : Bool
  /-- The cell above does not hold the liquid. -/
  surface : Bool
  tallies : Loop CornerTally
  texture : UInt32

namespace LiquidPart

def flow (p : LiquidPart) : UV :=
  ⟨Single.ofInt p.content.flowX.toInt / 127.0, Single.ofInt p.content.flowZ.toInt / 127.0⟩

/-- Depth below the cell's floor, in cells. -/
def floorDepth (p : LiquidPart) : Single := Single.ofNat (p.depth - p.content.level.toNat) / 255.0

/-- The vertex at a corner of a face. Falling liquid and the sides of covered cells are full. -/
def vertex (p : LiquidPart) (s : MeshSettings) (f : Face) (c : CubeCorner) : LiquidVertex :=
  let tally := p.tallies.atCorner (.ofEnds c.x c.z)
  let isFull := p.content.falling || (f.isSide && !p.surface)
  let height := if !c.y then .zero else if isFull then .one else tally.height
  let position := p.cell.toPos.toVec3.add ⟨Face.texel c.x, height, Face.texel c.z⟩
  let uv :=
    if p.puddle then worldUV f (p.origin.toVec3.add position) s.liquidScale
    else if f.isSide then ⟨(f.uv c).u, .one - (p.floorDepth + height)⟩
    else f.uv c
  { position := position
    normal := f.normal
    uv := uv
    foam := if p.puddle then tally.foam.max s.puddleFoam else tally.foam
    flow := p.flow
    texture := p.texture }

def quad (p : LiquidPart) (s : MeshSettings) (f : Face) : LiquidQuad :=
  ⟨⟨f, .ofNat p.cell.x, .ofNat p.cell.y, .ofNat p.cell.z, p.puddle⟩, f.corners.map (p.vertex s f)⟩

end LiquidPart

namespace Mesher

/-- Texture of a liquid; an unregistered one has the first. -/
def liquidTexture (m : Mesher) (liquid : UInt8) : UInt32 :=
  ((LiquidCatalogue.type? m.liquidTypes liquid).map fun t => t.texture.toUInt32).getD 0

/-- The quads of one cell in the mesh of a liquid. -/
def liquidQuads (m : Mesher) (q : Query) (origin : Pos) (g : Grid) (liquid : UInt8)
    (depths : Array Nat) (l : Local) : Checked (List LiquidQuad) := do
  let c := g.liquid l
  if !c.isWetWith liquid then return []
  let p ← origin.plus l.toPos
  let faces ← q.liquidFaces p m.settings.viewLimit
  if faces.isEmpty then return []
  let depth := depths[g.dims.index l]?.getD 0
  let covered ← q.isWetWithAt (← p.plus .up) liquid
  let tallies ← q.tallyCorners p c.level liquid
  let part : LiquidPart :=
    { origin := origin
      cell := l
      content := c
      depth := depth
      puddle := depth < m.settings.puddleDepth
      surface := !covered
      tallies := tallies
      texture := m.liquidTexture liquid }
  return faces.toList.map (part.quad m.settings)

/-- The mesh of one liquid up to the view limit. -/
def liquidMesh (m : Mesher) (q : Query) (a : Address) (g : Grid) (liquid : UInt8) :
    Checked LiquidMesh := do
  let origin ← a.origin g.dims
  let depths ← columnDepths q a g liquid m.settings.maxColumnScan
  let quads ← collectLayers origin.y m.settings.viewLimit
    (fun y => Checked.collect (m.liquidQuads q origin g liquid depths) (g.dims.layer y))
    (List.range g.dims.y)
  return ⟨liquid, ← Mesh.ofQuads quads⟩

/-- The meshes of all liquids of a chunk that have a face, by type. -/
def liquidMeshes (m : Mesher) (q : Query) (a : Address) (g : Grid) : Checked (List LiquidMesh) := do
  let meshes ← g.liquidTypes.mapM (m.liquidMesh q a g)
  return meshes.filter fun l => !l.mesh.isEmpty

end Mesher

/-- How many faces look in a direction. -/
def LiquidMesh.countToward (m : LiquidMesh) (f : Face) : Nat :=
  m.mesh.faces.countP fun x => x.direction = f

/-- The faces of one cell with their places in drawing order. -/
def LiquidMesh.facesOf (m : LiquidMesh) (x y z : UInt16) : List (LiquidFace × Nat) :=
  m.mesh.faces.zipIdx.filter fun e => e.1.x = x ∧ e.1.y = y ∧ e.1.z = z

/-- Digest of the vertex buffer. -/
def LiquidMesh.vertexDigest (m : LiquidMesh) : Digest :=
  m.mesh.vertices.foldl (fun d v =>
    let d := ((d.vec3 v.position).vec3 v.normal).uv v.uv
    ((d.word32 v.foam.bits).uv v.flow).word32 v.texture) .start

end VoxelScene
