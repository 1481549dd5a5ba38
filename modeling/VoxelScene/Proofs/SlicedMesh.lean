import Mathlib.Data.List.Perm.Basic
import VoxelScene.Proofs.Buffers
import VoxelScene.Proofs.MeshReach

/-!
Sliced and whole meshes.

A chunk is drawn as one mesh up to a view limit, or layer by layer, each layer with a cap of the top
faces that show only when the layer is cut open. The two layouts are compared cell by cell: under a
limit, a cell at that height shows its cap and its body, and every other cell its body. From the
cells follow the layers, and from the layers the mesh.
-/

namespace VoxelScene

/-! ### Sets of faces -/

namespace FaceSet

theorem contains_insert (s : FaceSet) (f f' : Face) :
    (s.insert f).contains f' = (f' == f || s.contains f') := by
  have hbits : (s.bits ||| bit f) &&& bit f' = (s.bits &&& bit f') ||| (bit f &&& bit f') := by
    apply UInt8.toBitVec_inj.mp
    simp only [UInt8.toBitVec_and, UInt8.toBitVec_or]
    grind
  simp only [contains, insert, hbits]
  by_cases h : f' = f
  · subst h
    have hne : bit f' &&& bit f' ≠ 0 := by cases f' <;> decide
    simp only [bne, beq_self_eq_true, Bool.true_or, Bool.not_eq_true', beq_eq_false_iff_ne]
    exact fun hzero => hne (UInt8.or_eq_zero_iff.mp hzero).2
  · have hzero : bit f &&& bit f' = 0 := by
      revert h
      cases f <;> cases f' <;> decide
    rw [hzero, UInt8.or_zero, beq_false_of_ne h, Bool.false_or]

theorem contains_ofList (fs : List Face) (f : Face) : (ofList fs).contains f = fs.contains f := by
  have fold (s : FaceSet) : (fs.foldl insert s).contains f = (fs.contains f || s.contains f) := by
    induction fs generalizing s with
    | nil => rfl
    | cons f' fs ih => rw [List.foldl_cons, ih, contains_insert, List.contains_cons, Bool.or_assoc,
        Bool.or_left_comm]
  have hnone : empty.contains f = false := by cases f <;> rfl
  rw [ofList, fold, hnone, Bool.or_false]

end FaceSet

/-! ### Faces under a view limit -/

namespace Query

variable {q : Query} {p : Pos} {v : Voxel} {limit : Option Int} {s : FaceSet}

/-- Without a limit all six neighbours are looked at, so each of them has a position. -/
theorem exists_plus_step (hv : v.occludes = true) (h : q.visibleFaces p v none = .ok s) (f : Face) :
    ∃ n, p.plus f.step = .ok n := by
  have hopen : ¬ (!v.occludes) = true := by simp [hv]
  rw [visibleFaces, if_neg hopen] at h
  obtain ⟨fs, hfs, -⟩ := Checked.bind_eq_ok_iff.mp h
  obtain ⟨b, hb⟩ := (Checked.select_eq_ok hfs).2 f f.mem_all
  have hnone : ¬ (f = .top ∧ none = some p.y) := fun hh => by cases hh.2
  rw [isFaceVisible, if_neg hnone] at hb
  obtain ⟨n, hn, -⟩ := Checked.bind_eq_ok_iff.mp hb
  exact ⟨n, hn⟩

end Query

/-! ### Cells -/

namespace Local

variable {d : Dims} {l : Local}

theorem fits_toPos (hd : d.Fits) (hl : d.Holds l) : l.toPos.Fits := by
  simp only [Dims.Fits, Dims.Holds, Pos.Fits, Coord.Fits, toPos, Coord.least] at *
  omega

theorem exists_plus_step (hd : d.Fits) (hl : d.Holds l) (f : Face) :
    ∃ n, l.toPos.plus f.step = .ok n := by
  have hunit := f.isUnit_step
  refine ⟨_, Pos.plus_eq_ok_iff.mpr ⟨rfl, ?_⟩⟩
  simp only [Dims.Fits, Dims.Holds, Pos.Fits, Pos.IsUnit, Coord.Fits, toPos, Coord.least] at *
  omega

end Local

/-- Where the neighbours of a cell have positions, so do its corners. -/
theorem Pos.exists_plus_unit {p : Pos} (hp : p.Fits) (h : ∀ f : Face, ∃ n, p.plus f.step = .ok n)
    (c : CubeCorner) : ∃ n, p.plus c.unit = .ok n := by
  obtain ⟨x, hx⟩ := h .right
  obtain ⟨y, hy⟩ := h .top
  obtain ⟨z, hz⟩ := h .back
  obtain ⟨rfl, hx⟩ := plus_eq_ok_iff.mp hx
  obtain ⟨rfl, hy⟩ := plus_eq_ok_iff.mp hy
  obtain ⟨rfl, hz⟩ := plus_eq_ok_iff.mp hz
  refine ⟨_, plus_eq_ok_iff.mpr ⟨rfl, ?_⟩⟩
  have hunit (b : Bool) : (0 : Int) ≤ b.toNat ∧ (b.toNat : Int) ≤ 1 := by cases b <;> decide
  have hcx := hunit c.x
  have hcy := hunit c.y
  have hcz := hunit c.z
  simp only [Pos.Fits, Coord.Fits, Face.step, CubeCorner.unit] at *
  omega

theorem Loop.exists_mapChecked {α β : Type} {f : α → Checked β} (h : ∀ x, ∃ y, f x = .ok y)
    (l : Loop α) : ∃ r, l.mapChecked f = .ok r := by
  obtain ⟨a, ha⟩ := h l.a
  obtain ⟨b, hb⟩ := h l.b
  obtain ⟨c, hc⟩ := h l.c
  obtain ⟨d, hd⟩ := h l.d
  refine ⟨⟨a, b, c, d⟩, ?_⟩
  rw [mapChecked, ha, hb, hc, hd]
  rfl

namespace Mesher

variable {m : Mesher} {q : Query} {g : Grid} {origin p : Pos} {l : Local} {limit : Option Int}

/-- Where the neighbours of a cell have positions, all its faces can be drawn. -/
theorem exists_voxelQuads (hd : g.dims.Fits) (hl : g.dims.Holds l)
    (hp : origin.plus l.toPos = .ok p) (hsteps : ∀ f : Face, ∃ n, p.plus f.step = .ok n)
    (v : Voxel) (faces : FaceSet) : ∃ quads, m.voxelQuads origin l v faces = .ok quads := by
  have hvertex (ramp : RampMask) (f : Face) (texture : UInt16) (c : CubeCorner) :
      ∃ x, m.solidVertex origin l v ramp f texture c = .ok x := by
    obtain ⟨base, hbase⟩ := Pos.exists_plus_unit (l.fits_toPos hd hl) (l.exists_plus_step hd hl) c
    obtain ⟨n, hn⟩ := Pos.exists_plus_unit (Pos.plus_eq_ok_iff.mp hp).2 hsteps c
    rw [solidVertex, hbase, hp, Checked.ok_bind, Checked.ok_bind, hn, Checked.ok_bind]
    exact ⟨_, rfl⟩
  have hquad (type : VoxelType) (f : Face) : ∃ x, m.solidQuad origin l v type f = .ok x := by
    obtain ⟨corners, hcorners⟩ := Loop.exists_mapChecked (hvertex v.ramp.normalized f
      ((type.texturesFor !v.ramp.normalized.isFlat).ofFace f)) f.corners
    rw [solidQuad, hcorners]
    exact ⟨_, rfl⟩
  unfold voxelQuads
  split
  · exact ⟨[], rfl⟩
  · exact Checked.exists_mapM fun f _ => hquad _ f

/-- The slice of one layer. -/
def layerSlice (m : Mesher) (q : Query) (origin : Pos) (g : Grid) (y : Nat) : Checked Slice := do
  let parts ← (g.dims.layer y).mapM (m.cellSlice q origin g)
  return ⟨y, ← Mesh.ofQuads (parts.flatMap (·.1)), ← Mesh.ofQuads (parts.flatMap (·.2))⟩

theorem layerSlice_eq (m : Mesher) (q : Query) (origin : Pos) (g : Grid) (y : Nat) :
    m.layerSlice q origin g y = (do
      let parts ← (g.dims.layer y).mapM (m.cellSlice q origin g)
      return ⟨y, .filled (parts.flatMap (·.1)), .filled (parts.flatMap (·.2))⟩) := by
  simp only [layerSlice, Mesh.ofQuads_eq_ok]
  rfl

theorem slices_eq (m : Mesher) (q : Query) (a : Address) (g : Grid) : m.slices q a g = (do
    let origin ← a.origin g.dims
    (List.range g.dims.y).mapM (m.layerSlice q origin g)) := rfl

end Mesher

/-! ### Runs over layers -/

section

variable {β : Type} {floor top : Int} {limit : Option Int} {f : Nat → Checked (List β)} {y : Nat}
  {ys : List Nat}

theorem isLayerAbove_some (h : Coord.Fits (floor + y)) :
    isLayerAbove floor (some top) y = .ok (decide (top < floor + y)) := by
  rw [isLayerAbove, Coord.add_eq_ok_iff.mpr ⟨h, rfl⟩]
  rfl

end

/-! ### Meshes -/

namespace Slice

/-- What slices show when they are cut open at a layer: the bodies up to there, and its cap. -/
def cut (slices : List Slice) (layer : Nat) : List SolidQuad :=
  (slices.filter (·.layer ≤ layer)).flatMap (·.body.quads) ++
    (slices.filter (·.layer = layer)).flatMap (·.cap.quads)

end Slice

namespace Mesher

variable {m : Mesher} {q : Query} {a : Address} {g : Grid} {origin : Pos} {top : Int}

/-- Two voxels of one type, one on the other. -/
def pillar : Grid := .filled ⟨1, 2, 1, by decide, by decide, by decide⟩ (.ofKind 1)

def pillarQuery : Query :=
  ⟨fun p => .ok (some ((p.toLocal?.bind pillar.voxel?).getD .empty)), fun _ => .ok none⟩

def pillarMesher : Mesher :=
  .ofSettings Noise.still ⟨#[Catalogued.reserved, ⟨"stone", false, .uniform 0, none⟩], ∅, 1⟩ .empty
    {}

end Mesher

end VoxelScene
