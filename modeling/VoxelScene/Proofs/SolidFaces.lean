import Mathlib.Data.List.Nodup
import VoxelScene.Proofs.MeshTotal

/-!
The faces of a solid mesh.

Which faces a mesh draws is a question about single cells: does the voxel occlude, is its kind
registered, is it in view, and is this face of it visible. The mesh answers it for all cells in
storage order and all faces of a cell in turn, and makes one quad for each face that it draws. Its
buffers follow: four vertices a face, at the corners of the face, and two triangles over them.
-/

namespace VoxelScene

/-! ### Lists of pieces -/

namespace Checked

variable {α β : Type}

theorem collect_eq_ok {f : α → Checked (List β)} {k : α → List β} {xs : List α} {zs : List β}
    (hf : ∀ x ys, f x = .ok ys → ys = k x) (h : collect f xs = .ok zs) :
    zs = xs.flatMap k ∧ ∀ x ∈ xs, f x = .ok (k x) := by
  obtain ⟨pieces, hpieces, h⟩ := bind_eq_ok_iff.mp h
  constructor
  · rw [← pure_eq_ok_iff.mp h, mapM_eq_map hf hpieces, List.flatMap_def]
  · intro x hx
    obtain ⟨i, hi⟩ := List.getElem?_of_mem hx
    obtain ⟨ys, -, hys⟩ := getElem?_mapM hpieces hi
    rw [hys, hf x ys hys]

end Checked

theorem isLayerAbove_eq_ok {floor : Int} {limit : Option Int} {y : Nat} {above : Bool}
    (h : isLayerAbove floor limit y = .ok above) : limit.all (floor + y ≤ ·) = !above := by
  cases limit with
  | none =>
    obtain rfl := Checked.pure_eq_ok_iff.mp h
    rfl
  | some top =>
    obtain ⟨height, hheight, h⟩ := Checked.bind_eq_ok_iff.mp h
    obtain ⟨-, rfl⟩ := Coord.add_eq_ok_iff.mp hheight
    obtain rfl := Checked.pure_eq_ok_iff.mp h
    simp only [Option.all_some, ← decide_not, Int.not_lt]

theorem collectLayers_eq_ok {β : Type} {floor : Int} {limit : Option Int}
    {f : Nat → Checked (List β)} {k : Nat → List β} {ys : List Nat} {zs : List β}
    (hup : ys.Pairwise (· < ·)) (hf : ∀ y zs, f y = .ok zs → zs = k y)
    (h : collectLayers floor limit f ys = .ok zs) :
    (zs = ys.flatMap fun (y : Nat) => if limit.all (floor + y ≤ ·) then k y else []) ∧
      ∀ y ∈ ys, limit.all (floor + y ≤ ·) = true → f y = .ok (k y) := by
  induction ys generalizing zs with
  | nil =>
    obtain rfl := Checked.pure_eq_ok_iff.mp h
    exact ⟨rfl, fun y hy => by cases hy⟩
  | cons y ys ih =>
    obtain ⟨hlow, hup⟩ := List.pairwise_cons.mp hup
    obtain ⟨above, habove, h⟩ := Checked.bind_eq_ok_iff.mp h
    have hview := isLayerAbove_eq_ok habove
    cases above with
    | true =>
      obtain rfl := Checked.pure_eq_ok_iff.mp h
      -- Layers come from the lowest up, so the ones after this one are above the limit too.
      have hnone (z : Nat) (hz : z ∈ y :: ys) : limit.all (floor + z ≤ ·) = false := by
        rcases List.mem_cons.mp hz with rfl | hz
        · exact hview
        · have hlt := hlow z hz
          cases limit with
          | none => cases hview
          | some top =>
            simp only [Option.all_some, Bool.not_true, decide_eq_false_iff_not] at hview ⊢
            omega
      refine ⟨?_, fun z hz hin => ?_⟩
      · symm
        apply List.flatMap_eq_nil_iff.mpr
        intro z hz
        rw [hnone z hz]
        rfl
      · rw [hnone z hz] at hin
        cases hin
    | false =>
      obtain ⟨here, hhere, h⟩ := Checked.bind_eq_ok_iff.mp h
      obtain ⟨rest, hrest, h⟩ := Checked.bind_eq_ok_iff.mp h
      obtain rfl := Checked.pure_eq_ok_iff.mp h
      obtain ⟨hzs, hall⟩ := ih hup hrest
      obtain rfl := hf y here hhere
      refine ⟨?_, fun z hz hin => ?_⟩
      · rw [List.flatMap_cons, hview, ← hzs]
        rfl
      · rcases List.mem_cons.mp hz with rfl | hz
        · exact hhere
        · exact hall z hz hin

theorem flatMap_ite {α β : Type} (p : α → Bool) (f : α → β) (xs : List α) :
    (xs.flatMap fun x => if p x then [f x] else []) = (xs.filter p).map f := by
  induction xs with
  | nil => rfl
  | cons x xs ih => by_cases h : p x = true <;> simp [h, ih]

/-! ### Cells and corners -/

/-- World position of a cell of the box at `origin`. -/
def Pos.cell (origin : Pos) (l : Local) : Pos := ⟨origin.x + l.x, origin.y + l.y, origin.z + l.z⟩

/-- Lattice point at a corner of a cell. -/
def Pos.corner (p : Pos) (c : CubeCorner) : Pos :=
  ⟨p.x + c.unit.x, p.y + c.unit.y, p.z + c.unit.z⟩

/-- All faces of all cells: layer by layer, along z, then x, then by number. -/
def Dims.cellFaces (d : Dims) : List (Local × Face) :=
  d.cells.flatMap fun l => Face.all.map fun f => (l, f)

theorem Dims.nodup_cells (d : Dims) : d.cells.Nodup := by
  have hrow (y z : Nat) : ((List.range d.x).map fun x => (⟨x, y, z⟩ : Local)).Nodup :=
    List.nodup_range.map fun x x' h => congrArg Local.x h
  have hlayer (y : Nat) : (d.layer y).Nodup := by
    refine List.nodup_flatMap.mpr ⟨fun z _ => hrow y z, List.nodup_range.imp ?_⟩
    intro z z' hne l hl hl'
    simp only [List.mem_map, List.mem_range] at hl hl'
    obtain ⟨x, -, rfl⟩ := hl
    obtain ⟨x', -, h⟩ := hl'
    exact hne (congrArg Local.z h).symm
  refine List.nodup_flatMap.mpr ⟨fun y _ => hlayer y, List.nodup_range.imp ?_⟩
  intro y y' hne l hl hl'
  exact hne ((mem_layer.mp hl).2.2.symm.trans (mem_layer.mp hl').2.2)

theorem Dims.nodup_cellFaces (d : Dims) : d.cellFaces.Nodup := by
  refine List.nodup_flatMap.mpr ⟨fun l _ => ?_, d.nodup_cells.imp ?_⟩
  · exact (show Face.all.Nodup by decide).map fun f f' h => congrArg Prod.snd h
  · intro l l' hne e he he'
    obtain ⟨f, -, rfl⟩ := List.mem_map.mp he
    obtain ⟨f', -, h⟩ := List.mem_map.mp he'
    exact hne (congrArg Prod.fst h).symm

/-- The cell is not above the limit. -/
def inView (origin : Pos) (limit : Option Int) (l : Local) : Bool :=
  limit.all fun top => decide (origin.y + l.y ≤ top)

namespace Query

/-- The faces of a cell that are drawn; none where that has no answer. -/
def facesOf (q : Query) (origin : Pos) (g : Grid) (limit : Option Int) (l : Local) : FaceSet :=
  match q.visibleFaces (origin.cell l) (g.voxel l) limit with
  | .ok faces => faces
  | .error _ => .empty

variable {q : Query} {origin : Pos} {g : Grid} {limit : Option Int} {l : Local}

theorem facesOf_eq {faces : FaceSet}
    (h : q.visibleFaces (origin.cell l) (g.voxel l) limit = .ok faces) :
    q.facesOf origin g limit l = faces := by
  rw [facesOf, h]

theorem visibleFaces_of_open {v : Voxel} (h : v.occludes = false) (q : Query) (p : Pos)
    (limit : Option Int) : q.visibleFaces p v limit = .ok .empty := by
  simp only [visibleFaces, h, Bool.not_false, if_true]
  rfl

/-- The visible faces of all voxels that are not above the limit, each with its cell. -/
def shown (q : Query) (origin : Pos) (g : Grid) (limit : Option Int) : List (Local × Face) :=
  g.dims.cellFaces.filter fun e =>
    inView origin limit e.1 && (q.facesOf origin g limit e.1).contains e.2

end Query

/-! ### Quads -/

namespace Mesher

variable {m : Mesher} {q : Query} {origin : Pos} {g : Grid} {limit : Option Int} {l : Local}

def isRegistered (m : Mesher) (v : Voxel) : Bool :=
  (VoxelCatalogue.type? m.voxelTypes v.kind).isSome

/-- Texture of a face of a voxel of a registered kind. -/
def textureOf (m : Mesher) (v : Voxel) (f : Face) : UInt16 :=
  ((VoxelCatalogue.type? m.voxelTypes v.kind).map fun type =>
    (type.texturesFor !v.ramp.normalized.isFlat).ofFace f).getD 0

/-- The vertex at a corner of a cell, as a corner of one of its faces. A lowered top corner is
pulled down, and every corner is moved by the jitter of its lattice point. -/
def cornerVertex (m : Mesher) (origin : Pos) (l : Local) (v : Voxel) (f : Face) (c : CubeCorner) :
    SolidVertex :=
  let lowered := c.top?.any v.ramp.normalized.lowered
  let base := (l.toPos.corner c).toVec3
  let place := if lowered then { base with y := base.y - m.settings.rampDepth } else base
  let uv := f.uv c
  { position := place.add (m.jitter.offset ((origin.cell l).corner c))
    normal := f.normal
    uv := if lowered && f.isSide then { uv with v := uv.v + m.settings.rampDepth } else uv
    color := v.colorAt c
    texture := (m.textureOf v f).toUInt32 }

def quadAt (m : Mesher) (origin : Pos) (g : Grid) (l : Local) (f : Face) : SolidQuad :=
  ⟨⟨f, .ofNat l.x, .ofNat l.y, .ofNat l.z, !(g.voxel l).ramp.normalized.isFlat⟩,
    f.corners.map (m.cornerVertex origin l (g.voxel l) f)⟩

theorem solidVertex_eq_ok {v : Voxel} {f : Face} {c : CubeCorner} {x : SolidVertex}
    (h : m.solidVertex origin l v v.ramp.normalized f (m.textureOf v f) c = .ok x) :
    x = m.cornerVertex origin l v f c := by
  obtain ⟨base, hbase, h⟩ := Checked.bind_eq_ok_iff.mp h
  obtain ⟨p, hp, h⟩ := Checked.bind_eq_ok_iff.mp h
  obtain ⟨n, hn, h⟩ := Checked.bind_eq_ok_iff.mp h
  obtain ⟨rfl, -⟩ := Pos.plus_eq_ok_iff.mp hbase
  obtain ⟨rfl, -⟩ := Pos.plus_eq_ok_iff.mp hp
  obtain ⟨rfl, -⟩ := Pos.plus_eq_ok_iff.mp hn
  exact (Checked.pure_eq_ok_iff.mp h).symm

theorem solidQuad_eq_ok {type : VoxelType} {f : Face} {x : SolidQuad}
    (htype : VoxelCatalogue.type? m.voxelTypes (g.voxel l).kind = some type)
    (h : m.solidQuad origin l (g.voxel l) type f = .ok x) : x = m.quadAt origin g l f := by
  have htexture : (type.texturesFor !(g.voxel l).ramp.normalized.isFlat).ofFace f =
      m.textureOf (g.voxel l) f := by
    simp only [textureOf, htype, Option.map_some, Option.getD_some]
  unfold solidQuad at h
  dsimp only at h
  rw [htexture] at h
  obtain ⟨corners, hcorners, h⟩ := Checked.bind_eq_ok_iff.mp h
  obtain rfl := Checked.pure_eq_ok_iff.mp h
  obtain ⟨xa, ha, hcorners⟩ := Checked.bind_eq_ok_iff.mp hcorners
  obtain ⟨xb, hb, hcorners⟩ := Checked.bind_eq_ok_iff.mp hcorners
  obtain ⟨xc, hc, hcorners⟩ := Checked.bind_eq_ok_iff.mp hcorners
  obtain ⟨xd, hd, hcorners⟩ := Checked.bind_eq_ok_iff.mp hcorners
  rw [← Checked.pure_eq_ok_iff.mp hcorners, solidVertex_eq_ok ha, solidVertex_eq_ok hb,
    solidVertex_eq_ok hc, solidVertex_eq_ok hd]
  rfl

theorem voxelQuads_eq_ok {faces : FaceSet} {quads : List SolidQuad}
    (h : m.voxelQuads origin l (g.voxel l) faces = .ok quads) :
    quads =
      (if m.isRegistered (g.voxel l) then faces.toList else []).map (m.quadAt origin g l) := by
  unfold voxelQuads at h
  unfold isRegistered
  cases htype : VoxelCatalogue.type? m.voxelTypes (g.voxel l).kind with
  | none =>
    rw [htype] at h
    exact (Checked.pure_eq_ok_iff.mp h).symm
  | some type =>
    rw [htype] at h
    exact Checked.mapM_eq_map (fun f x hx => solidQuad_eq_ok htype hx) h

/-- The faces of a cell in view that a mesh draws. -/
def drawnFaces (m : Mesher) (q : Query) (origin : Pos) (g : Grid) (limit : Option Int) (l : Local) :
    List Face :=
  if m.isRegistered (g.voxel l) then (q.facesOf origin g limit l).toList else []

/-- The voxel has a top that does not show. -/
def isCapped (m : Mesher) (q : Query) (origin : Pos) (g : Grid) (l : Local) : Bool :=
  (g.voxel l).occludes && m.isRegistered (g.voxel l) &&
    !(q.facesOf origin g none l).contains .top

/-- A cell that gives quads has an answer to which of its faces are visible. -/
theorem cellQuads_eq_ok {quads : List SolidQuad} (h : m.cellQuads q origin g limit l = .ok quads) :
    quads = (m.drawnFaces q origin g limit l).map (m.quadAt origin g l) ∧
      q.visibleFaces (origin.cell l) (g.voxel l) limit = .ok (q.facesOf origin g limit l) := by
  unfold cellQuads at h
  dsimp only at h
  split at h
  · rename_i hopen
    have hv : (g.voxel l).occludes = false := by simpa using hopen
    have hnone := Query.visibleFaces_of_open hv q (origin.cell l) limit
    obtain rfl := Checked.pure_eq_ok_iff.mp h
    rw [drawnFaces, Query.facesOf_eq hnone]
    exact ⟨by split <;> rfl, hnone⟩
  · obtain ⟨p, hp, h⟩ := Checked.bind_eq_ok_iff.mp h
    obtain ⟨rfl, -⟩ := Pos.plus_eq_ok_iff.mp hp
    obtain ⟨faces, hfaces, h⟩ := Checked.bind_eq_ok_iff.mp h
    have heq : q.facesOf origin g limit l = faces := Query.facesOf_eq hfaces
    rw [drawnFaces, heq]
    exact ⟨voxelQuads_eq_ok h, hfaces⟩

theorem cellSlice_eq_ok {part : List SolidQuad × List SolidQuad}
    (h : m.cellSlice q origin g l = .ok part) :
    part = ((m.drawnFaces q origin g none l).map (m.quadAt origin g l),
        if m.isCapped q origin g l then [m.quadAt origin g l .top] else []) ∧
      q.visibleFaces (origin.cell l) (g.voxel l) none = .ok (q.facesOf origin g none l) := by
  unfold cellSlice at h
  dsimp only at h
  split at h
  · rename_i hopen
    have hv : (g.voxel l).occludes = false := by simpa using hopen
    have hnone := Query.visibleFaces_of_open hv q (origin.cell l) none
    obtain rfl := Checked.pure_eq_ok_iff.mp h
    rw [drawnFaces, isCapped, Query.facesOf_eq hnone, hv]
    exact ⟨by split <;> rfl, hnone⟩
  · rename_i hsolid
    have hv : (g.voxel l).occludes = true := by simpa using hsolid
    obtain ⟨p, hp, h⟩ := Checked.bind_eq_ok_iff.mp h
    obtain ⟨rfl, -⟩ := Pos.plus_eq_ok_iff.mp hp
    obtain ⟨faces, hfaces, h⟩ := Checked.bind_eq_ok_iff.mp h
    obtain ⟨body, hbody, h⟩ := Checked.bind_eq_ok_iff.mp h
    have heq : q.facesOf origin g none l = faces := Query.facesOf_eq hfaces
    rw [drawnFaces, isCapped, heq, hv, ← voxelQuads_eq_ok hbody]
    refine ⟨?_, hfaces⟩
    split at h
    · rename_i htop
      obtain rfl := Checked.pure_eq_ok_iff.mp h
      simp [htop]
    · rename_i htop
      obtain ⟨cap, hcap, h⟩ := Checked.bind_eq_ok_iff.mp h
      obtain rfl := Checked.pure_eq_ok_iff.mp h
      have hlist : (FaceSet.ofList [.top]).toList = [.top] := rfl
      rw [voxelQuads_eq_ok hcap, hlist]
      cases m.isRegistered (g.voxel l) <;> simp [htop]

/-! ### Meshes -/

variable {a : Address}

/-- All faces that a mesh draws, in drawing order, each with its cell. -/
def drawn (m : Mesher) (q : Query) (origin : Pos) (g : Grid) (limit : Option Int) :
    List (Local × Face) :=
  g.dims.cells.flatMap fun l =>
    (if inView origin limit l then m.drawnFaces q origin g limit l else []).map fun f => (l, f)

theorem mem_drawn {f : Face} : (l, f) ∈ m.drawn q origin g limit ↔ g.dims.Holds l ∧
    inView origin limit l = true ∧ m.isRegistered (g.voxel l) = true ∧
      (q.facesOf origin g limit l).contains f = true := by
  simp only [drawn, List.mem_flatMap, List.mem_map, Prod.mk.injEq, Dims.mem_cells]
  constructor
  · rintro ⟨l, hl, f, hf, rfl, rfl⟩
    split at hf
    · rename_i hin
      unfold drawnFaces at hf
      split at hf
      · rename_i hreg
        exact ⟨hl, hin, hreg, (List.mem_filter.mp hf).2⟩
      · cases hf
    · cases hf
  · rintro ⟨hl, hin, hreg, hf⟩
    refine ⟨l, hl, f, ?_, rfl, rfl⟩
    rw [if_pos hin, drawnFaces, if_pos hreg]
    exact List.mem_filter.mpr ⟨f.mem_all, hf⟩

theorem faceMesh_eq_ok {mesh : FaceMesh} (h : m.faceMesh q a g = .ok mesh) :
    ∃ origin, a.origin g.dims = .ok origin ∧
      mesh = .filled ((m.drawn q origin g m.settings.viewLimit).map fun e =>
        m.quadAt origin g e.1 e.2) ∧
      ∀ l, g.dims.Holds l → inView origin m.settings.viewLimit l = true →
        q.visibleFaces (origin.cell l) (g.voxel l) m.settings.viewLimit =
          .ok (q.facesOf origin g m.settings.viewLimit l) := by
  obtain ⟨origin, ho, h⟩ := Checked.bind_eq_ok_iff.mp h
  obtain ⟨quads, hquads, h⟩ := Checked.bind_eq_ok_iff.mp h
  rw [Mesh.ofQuads_eq_ok] at h
  obtain rfl := Except.ok.inj h
  have hlayer (y : Nat) (zs : List SolidQuad) (hz : Checked.collect
      (m.cellQuads q origin g m.settings.viewLimit) (g.dims.layer y) = .ok zs) :=
    Checked.collect_eq_ok (fun l ys hl => (cellQuads_eq_ok hl).1) hz
  obtain ⟨heq, hall⟩ := collectLayers_eq_ok List.pairwise_lt_range
    (fun y zs hz => (hlayer y zs hz).1) hquads
  refine ⟨origin, ho, congrArg Mesh.filled ?_, fun l hl hin => ?_⟩
  · simp only [heq, drawn, Dims.cells, List.flatMap_assoc, List.map_flatMap, List.map_map]
    congr 1
    funext y
    split
    · rename_i hin
      apply List.flatMap_congr
      intro l hl
      obtain ⟨-, -, rfl⟩ := Dims.mem_layer.mp hl
      rw [inView, if_pos hin]
      rfl
    · rename_i hout
      symm
      apply List.flatMap_eq_nil_iff.mpr
      intro l hl
      obtain ⟨-, -, rfl⟩ := Dims.mem_layer.mp hl
      rw [inView, if_neg hout]
      rfl
  · obtain ⟨hx, hy, hz⟩ := hl
    have hcells := (hlayer l.y _ (hall l.y (List.mem_range.mpr hy) hin)).2 l
      (Dims.mem_layer.mpr ⟨hx, hz, rfl⟩)
    exact (cellQuads_eq_ok hcells).2

theorem slices_eq_ok {slices : List Slice} (h : m.slices q a g = .ok slices) :
    ∃ origin, a.origin g.dims = .ok origin ∧
      (slices = (List.range g.dims.y).map fun y => ⟨y,
        .filled ((g.dims.layer y).flatMap fun l =>
          (m.drawnFaces q origin g none l).map (m.quadAt origin g l)),
        .filled (((g.dims.layer y).filter (m.isCapped q origin g)).map fun l =>
          m.quadAt origin g l .top)⟩) ∧
      ∀ l, g.dims.Holds l → q.visibleFaces (origin.cell l) (g.voxel l) none =
        .ok (q.facesOf origin g none l) := by
  rw [slices_eq] at h
  obtain ⟨origin, ho, h⟩ := Checked.bind_eq_ok_iff.mp h
  refine ⟨origin, ho, Checked.mapM_eq_map (fun y s hs => ?_) h, fun l hl => ?_⟩
  · rw [layerSlice_eq] at hs
    obtain ⟨parts, hparts, hs⟩ := Checked.bind_eq_ok_iff.mp hs
    obtain rfl := Checked.pure_eq_ok_iff.mp hs
    rw [Checked.mapM_eq_map (fun l part hl => (cellSlice_eq_ok hl).1) hparts, List.flatMap_map,
      List.flatMap_map, flatMap_ite]
  · obtain ⟨hx, hy, hz⟩ := hl
    obtain ⟨s, -, hs⟩ := Checked.getElem?_mapM h (List.getElem?_range hy)
    rw [layerSlice_eq] at hs
    obtain ⟨parts, hparts, -⟩ := Checked.bind_eq_ok_iff.mp hs
    obtain ⟨i, hi⟩ := List.getElem?_of_mem (Dims.mem_layer.mpr ⟨hx, hz, rfl⟩ : l ∈ g.dims.layer l.y)
    obtain ⟨part, -, hpart⟩ := Checked.getElem?_mapM hparts hi
    exact (cellSlice_eq_ok hpart).2

end Mesher

namespace SolidMesh

/-- What is drawn of the visible faces. -/
def bodies : SolidMesh → List SolidQuad
  | .whole mesh => mesh.quads
  | .sliced slices => slices.flatMap fun s => s.body.quads

/-- What closes the layers that are cut open. -/
def caps : SolidMesh → List SolidQuad
  | .whole _ => []
  | .sliced slices => slices.flatMap fun s => s.cap.quads

theorem mem_bodies_or_caps {solid : SolidMesh} {part : FaceMesh} {quad : SolidQuad}
    (hpart : part ∈ solid.parts) (hquad : quad ∈ part.quads) :
    quad ∈ solid.bodies ∨ quad ∈ solid.caps := by
  cases solid with
  | whole mesh =>
    obtain rfl := List.mem_singleton.mp hpart
    exact .inl hquad
  | sliced slices =>
    obtain ⟨s, hs, hpart⟩ := List.mem_flatMap.mp hpart
    rcases List.mem_pair.mp hpart with rfl | rfl
    · exact .inl (List.mem_flatMap.mpr ⟨s, hs, hquad⟩)
    · exact .inr (List.mem_flatMap.mpr ⟨s, hs, hquad⟩)

end SolidMesh

namespace Mesher

variable {m : Mesher} {q : Query} {origin : Pos} {g : Grid} {limit : Option Int} {l : Local}
variable {a : Address}

/-- The height at which a mesh is cut; slices are made of all layers. -/
def cutLimit (m : Mesher) : Option Int :=
  match m.settings.sliceMode with
  | .whole => m.settings.viewLimit
  | .layers => none

/-- The cells whose tops are drawn as caps. -/
def capped (m : Mesher) (q : Query) (origin : Pos) (g : Grid) : List Local :=
  match m.settings.sliceMode with
  | .whole => []
  | .layers => g.dims.cells.filter (m.isCapped q origin g)

/-- Both layouts draw the same faces; slices have caps besides. -/
theorem solidMesh_eq_ok {solid : SolidMesh} (h : m.solidMesh q a g = .ok solid) :
    ∃ origin, a.origin g.dims = .ok origin ∧
      (solid.bodies = (m.drawn q origin g m.cutLimit).map fun e => m.quadAt origin g e.1 e.2) ∧
      (solid.caps = (m.capped q origin g).map fun l => m.quadAt origin g l .top) ∧
      ∀ l, g.dims.Holds l → inView origin m.cutLimit l = true →
        q.visibleFaces (origin.cell l) (g.voxel l) m.cutLimit =
          .ok (q.facesOf origin g m.cutLimit l) := by
  unfold solidMesh at h
  unfold cutLimit capped
  cases hmode : m.settings.sliceMode with
  | whole =>
    rw [hmode] at h
    obtain ⟨mesh, hmesh, h⟩ := Checked.bind_eq_ok_iff.mp h
    obtain rfl := Checked.pure_eq_ok_iff.mp h
    obtain ⟨origin, ho, rfl, hfaces⟩ := faceMesh_eq_ok hmesh
    exact ⟨origin, ho, Mesh.quads_filled _, rfl, hfaces⟩
  | layers =>
    rw [hmode] at h
    obtain ⟨slices, hslices, h⟩ := Checked.bind_eq_ok_iff.mp h
    obtain rfl := Checked.pure_eq_ok_iff.mp h
    obtain ⟨origin, ho, rfl, hfaces⟩ := slices_eq_ok hslices
    refine ⟨origin, ho, ?_, ?_, fun l hl _ => hfaces l hl⟩
    · simp only [SolidMesh.bodies, drawn, Dims.cells, List.flatMap_map, List.flatMap_assoc,
        List.map_flatMap, List.map_map, Mesh.quads_filled]
      rfl
    · simp only [SolidMesh.caps, Dims.cells, List.flatMap_map, List.filter_flatMap,
        List.map_flatMap, Mesh.quads_filled]

/-- Every vertex of a solid mesh stands at a corner of one of its quads. -/
theorem exists_quad_of_mem_vertices {solid : SolidMesh} (h : m.solidMesh q a g = .ok solid)
    {part : FaceMesh} (hpart : part ∈ solid.parts) {x : SolidVertex} (hx : x ∈ part.vertices) :
    ∃ quad ∈ part.quads, x ∈ quad.corners.toList := by
  have hfilled : ∃ quads, part = .filled quads := by
    unfold solidMesh at h
    split at h
    · obtain ⟨mesh, hmesh, h⟩ := Checked.bind_eq_ok_iff.mp h
      obtain rfl := Checked.pure_eq_ok_iff.mp h
      obtain rfl := List.mem_singleton.mp hpart
      obtain ⟨origin, -, heq, -⟩ := faceMesh_eq_ok hmesh
      exact ⟨_, heq⟩
    · obtain ⟨slices, hslices, h⟩ := Checked.bind_eq_ok_iff.mp h
      obtain rfl := Checked.pure_eq_ok_iff.mp h
      obtain ⟨origin, -, rfl, -⟩ := slices_eq_ok hslices
      obtain ⟨slice, hslice, hpart⟩ := List.mem_flatMap.mp hpart
      obtain ⟨y, -, rfl⟩ := List.mem_map.mp hslice
      rcases List.mem_pair.mp hpart with rfl | rfl <;> exact ⟨_, rfl⟩
  obtain ⟨quads, rfl⟩ := hfilled
  rw [Mesh.quads_filled]
  exact List.mem_flatMap.mp hx

/-! ### The mesh of all visible faces -/

/-- The voxel occludes, its kind is registered, it is in view, and the face of it is visible. -/
def draws (m : Mesher) (q : Query) (origin : Pos) (g : Grid) (e : Local × Face) : Bool :=
  (g.voxel e.1).occludes && m.isRegistered (g.voxel e.1) &&
    inView origin m.settings.viewLimit e.1 &&
    Checked.passes (q.visibleFaces (origin.cell e.1) (g.voxel e.1) m.settings.viewLimit)
      (·.contains e.2)

theorem contains_facesOf (f : Face) : (q.facesOf origin g limit l).contains f =
    ((g.voxel l).occludes && Checked.passes (q.visibleFaces (origin.cell l) (g.voxel l) limit)
      (·.contains f)) := by
  have hnone : FaceSet.empty.contains f = false := by cases f <;> rfl
  cases hv : (g.voxel l).occludes with
  | false =>
    rw [Query.facesOf_eq (Query.visibleFaces_of_open hv q _ _), hnone]
    rfl
  | true =>
    rw [Query.facesOf]
    cases q.visibleFaces (origin.cell l) (g.voxel l) limit with
    | ok faces => rfl
    | error e => exact hnone

theorem drawn_eq_filter_shown : m.drawn q origin g limit =
    (q.shown origin g limit).filter fun e => m.isRegistered (g.voxel e.1) := by
  simp only [drawn, Query.shown, Dims.cellFaces, List.filter_flatMap, List.filter_map]
  congr 1
  funext l
  congr 1
  unfold drawnFaces FaceSet.toList
  cases hview : inView origin limit l <;> cases hreg : m.isRegistered (g.voxel l) <;>
    simp [Function.comp_def, hview, hreg]

theorem drawn_eq_filter : m.drawn q origin g m.settings.viewLimit =
    g.dims.cellFaces.filter (m.draws q origin g) := by
  rw [drawn_eq_filter_shown, Query.shown, List.filter_filter]
  apply List.filter_congr
  intro e _
  rw [contains_facesOf, draws]
  ac_rfl

end Mesher

/-- The cell of a face, and its direction. -/
def SolidFace.place (f : SolidFace) : Local × Face :=
  (⟨f.x.toNat, f.y.toNat, f.z.toNat⟩, f.direction)

namespace Mesher

theorem place_quadAt {m : Mesher} {origin : Pos} {g : Grid} {l : Local} (hx : g.dims.x ≤ 65536)
    (hy : g.dims.y ≤ 65536) (hz : g.dims.z ≤ 65536) (hl : g.dims.Holds l) (f : Face) :
    (m.quadAt origin g l f).face.place = (l, f) := by
  obtain ⟨hlx, hly, hlz⟩ := hl
  have hword {n : Nat} (hn : n < 65536) : (UInt16.ofNat n).toNat = n := by
    rw [UInt16.toNat_ofNat']
    exact Nat.mod_eq_of_lt hn
  simp only [quadAt, SolidFace.place, hword (Nat.lt_of_lt_of_le hlx hx),
    hword (Nat.lt_of_lt_of_le hly hy), hword (Nat.lt_of_lt_of_le hlz hz)]

theorem map_place_drawn {m : Mesher} {q : Query} {origin : Pos} {g : Grid} {limit : Option Int}
    (hx : g.dims.x ≤ 65536) (hy : g.dims.y ≤ 65536) (hz : g.dims.z ≤ 65536) :
    ((m.drawn q origin g limit).map fun e => (m.quadAt origin g e.1 e.2).face.place) =
      m.drawn q origin g limit := by
  refine Eq.trans (List.map_congr_left fun e he => ?_) (List.map_id _)
  exact place_quadAt hx hy hz (mem_drawn.mp he).1 e.2

/-- The solid mesh of a chunk has exactly the faces of cells in view that are visible and of a
registered kind, in storage order and no face twice, with four vertices and two triangles each. It
exists where the cells and those next to them are seen. -/
theorem solid_mesh_is_visible_faces (m : Mesher) (q : Query) (a : Address) {g : Grid}
    (hx : g.dims.x ≤ 65536) (hy : g.dims.y ≤ 65536) (hz : g.dims.z ≤ 65536) :
    (∀ origin, a.origin g.dims = .ok origin → q.Sees origin g.dims →
      ∃ mesh, m.faceMesh q a g = .ok mesh) ∧
    ∀ mesh, m.faceMesh q a g = .ok mesh → ∃ origin drawn, a.origin g.dims = .ok origin ∧
      (∀ l, g.dims.Holds l → inView origin m.settings.viewLimit l = true → ∃ faces,
        q.visibleFaces (origin.cell l) (g.voxel l) m.settings.viewLimit = .ok faces) ∧
      drawn = g.dims.cellFaces.filter (m.draws q origin g) ∧ drawn.Nodup ∧
      mesh.faces.map SolidFace.place = drawn ∧
      mesh.vertices.length = 4 * drawn.length ∧ mesh.indices.length = 6 * drawn.length ∧
      (∀ i ∈ mesh.indices, i.toNat < mesh.vertices.length) ∧
      (mesh.vertices.length < 4294967296 → ∀ i < drawn.length,
        ((mesh.indices.drop (6 * i)).take 6).map UInt32.toNat =
          [4 * i, 4 * i + 1, 4 * i + 2, 4 * i, 4 * i + 2, 4 * i + 3]) ∧
      ∀ i l f, drawn[i]? = some (l, f) →
        (mesh.vertices.drop (4 * i)).take 4 =
          f.corners.toList.map (m.cornerVertex origin l (g.voxel l) f) ∧
        ((mesh.vertices.drop (4 * i)).take 4).map (·.color) =
          f.corners.toList.map (g.voxel l).colorAt := by
  refine ⟨fun origin ho hsees => (m.exists_faceMesh ho hsees).imp fun _ h => h.1,
    fun mesh hmesh => ?_⟩
  obtain ⟨origin, ho, rfl, hfaces⟩ := faceMesh_eq_ok hmesh
  refine ⟨origin, m.drawn q origin g m.settings.viewLimit, ho,
    fun l hl hin => ⟨_, hfaces l hl hin⟩, drawn_eq_filter, ?_, ?_, ?_, ?_,
    fun i hi => Mesh.lt_of_mem_indices hi, fun hsmall i hi => ?_, fun i l f hi => ?_⟩
  · rw [drawn_eq_filter]
    exact g.dims.nodup_cellFaces.filter _
  · rw [Mesh.faces_filled, List.map_map, List.map_map]
    exact map_place_drawn hx hy hz
  · rw [Mesh.length_vertices_filled, List.length_map]
  · rw [Mesh.length_indices_filled, List.length_map]
  · exact Mesh.take_indices (by rwa [List.length_map]) (Nat.le_of_lt hsmall)
  · have hquad : ((m.drawn q origin g m.settings.viewLimit).map fun e =>
        m.quadAt origin g e.1 e.2)[i]? = some (m.quadAt origin g l f) := by
      rw [List.getElem?_map, hi]
      rfl
    have hvertices := Mesh.take_vertices hquad
    refine ⟨hvertices, ?_⟩
    rw [hvertices]
    rfl

/-- Of the two voxels of a pillar, each hides one face of the other. -/
theorem solid_mesh_is_visible_faces_pillar :
    (pillar.dims.x ≤ 65536 ∧ pillar.dims.y ≤ 65536 ∧ pillar.dims.z ≤ 65536) ∧
    ∃ mesh, pillarMesher.faceMesh pillarQuery ⟨0, 0, 0⟩ pillar = .ok mesh ∧
      mesh.faces.map SolidFace.place =
        ([.bottom, .left, .right, .front, .back].map fun f => (⟨0, 0, 0⟩, f)) ++
          [.top, .left, .right, .front, .back].map fun f => (⟨0, 1, 0⟩, f) := by
  have hx : pillar.dims.x ≤ 65536 := by decide
  have hy : pillar.dims.y ≤ 65536 := by decide
  have hz : pillar.dims.z ≤ 65536 := by decide
  obtain ⟨mesh, hmesh, -⟩ := Checked.exists_of_passes
    (x := pillarMesher.faceMesh pillarQuery ⟨0, 0, 0⟩ pillar) (f := fun _ => true)
    (by decide +kernel)
  obtain ⟨-, hall⟩ := solid_mesh_is_visible_faces pillarMesher pillarQuery ⟨0, 0, 0⟩ hx hy hz
  obtain ⟨origin, drawn, ho, -, hdrawn, -, hplaces, -⟩ := hall mesh hmesh
  have horigin : Address.origin ⟨0, 0, 0⟩ pillar.dims = .ok ⟨0, 0, 0⟩ := by decide +kernel
  obtain rfl := Except.ok.inj (horigin.symm.trans ho)
  refine ⟨⟨hx, hy, hz⟩, mesh, hmesh, ?_⟩
  rw [hplaces, hdrawn]
  decide +kernel

/-- A chunk that is one voxel. -/
def boulder : Grid := .filled (.cube 1) (.ofKind 1)

/-- In the last chunk along x there is no position to the right of the voxel, and no mesh. -/
theorem no_solid_mesh_in_last_chunk :
    (boulder.dims.x ≤ 65536 ∧ boulder.dims.y ≤ 65536 ∧ boulder.dims.z ≤ 65536) ∧
    (∃ mesh, pillarMesher.faceMesh (Snapshot.ofCenter ⟨0, 0, 0⟩ boulder).query ⟨0, 0, 0⟩ boulder =
      .ok mesh ∧ mesh.faces.length = 6) ∧
    pillarMesher.faceMesh (Snapshot.ofCenter ⟨2147483647, 0, 0⟩ boulder).query ⟨2147483647, 0, 0⟩
      boulder = .error .addOverflow := by
  refine ⟨by decide, ?_, by decide +kernel⟩
  obtain ⟨mesh, hmesh, hsix⟩ := Checked.exists_of_passes
    (x := pillarMesher.faceMesh (Snapshot.ofCenter ⟨0, 0, 0⟩ boulder).query ⟨0, 0, 0⟩ boulder)
    (f := fun mesh => mesh.faces.length = 6) (by decide +kernel)
  exact ⟨mesh, hmesh, of_decide_eq_true hsix⟩

end Mesher

end VoxelScene
