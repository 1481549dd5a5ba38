import VoxelScene.Proofs.Atlas
import VoxelScene.Proofs.ColumnDepth
import VoxelScene.Proofs.Seams

/-!
The faces of liquid meshes.

A wet cell belongs to the mesh of its own liquid and to no other. Which liquids get a mesh, which
cells a mesh looks at and which faces of a cell it draws is decided in different places; taken
together, the meshes of a chunk draw every visible face of every wet cell in view once, sorted by
liquid. Between two wet cells nothing is drawn, except where the view is cut off.
-/

namespace VoxelScene

theorem Checked.map_of_mapM {α β : Type} {f : α → Checked β} {k : β → α} {xs : List α} {ys : List β}
    (hk : ∀ x y, f x = .ok y → k y = x) (h : xs.mapM f = .ok ys) : ys.map k = xs := by
  induction xs generalizing ys with
  | nil =>
    rw [List.mapM_nil] at h
    obtain rfl := pure_eq_ok_iff.mp h
    rfl
  | cons x xs ih =>
    rw [List.mapM_cons] at h
    obtain ⟨y, hy, h⟩ := bind_eq_ok_iff.mp h
    obtain ⟨rest, hrest, h⟩ := bind_eq_ok_iff.mp h
    obtain rfl := pure_eq_ok_iff.mp h
    rw [List.map_cons, hk x y hy, ih hrest]

theorem Dims.holds_of_mem_cellFaces {d : Dims} {e : Local × Face} (h : e ∈ d.cellFaces) :
    d.Holds e.1 := by
  obtain ⟨l, hl, h⟩ := List.mem_flatMap.mp h
  obtain ⟨f, -, rfl⟩ := List.mem_map.mp h
  exact mem_cells.mp hl

/-! ### Sets of visible faces -/

theorem FaceSet.contains_of_isEmpty {s : FaceSet} (h : s.isEmpty = true) (f : Face) :
    s.contains f = false := by
  have hbits : s.bits = 0 := by simpa [isEmpty] using h
  simp [contains, hbits]

namespace Query

variable {q : Query} {p n : Pos} {limit : Option Int} {f : Face} {s : FaceSet} {c : LiquidCell}

theorem isLiquidFaceVisible_of_liquidFaces (h : q.liquidFaces p limit = .ok s) (f : Face) :
    q.isLiquidFaceVisible p limit f = .ok (s.contains f) := by
  obtain ⟨fs, hfs, h⟩ := Checked.bind_eq_ok_iff.mp h
  obtain rfl := Checked.pure_eq_ok_iff.mp h
  rw [FaceSet.contains_ofList]
  exact Checked.test_of_select hfs f.mem_all

/-- Toward a wet cell only a top at the view limit is drawn, whatever the two liquids are. -/
theorem eq_cut_of_wet (hn : p.plus f.step = .ok n) (hc : q.liquidAt n = .ok (some c))
    (hwet : c.isWet = true) (h : q.liquidFaces p limit = .ok s) (hf : s.contains f = true) :
    f = .top ∧ limit = some p.y := by
  have hface := isLiquidFaceVisible_of_liquidFaces h f
  have hat : q.isWetAt n = .ok true := by
    rw [isWetAt, hc, Checked.ok_bind, Option.any_some, hwet]
    rfl
  rw [isLiquidFaceVisible, hn, Checked.ok_bind, hat, Checked.ok_bind, hf] at hface
  split at hface
  · rename_i htop
    have hlimit := Except.ok.inj hface
    exact ⟨htop, by simpa using hlimit⟩
  · cases hface

/-- The visible faces of all wet cells that are not above the limit, each with its cell. -/
def wetFaces (q : Query) (origin : Pos) (g : Grid) (limit : Option Int) : List (Local × Face) :=
  g.dims.cellFaces.filter fun e => (g.liquid e.1).isWet && inView origin limit e.1 &&
    Checked.passes (q.liquidFaces (origin.cell e.1) limit) (·.contains e.2)

theorem nodup_wetFaces {origin : Pos} {g : Grid} : (q.wetFaces origin g limit).Nodup :=
  g.dims.nodup_cellFaces.filter _

theorem of_mem_wetFaces {origin : Pos} {g : Grid} {e : Local × Face}
    (h : e ∈ q.wetFaces origin g limit) : g.dims.Holds e.1 ∧ (g.liquid e.1).isWet = true ∧
      ∃ s, q.liquidFaces (origin.cell e.1) limit = .ok s ∧ s.contains e.2 = true := by
  obtain ⟨hcell, h⟩ := List.mem_filter.mp h
  simp only [Bool.and_eq_true] at h
  exact ⟨Dims.holds_of_mem_cellFaces hcell, h.1.1, Checked.exists_of_passes h.2⟩

end Query

/-! ### Liquids of a chunk -/

theorem LiquidCell.isWetWith_eq {liquid : UInt8} (h : liquid ≠ 0) (c : LiquidCell) :
    c.isWetWith liquid = (c.isWet && c.liquid == liquid) := by
  by_cases hc : c.liquid = liquid
  · subst hc
    simp [isWetWith, isWet, h]
  · have hne : (c.liquid == liquid) = false := beq_eq_false_iff_ne.mpr hc
    simp [isWetWith, hne]

namespace Grid

variable {g : Grid} {l : Local} {liquid : UInt8}

theorem liquid_mem (hl : g.dims.Holds l) : g.liquid l ∈ g.liquids := by
  have h := liquid?_of_holds hl
  rw [liquid?, if_pos hl] at h
  exact Array.mem_of_getElem? h

theorem ne_zero_of_mem_liquidTypes (h : liquid ∈ g.liquidTypes) : liquid ≠ 0 := by
  obtain ⟨c, -, hwet, rfl⟩ := exists_wet_of_mem_liquidTypes h
  simp only [LiquidCell.isWet, Bool.and_eq_true, bne_iff_ne] at hwet
  exact hwet.1

theorem mem_liquidTypes_of_wet {c : LiquidCell} (hc : c ∈ g.liquids) (hwet : c.isWet = true) :
    c.liquid ∈ g.liquidTypes := by
  obtain ⟨i, hi, rfl⟩ := Array.mem_iff_getElem.mp hc
  refine List.mem_filter.mpr ⟨?_, ?_⟩
  · exact List.mem_map.mpr ⟨g.liquids[i].liquid.toNat,
      List.mem_range.mpr g.liquids[i].liquid.toNat_lt, UInt8.ofNat_toNat⟩
  · -- Once a liquid has been seen it stays in the list.
    apply List.contains_iff_mem.mpr
    refine Array.foldl_induction (motive := fun k (ts : List UInt8) => i < k →
      g.liquids[i].liquid ∈ ts) (fun h => absurd h (Nat.not_lt_zero i)) (fun k ts ih hlt => ?_) hi
    by_cases hk : i = k
    · subst hk
      split
      · exact List.mem_cons_self ..
      · rename_i hnot
        simpa [hwet] using hnot
    · have hmem := ih (by omega)
      split
      · exact List.mem_cons_of_mem _ hmem
      · exact hmem

theorem pairwise_liquidTypes (g : Grid) : g.liquidTypes.Pairwise (· < ·) := by
  have hall : ((List.range 256).map UInt8.ofNat).Pairwise (· < ·) := by
    rw [List.pairwise_map]
    refine List.Pairwise.imp_of_mem (fun {i j} hi hj hlt => ?_) List.pairwise_lt_range
    have hi := List.mem_range.mp hi
    have hj := List.mem_range.mp hj
    rw [UInt8.lt_iff_toNat_lt, UInt8.toNat_ofNat', UInt8.toNat_ofNat']
    omega
  exact hall.filter _

end Grid

/-! ### Faces of one liquid -/

theorem collectLayers_cells {β : Type} {f : Local → Checked (List β)} {d : Dims} {origin : Pos}
    {limit : Option Int} {zs : List β}
    (h : collectLayers origin.y limit (fun y => Checked.collect f (d.layer y)) (List.range d.y) =
      .ok zs) :
    (zs = d.cells.flatMap fun l =>
      if inView origin limit l then (f l).toOption.getD [] else []) ∧
      ∀ l, d.Holds l → inView origin limit l = true → ∃ ys, f l = .ok ys := by
  have hcell (l : Local) (ys : List β) (hl : f l = .ok ys) : ys = (f l).toOption.getD [] := by
    rw [hl]
    rfl
  have hlayer (y : Nat) (zs : List β) (hz : Checked.collect f (d.layer y) = .ok zs) :=
    Checked.collect_eq_ok hcell hz
  obtain ⟨heq, hall⟩ := collectLayers_eq_ok List.pairwise_lt_range
    (fun y zs hz => (hlayer y zs hz).1) h
  constructor
  · rw [heq, Dims.cells, List.flatMap_assoc]
    congr 1
    funext y
    have hview : ∀ l ∈ d.layer y, inView origin limit l = limit.all (origin.y + y ≤ ·) := by
      intro l hl
      rw [inView, (Dims.mem_layer.mp hl).2.2]
    split
    · rename_i hin
      apply List.flatMap_congr
      intro l hl
      rw [hview l hl, if_pos hin]
    · rename_i hout
      symm
      apply List.flatMap_eq_nil_iff.mpr
      intro l hl
      rw [hview l hl, if_neg hout]
  · rintro l ⟨hx, hy, hz⟩ hin
    exact ⟨_, (hlayer l.y _ (hall l.y (List.mem_range.mpr hy) hin)).2 l
      (Dims.mem_layer.mpr ⟨hx, hz, rfl⟩)⟩

/-- The cell of a face, and its direction. -/
def LiquidFace.place (f : LiquidFace) : Local × Face :=
  (⟨f.x.toNat, f.y.toNat, f.z.toNat⟩, f.direction)

def LiquidMesh.places (x : LiquidMesh) : List (Local × Face) := x.mesh.faces.map LiquidFace.place

namespace Mesher

variable {m : Mesher} {q : Query} {a : Address} {origin : Pos} {g : Grid} {l : Local}
variable {liquid : UInt8} {depths : Array Nat}

/-- What is recorded of a face of a liquid cell. -/
def liquidFaceAt (m : Mesher) (g : Grid) (depths : Array Nat) (l : Local) (f : Face) : LiquidFace :=
  ⟨f, .ofNat l.x, .ofNat l.y, .ofNat l.z,
    depths[g.dims.index l]?.getD 0 < m.settings.puddleDepth⟩

theorem place_liquidFaceAt (hx : g.dims.x ≤ 65536) (hy : g.dims.y ≤ 65536) (hz : g.dims.z ≤ 65536)
    (hl : g.dims.Holds l) (f : Face) : (m.liquidFaceAt g depths l f).place = (l, f) := by
  obtain ⟨hlx, hly, hlz⟩ := hl
  simp only [liquidFaceAt, LiquidFace.place,
    UInt16.toNat_ofNat_of_lt' (Nat.lt_of_lt_of_le hlx hx),
    UInt16.toNat_ofNat_of_lt' (Nat.lt_of_lt_of_le hly hy),
    UInt16.toNat_ofNat_of_lt' (Nat.lt_of_lt_of_le hlz hz)]

/-- The mesh of a liquid draws this face of this cell, if the cell is in view. -/
def wets (m : Mesher) (q : Query) (origin : Pos) (g : Grid) (liquid : UInt8) (l : Local)
    (f : Face) : Bool :=
  (g.liquid l).isWetWith liquid &&
    Checked.passes (q.liquidFaces (origin.cell l) m.settings.viewLimit) (·.contains f)

theorem liquidQuads_eq_ok {quads : List LiquidQuad}
    (h : m.liquidQuads q origin g liquid depths l = .ok quads) :
    quads.map (·.face) =
        (Face.all.filter (m.wets q origin g liquid l)).map (m.liquidFaceAt g depths l) ∧
      ((g.liquid l).isWetWith liquid = true →
        ∃ faces, q.liquidFaces (origin.cell l) m.settings.viewLimit = .ok faces) := by
  unfold liquidQuads at h
  dsimp only at h
  split at h
  · rename_i hdry
    have hdry : (g.liquid l).isWetWith liquid = false := by simpa using hdry
    obtain rfl := Checked.pure_eq_ok_iff.mp h
    simp [wets, hdry]
  · rename_i hwet
    have hwet : (g.liquid l).isWetWith liquid = true := by simpa using hwet
    obtain ⟨p, hp, h⟩ := Checked.bind_eq_ok_iff.mp h
    obtain ⟨rfl, -⟩ := Pos.plus_eq_ok_iff.mp hp
    obtain ⟨faces, hfaces, h⟩ := Checked.bind_eq_ok_iff.mp h
    have hdrawn : m.wets q origin g liquid l = faces.contains := by
      funext f
      have hcell : q.liquidFaces (origin.cell l) m.settings.viewLimit = .ok faces := hfaces
      rw [wets, hwet, hcell]
      rfl
    refine ⟨?_, fun _ => ⟨faces, hfaces⟩⟩
    rw [hdrawn]
    split at h
    · rename_i hnone
      obtain rfl := Checked.pure_eq_ok_iff.mp h
      have hempty : Face.all.filter faces.contains = [] :=
        List.filter_eq_nil_iff.mpr fun f _ => by simp [FaceSet.contains_of_isEmpty hnone]
      rw [hempty]
      rfl
    · obtain ⟨up, -, h⟩ := Checked.bind_eq_ok_iff.mp h
      obtain ⟨covered, -, h⟩ := Checked.bind_eq_ok_iff.mp h
      obtain ⟨tallies, -, h⟩ := Checked.bind_eq_ok_iff.mp h
      obtain rfl := Checked.pure_eq_ok_iff.mp h
      rw [List.map_map]
      rfl

theorem liquidMesh_eq_ok {x : LiquidMesh} (ho : a.origin g.dims = .ok origin)
    (h : m.liquidMesh q a g liquid = .ok x) :
    ∃ depths, columnDepths q a g liquid m.settings.maxColumnScan = .ok depths ∧
      x.liquid = liquid ∧ (∃ quads, x.mesh = .filled quads) ∧
      (x.mesh.faces = (g.dims.cellFaces.filter fun e =>
        inView origin m.settings.viewLimit e.1 && m.wets q origin g liquid e.1 e.2).map fun e =>
          m.liquidFaceAt g depths e.1 e.2) ∧
      ∀ l, g.dims.Holds l → inView origin m.settings.viewLimit l = true →
        (g.liquid l).isWetWith liquid = true →
        ∃ faces, q.liquidFaces (origin.cell l) m.settings.viewLimit = .ok faces := by
  rw [liquidMesh, ho, Checked.ok_bind] at h
  obtain ⟨depths, hdepths, h⟩ := Checked.bind_eq_ok_iff.mp h
  obtain ⟨quads, hquads, h⟩ := Checked.bind_eq_ok_iff.mp h
  rw [Mesh.ofQuads_eq_ok, Checked.ok_bind] at h
  obtain rfl := Checked.pure_eq_ok_iff.mp h
  obtain ⟨rfl, hall⟩ := collectLayers_cells hquads
  refine ⟨depths, hdepths, rfl, ⟨_, rfl⟩, ?_, fun l hl hin hwet => ?_⟩
  · rw [Mesh.faces_filled, List.map_flatMap, Dims.cellFaces, List.filter_flatMap, List.map_flatMap]
    apply List.flatMap_congr
    intro l hl
    rw [List.filter_map, List.map_map]
    cases hin : inView origin m.settings.viewLimit l with
    | false => simp [Function.comp_def, hin]
    | true =>
      obtain ⟨ys, hys⟩ := hall l (Dims.mem_cells.mp hl) hin
      have hcell := (liquidQuads_eq_ok hys).1
      simpa [Function.comp_def, hin, hys, Except.toOption] using hcell
  · obtain ⟨ys, hys⟩ := hall l hl hin
    exact (liquidQuads_eq_ok hys).2 hwet

theorem places_of_liquidMesh {x : LiquidMesh} (hx : g.dims.x ≤ 65536) (hy : g.dims.y ≤ 65536)
    (hz : g.dims.z ≤ 65536) (ho : a.origin g.dims = .ok origin) (hne : liquid ≠ 0)
    (h : m.liquidMesh q a g liquid = .ok x) :
    x.places = (q.wetFaces origin g m.settings.viewLimit).filter fun e =>
      (g.liquid e.1).liquid == liquid := by
  obtain ⟨depths, -, -, -, hfaces, -⟩ := liquidMesh_eq_ok ho h
  rw [LiquidMesh.places, hfaces, List.map_map]
  refine Eq.trans (List.map_congr_left fun e he => ?_) ((List.map_id _).trans ?_)
  · exact place_liquidFaceAt hx hy hz (Dims.holds_of_mem_cellFaces (List.mem_of_mem_filter he)) e.2
  · rw [Query.wetFaces, List.filter_filter]
    apply List.filter_congr
    intro e _
    -- Wet with this liquid is wet, and of this liquid; only the dry type would tell them apart.
    rw [wets, LiquidCell.isWetWith_eq hne]
    ac_rfl

/-- A face is marked by the depth of the column of the mesh's liquid that ends at its cell. -/
theorem puddle_of_liquidMesh {x : LiquidMesh} (hx : g.dims.x ≤ 65536) (hy : g.dims.y ≤ 65536)
    (hz : g.dims.z ≤ 65536) (ho : a.origin g.dims = .ok origin)
    (h : m.liquidMesh q a g liquid = .ok x) {face : LiquidFace} (hface : face ∈ x.mesh.faces) :
    face.puddle = decide (q.columnDepth origin g liquid (min m.settings.maxColumnScan g.dims.y)
      face.place.1 < m.settings.puddleDepth) := by
  obtain ⟨depths, hdepths, -, -, hfaces, -⟩ := liquidMesh_eq_ok ho h
  rw [hfaces] at hface
  obtain ⟨e, he, rfl⟩ := List.mem_map.mp hface
  have hl := Dims.holds_of_mem_cellFaces (List.mem_of_mem_filter he)
  have hsize : g.dims.y < Word.depthBound := by
    unfold Word.depthBound
    omega
  rw [place_liquidFaceAt hx hy hz hl, liquidFaceAt, Query.depth_of_columnDepths hsize ho hdepths hl]
  rfl

/-! ### All meshes of a chunk -/

variable {meshes : List LiquidMesh} {x : LiquidMesh}

theorem liquid_of_liquidMesh (h : m.liquidMesh q a g liquid = .ok x) :
    x.liquid = liquid ∧ ∃ origin, a.origin g.dims = .ok origin := by
  obtain ⟨origin, ho, -⟩ := Checked.bind_eq_ok_iff.mp h
  obtain ⟨-, -, hliquid, -⟩ := liquidMesh_eq_ok ho h
  exact ⟨hliquid, origin, ho⟩

theorem of_mem_liquidMeshes (h : m.liquidMeshes q a g = .ok meshes) (hx : x ∈ meshes) :
    x.liquid ∈ g.liquidTypes ∧ m.liquidMesh q a g x.liquid = .ok x ∧ x.mesh.isEmpty = false := by
  obtain ⟨all, hall, h⟩ := Checked.bind_eq_ok_iff.mp h
  obtain rfl := Checked.pure_eq_ok_iff.mp h
  obtain ⟨hmem, hfull⟩ := List.mem_filter.mp hx
  obtain ⟨liquid, hliquid, hmesh⟩ := Checked.mem_of_mapM hall hmem
  obtain rfl := (liquid_of_liquidMesh hmesh).1
  exact ⟨hliquid, hmesh, by simpa using hfull⟩

theorem exists_of_mem_liquidTypes (h : m.liquidMeshes q a g = .ok meshes)
    (hliquid : liquid ∈ g.liquidTypes) :
    ∃ x, m.liquidMesh q a g liquid = .ok x ∧ (x.places ≠ [] → x ∈ meshes) := by
  obtain ⟨all, hall, h⟩ := Checked.bind_eq_ok_iff.mp h
  obtain rfl := Checked.pure_eq_ok_iff.mp h
  obtain ⟨i, hi⟩ := List.getElem?_of_mem hliquid
  obtain ⟨x, hx, hmesh⟩ := Checked.getElem?_mapM hall hi
  refine ⟨x, hmesh, fun hfull => List.mem_filter.mpr ⟨List.mem_of_getElem? hx, ?_⟩⟩
  simpa [LiquidMesh.places, Mesh.faces, Mesh.isEmpty] using hfull

theorem pairwise_liquidMeshes (h : m.liquidMeshes q a g = .ok meshes) :
    meshes.Pairwise fun x y => x.liquid < y.liquid := by
  obtain ⟨all, hall, h⟩ := Checked.bind_eq_ok_iff.mp h
  obtain rfl := Checked.pure_eq_ok_iff.mp h
  have hids : all.map (·.liquid) = g.liquidTypes :=
    Checked.map_of_mapM (fun liquid x hx => (liquid_of_liquidMesh hx).1) hall
  have hup := g.pairwise_liquidTypes
  rw [← hids, List.pairwise_map] at hup
  exact hup.filter _

theorem exists_liquidMeshes (ho : a.origin g.dims = .ok origin) (hq : q.Answers origin g.dims)
    (hsmall : g.dims.y < 8388608)
    (hroom : ∀ liquid ∈ g.liquidTypes, ¬ m.Overflows q origin g.dims liquid) :
    ∃ meshes, m.liquidMeshes q a g = .ok meshes := by
  obtain ⟨meshes, hmeshes⟩ := Checked.exists_mapM fun liquid hliquid =>
    (m.exists_liquidMesh ho hq hsmall (hroom liquid hliquid)).imp fun _ h => h.1
  rw [liquidMeshes, hmeshes]
  exact ⟨_, rfl⟩

section Partition

variable (hx : g.dims.x ≤ 65536) (hy : g.dims.y ≤ 65536) (hz : g.dims.z ≤ 65536)
include hx hy hz

theorem places_of_mem_liquidMeshes (ho : a.origin g.dims = .ok origin)
    (h : m.liquidMeshes q a g = .ok meshes) (hmem : x ∈ meshes) :
    x.places = (q.wetFaces origin g m.settings.viewLimit).filter fun e =>
      (g.liquid e.1).liquid == x.liquid := by
  obtain ⟨hliquid, hmesh, -⟩ := of_mem_liquidMeshes h hmem
  exact places_of_liquidMesh hx hy hz ho (Grid.ne_zero_of_mem_liquidTypes hliquid) hmesh

/-- A face that is to be drawn keeps the mesh of its liquid from being dropped as empty. -/
theorem exists_mesh_of_mem_wetFaces (ho : a.origin g.dims = .ok origin)
    (h : m.liquidMeshes q a g = .ok meshes) {e : Local × Face}
    (he : e ∈ q.wetFaces origin g m.settings.viewLimit) :
    ∃ x ∈ meshes, x.liquid = (g.liquid e.1).liquid ∧ e ∈ x.places := by
  obtain ⟨hl, hwet, -⟩ := Query.of_mem_wetFaces he
  have hliquid := Grid.mem_liquidTypes_of_wet (Grid.liquid_mem hl) hwet
  obtain ⟨x, hmesh, hkeep⟩ := exists_of_mem_liquidTypes h hliquid
  have hplaces := places_of_liquidMesh hx hy hz ho (Grid.ne_zero_of_mem_liquidTypes hliquid) hmesh
  have hin : e ∈ x.places := by
    rw [hplaces]
    exact List.mem_filter.mpr ⟨he, beq_self_eq_true _⟩
  exact ⟨x, hkeep (List.ne_nil_of_mem hin), (liquid_of_liquidMesh hmesh).1, hin⟩

theorem places_perm_wetFaces (ho : a.origin g.dims = .ok origin)
    (h : m.liquidMeshes q a g = .ok meshes) :
    (meshes.flatMap LiquidMesh.places).Perm (q.wetFaces origin g m.settings.viewLimit) := by
  have hplaces {x : LiquidMesh} (hmem : x ∈ meshes) :=
    places_of_mem_liquidMeshes hx hy hz ho h hmem
  have hnodup : (meshes.flatMap LiquidMesh.places).Nodup := by
    refine List.nodup_flatMap.mpr ⟨fun x hmem => ?_, ?_⟩
    · rw [hplaces hmem]
      exact Query.nodup_wetFaces.filter _
    · -- A place in two meshes would give its cell two liquids.
      refine (pairwise_liquidMeshes h).imp_of_mem fun {x y} hxm hym hlt => ?_
      intro e hex hey
      rw [hplaces hxm] at hex
      rw [hplaces hym] at hey
      have hleft := eq_of_beq (List.mem_filter.mp hex).2
      have hright := eq_of_beq (List.mem_filter.mp hey).2
      rw [← hleft, ← hright] at hlt
      exact absurd hlt (UInt8.lt_irrefl _)
  refine (List.perm_ext_iff_of_nodup hnodup Query.nodup_wetFaces).mpr fun e => ?_
  rw [List.mem_flatMap]
  constructor
  · rintro ⟨x, hmem, he⟩
    rw [hplaces hmem] at he
    exact List.mem_of_mem_filter he
  · intro he
    obtain ⟨x, hmem, -, hin⟩ := exists_mesh_of_mem_wetFaces hx hy hz ho h he
    exact ⟨x, hmem, hin⟩

end Partition

theorem answered_of_liquidMeshes (ho : a.origin g.dims = .ok origin)
    (h : m.liquidMeshes q a g = .ok meshes) (hl : g.dims.Holds l) (hwet : (g.liquid l).isWet = true)
    (hin : inView origin m.settings.viewLimit l = true) :
    ∃ faces, q.liquidFaces (origin.cell l) m.settings.viewLimit = .ok faces := by
  have hliquid := Grid.mem_liquidTypes_of_wet (Grid.liquid_mem hl) hwet
  obtain ⟨x, hmesh, -⟩ := exists_of_mem_liquidTypes h hliquid
  obtain ⟨-, -, -, -, -, hanswered⟩ := liquidMesh_eq_ok ho hmesh
  refine hanswered l hl hin ?_
  rw [LiquidCell.isWetWith_eq (Grid.ne_zero_of_mem_liquidTypes hliquid), hwet]
  exact beq_self_eq_true _

/-- The meshes of a chunk's liquids draw every visible face of every wet cell in view once, each in
the mesh of the cell's liquid and in storage order, and no face between two wet cells other than a
top at the view limit. Where the chunk and its surroundings can be read, the meshes exist unless the
scan of a column leaves the world. Only a chunk that is dry everywhere has meshes without having an
origin. -/
theorem liquid_meshes_partition_wet_faces (m : Mesher) (q : Query) (a : Address) {g : Grid}
    (hx : g.dims.x ≤ 65536) (hy : g.dims.y ≤ 65536) (hz : g.dims.z ≤ 65536) :
    (∀ origin, a.origin g.dims = .ok origin → q.Answers origin g.dims →
      ((∀ liquid ∈ g.liquidTypes, ¬ m.Overflows q origin g.dims liquid) →
        ∃ meshes, m.liquidMeshes q a g = .ok meshes) ∧
      ((∃ liquid ∈ g.liquidTypes, m.Overflows q origin g.dims liquid) →
        m.liquidMeshes q a g = .error .subOverflow)) ∧
    ∀ meshes, m.liquidMeshes q a g = .ok meshes →
      meshes.Pairwise (fun x y => x.liquid < y.liquid) ∧
      (∀ x ∈ meshes, x.liquid ≠ 0 ∧ x.mesh.isEmpty = false) ∧
      ((meshes = [] ∧ ∀ l, g.dims.Holds l → (g.liquid l).isWet = false) ∨
      ∃ origin wet, a.origin g.dims = .ok origin ∧
        (∀ l, g.dims.Holds l → (g.liquid l).isWet = true →
          inView origin m.settings.viewLimit l = true →
          ∃ faces, q.liquidFaces (origin.cell l) m.settings.viewLimit = .ok faces) ∧
        wet = q.wetFaces origin g m.settings.viewLimit ∧ wet.Nodup ∧
        (meshes.flatMap LiquidMesh.places).Perm wet ∧
        ∀ x ∈ meshes,
          x.places = wet.filter (fun e => (g.liquid e.1).liquid == x.liquid) ∧
          (∀ face ∈ x.mesh.faces, face.puddle = decide (q.columnDepth origin g x.liquid
            (min m.settings.maxColumnScan g.dims.y) face.place.1 < m.settings.puddleDepth)) ∧
          x.mesh.vertices.length = 4 * x.places.length ∧
          x.mesh.indices.length = 6 * x.places.length ∧
          (x.mesh.vertices.length < 4294967296 → ∀ i < x.places.length,
            ((x.mesh.indices.drop (6 * i)).take 6).map UInt32.toNat =
              [4 * i, 4 * i + 1, 4 * i + 2, 4 * i, 4 * i + 2, 4 * i + 3]) ∧
          ∀ l f n c, (l, f) ∈ x.places → (origin.cell l).plus f.step = .ok n →
            q.liquidAt n = .ok (some c) → c.isWet = true →
            f = .top ∧ m.settings.viewLimit = some (origin.y + l.y)) := by
  refine ⟨fun origin ho hq => ⟨exists_liquidMeshes ho hq (by omega),
      m.liquidMeshes_of_overflows ho hq (by omega)⟩,
    fun meshes h => ⟨pairwise_liquidMeshes h, fun x hmem => ?_, ?_⟩⟩
  · obtain ⟨hliquid, -, hfull⟩ := of_mem_liquidMeshes h hmem
    exact ⟨Grid.ne_zero_of_mem_liquidTypes hliquid, hfull⟩
  -- Without a wet cell no mesh is asked for, and the origin is never computed.
  by_cases hdry : g.liquidTypes = []
  · refine .inl ⟨?_, fun l hl => ?_⟩
    · rw [liquidMeshes, hdry] at h
      exact (Checked.pure_eq_ok_iff.mp h).symm
    · by_contra hwet
      have hmem := Grid.mem_liquidTypes_of_wet (Grid.liquid_mem hl) (by simpa using hwet)
      rw [hdry] at hmem
      cases hmem
  · obtain ⟨liquid, hliquid⟩ := List.exists_mem_of_ne_nil _ hdry
    obtain ⟨x, hmesh, -⟩ := exists_of_mem_liquidTypes h hliquid
    obtain ⟨-, origin, ho⟩ := liquid_of_liquidMesh hmesh
    refine .inr ⟨origin, _, ho, fun l hl hwet hin => answered_of_liquidMeshes ho h hl hwet hin, rfl,
      Query.nodup_wetFaces, places_perm_wetFaces hx hy hz ho h, fun x hmem => ?_⟩
    have hplaces := places_of_mem_liquidMeshes hx hy hz ho h hmem
    have hmesh := (of_mem_liquidMeshes h hmem).2.1
    obtain ⟨-, -, -, ⟨quads, hfilled⟩, -⟩ := liquidMesh_eq_ok ho hmesh
    have hcount : quads.length = x.places.length := by
      rw [LiquidMesh.places, hfilled, Mesh.faces_filled, List.length_map, List.length_map]
    refine ⟨hplaces, fun face hface => puddle_of_liquidMesh hx hy hz ho hmesh hface, ?_, ?_,
      fun hsmall i hi => ?_, fun l f n c hmem hn hc hwet => ?_⟩
    · rw [hfilled, Mesh.length_vertices_filled, hcount]
    · rw [hfilled, Mesh.length_indices_filled, hcount]
    · rw [hfilled] at hsmall ⊢
      exact Mesh.take_indices (hcount ▸ hi) (Nat.le_of_lt hsmall)
    · rw [hplaces] at hmem
      obtain ⟨-, -, s, hs, hf⟩ := Query.of_mem_wetFaces (List.mem_of_mem_filter hmem)
      exact Query.eq_cut_of_wet hn hc hwet hs hf

/-- Cuts a spring at the height of its lava. -/
def springMesher : Mesher := .ofSettings Noise.still .empty .empty { viewLimit := some 4 }

/-- Below the cut the water shows its sides only, and the lava at the cut its sides and its top. -/
theorem liquid_meshes_partition_wet_faces_spring :
    (spring.center.dims.x ≤ 65536 ∧ spring.center.dims.y ≤ 65536 ∧ spring.center.dims.z ≤ 65536) ∧
    ∃ water lava,
      springMesher.liquidMeshes spring.query spring.address spring.center = .ok [water, lava] ∧
      water.liquid = 1 ∧ lava.liquid = 2 ∧
      (water.places = [.left, .right, .front, .back].map fun f => (⟨0, 0, 0⟩, f)) ∧
      lava.places = [.top, .left, .right, .front, .back].map fun f => (⟨0, 1, 0⟩, f) := by
  have hx : spring.center.dims.x ≤ 65536 := by decide
  have hy : spring.center.dims.y ≤ 65536 := by decide
  have hz : spring.center.dims.z ≤ 65536 := by decide
  obtain ⟨meshes, hmeshes, hids⟩ := Checked.exists_of_passes
    (x := springMesher.liquidMeshes spring.query spring.address spring.center)
    (f := fun meshes => meshes.map (·.liquid) == [1, 2]) (by decide +kernel)
  obtain ⟨-, hall⟩ :=
    liquid_meshes_partition_wet_faces springMesher spring.query spring.address hx hy hz
  obtain ⟨-, -, ⟨-, hdry⟩ | ⟨origin, wet, ho, -, hwet, -, -, heach⟩⟩ := hall meshes hmeshes
  · exact absurd (hdry ⟨0, 0, 0⟩ (by decide)) (by decide +kernel)
  have horigin : spring.address.origin spring.center.dims = .ok ⟨0, 3, 0⟩ := by decide +kernel
  obtain rfl := Except.ok.inj (horigin.symm.trans ho)
  obtain ⟨water, rest, rfl, hwater, hrest⟩ := List.map_eq_cons_iff.mp (eq_of_beq hids)
  obtain ⟨lava, rest, rfl, hlava, hrest⟩ := List.map_eq_cons_iff.mp hrest
  obtain rfl := List.map_eq_nil_iff.mp hrest
  refine ⟨⟨hx, hy, hz⟩, water, lava, hmeshes, hwater, hlava, ?_, ?_⟩
  · rw [(heach water (List.mem_cons_self ..)).1, hwater, hwet]
    decide +kernel
  · rw [(heach lava (List.mem_cons_of_mem _ (List.mem_cons_self ..))).1, hlava, hwet]
    decide +kernel

/-- At the bottom of the world the scan below the centre is the end of it; one chunk higher the
water has its mesh. -/
theorem no_liquid_meshes_in_lowest_well :
    (∀ y, (well y).center.dims = .ofSizes 1 2 1) ∧
    (well (-1073741823)).address.BlockFits (well (-1073741823)).dims ∧
    (∃ water, pillarMesher.liquidMeshes (well (-1073741822)).query (well (-1073741822)).address
      (well (-1073741822)).center = .ok [water] ∧ water.liquid = 1 ∧ water.places.length = 5) ∧
    pillarMesher.liquidMeshes (well (-1073741823)).query (well (-1073741823)).address
      (well (-1073741823)).center = .error .subOverflow := by
  refine ⟨fun _ => rfl, blockFits_well (by decide) (by decide), ?_, rfl⟩
  obtain ⟨meshes, hmeshes, hwater⟩ := Checked.exists_of_passes
    (x := pillarMesher.liquidMeshes (well (-1073741822)).query (well (-1073741822)).address
      (well (-1073741822)).center)
    (f := fun meshes => meshes.map (fun x => (x.liquid, x.places.length)) == [(1, 5)])
    (by decide +kernel)
  obtain ⟨water, rest, rfl, hone, hrest⟩ := List.map_eq_cons_iff.mp (eq_of_beq hwater)
  obtain rfl := List.map_eq_nil_iff.mp hrest
  obtain ⟨hliquid, hfive⟩ := Prod.mk.inj hone
  exact ⟨water, hmeshes, hliquid, hfive⟩

end Mesher

end VoxelScene
