import VoxelScene.Mesh.Snapshot
import VoxelScene.Proofs.Lattice

/-!
What a mesh reads.

The solid mesh of a box asks for voxels at most one cell outside it. The liquid meshes also ask
for liquid cells there, and down the columns below the box as far as the box is high. Two queries
that answer alike about these positions give the same meshes, or the same fault.
-/

namespace VoxelScene

/-! ### Regions around a box -/

namespace Pos

def Inside (p origin : Pos) (d : Dims) : Prop :=
  (origin.x ≤ p.x ∧ p.x < origin.x + d.x) ∧ (origin.y ≤ p.y ∧ p.y < origin.y + d.y) ∧
    (origin.z ≤ p.z ∧ p.z < origin.z + d.z)

/-- The position lies in the box at `origin` or at most one cell outside it. -/
def Near (p origin : Pos) (d : Dims) : Prop :=
  (origin.x - 1 ≤ p.x ∧ p.x ≤ origin.x + d.x) ∧ (origin.y - 1 ≤ p.y ∧ p.y ≤ origin.y + d.y) ∧
    (origin.z - 1 ≤ p.z ∧ p.z ≤ origin.z + d.z)

/-- The position lies straight below the box at `origin`, no deeper than the box is high. -/
def Under (p origin : Pos) (d : Dims) : Prop :=
  (origin.x ≤ p.x ∧ p.x < origin.x + d.x) ∧ (origin.y - d.y ≤ p.y ∧ p.y < origin.y) ∧
    (origin.z ≤ p.z ∧ p.z < origin.z + d.z)

/-- A step of at most one cell along each axis. -/
def IsUnit (s : Pos) : Prop :=
  (-1 ≤ s.x ∧ s.x ≤ 1) ∧ (-1 ≤ s.y ∧ s.y ≤ 1) ∧ (-1 ≤ s.z ∧ s.z ≤ 1)

theorem eq_of_plus {p s n : Pos} (h : p.plus s = .ok n) :
    n.x = p.x + s.x ∧ n.y = p.y + s.y ∧ n.z = p.z + s.z := by
  obtain ⟨rfl, -⟩ := plus_eq_ok_iff.mp h
  exact ⟨rfl, rfl, rfl⟩

theorem Inside.near_plus {origin p s n : Pos} {d : Dims} (hp : p.Inside origin d) (hs : s.IsUnit)
    (h : p.plus s = .ok n) : n.Near origin d := by
  obtain ⟨hx, hy, hz⟩ := eq_of_plus h
  unfold Inside at hp
  unfold IsUnit at hs
  unfold Near
  omega

theorem inside_of_holds {origin p : Pos} {d : Dims} {l : Local} (hl : d.Holds l)
    (h : origin.plus l.toPos = .ok p) : p.Inside origin d := by
  obtain ⟨hx, hy, hz⟩ := eq_of_plus h
  unfold Dims.Holds at hl
  simp only [Local.toPos] at hx hy hz
  unfold Inside
  omega

end Pos

/-! ### Cells at positions -/

namespace Dims

/-- The chunk that holds a position, and the cell of it there. -/
def cellAt (d : Dims) (p : Pos) : Address × Local :=
  (⟨p.x / d.x, p.y / d.y, p.z / d.z⟩,
    ⟨(p.x % d.x).toNat, (p.y % d.y).toNat, (p.z % d.z).toNat⟩)

variable {d : Dims} {a : Address} {origin p : Pos}

theorem holds_cellAt (d : Dims) (p : Pos) : d.Holds (d.cellAt p).2 := by
  have axis (n : Int) {size : Nat} (hs : 0 < size) : (n % size).toNat < size := by
    have hlt := Int.emod_lt_of_pos n (by omega : (0 : Int) < size)
    omega
  exact ⟨axis p.x d.x_pos, axis p.y d.y_pos, axis p.z d.z_pos⟩

theorem eq_of_origin (hd : d.Fits) (h : a.origin d = .ok origin) :
    origin = ⟨a.x * d.x, a.y * d.y, a.z * d.z⟩ := by
  rw [Address.origin, extent_of_fits hd] at h
  exact (Pos.times_eq_ok_iff.mp h).1

/-- Counting from the origin of a chunk finds the same cell. -/
theorem cellAt_eq_shift (hd : d.Fits) (h : a.origin d = .ok origin) : d.cellAt p =
    (a.shift ⟨(p.x - origin.x) / d.x, (p.y - origin.y) / d.y, (p.z - origin.z) / d.z⟩,
      ⟨((p.x - origin.x) % d.x).toNat, ((p.y - origin.y) % d.y).toNat,
        ((p.z - origin.z) % d.z).toNat⟩) := by
  have axis (n k : Int) {size : Nat} (hs : 0 < size) :
      n / size = k + (n - k * size) / size ∧ n % size = (n - k * size) % size := by
    have hsum : n = n - k * size + k * size := by omega
    have hne : (size : Int) ≠ 0 := by omega
    constructor
    · conv => lhs; rw [hsum]
      rw [Int.add_mul_ediv_right _ _ hne, Int.add_comm]
    · conv => lhs; rw [hsum]
      rw [Int.add_mul_emod_self_right]
  obtain rfl := eq_of_origin hd h
  have hx := axis p.x a.x d.x_pos
  have hy := axis p.y a.y d.y_pos
  have hz := axis p.z a.z d.z_pos
  simp only [cellAt, Address.shift, ← hx.1, ← hx.2, ← hy.1, ← hy.2, ← hz.1, ← hz.2]

/-- A chunk is a reader of every cell that lies at most one cell outside it. -/
theorem isReader_cellAt (hd : d.Fits) (h : a.origin d = .ok origin) (hp : p.Near origin d) :
    Address.IsReader d (d.cellAt p).1 (d.cellAt p).2 a := by
  obtain ⟨hx, hy, hz⟩ := hp
  have hbx := (beside_of_near d.x_pos (n := p.x - origin.x) (by omega) (by omega)).2.2.2
  have hby := (beside_of_near d.y_pos (n := p.y - origin.y) (by omega) (by omega)).2.2.2
  have hbz := (beside_of_near d.z_pos (n := p.z - origin.z) (by omega) (by omega)).2.2.2
  have hstep (k n : Int) : k - (k + n) = -n := by omega
  rw [cellAt_eq_shift hd h]
  simp only [Address.IsReader, Address.shift, hstep]
  exact ⟨hbx, hby, hbz⟩

theorem quot_of_under (hp : p.Under origin d) :
    (p.x - origin.x) / (d.x : Int) = 0 ∧ (p.y - origin.y) / (d.y : Int) = -1 ∧
      (p.z - origin.z) / (d.z : Int) = 0 := by
  obtain ⟨hx, hy, hz⟩ := hp
  have hpos : (0 : Int) < d.y := Int.natCast_pos.mpr d.y_pos
  have hlow : -1 ≤ (p.y - origin.y) / (d.y : Int) := Int.le_ediv_of_mul_le hpos (by omega)
  have hneg : (p.y - origin.y) / (d.y : Int) < 0 := Int.ediv_neg_of_neg_of_pos (by omega) hpos
  exact ⟨Int.ediv_eq_zero_of_lt (by omega) (by omega), by omega,
    Int.ediv_eq_zero_of_lt (by omega) (by omega)⟩

theorem cellAt_of_under (hd : d.Fits) (h : a.origin d = .ok origin) (hp : p.Under origin d) :
    (d.cellAt p).1 = a.below := by
  obtain ⟨hx, hy, hz⟩ := quot_of_under hp
  rw [cellAt_eq_shift hd h]
  simp only [Address.shift, Address.below, hx, hy, hz, Address.mk.injEq]
  omega

/-- All positions that a mesh asks for lie in the chunk or in one next to it. -/
theorem isUnit_quot (hp : p.Near origin d ∨ p.Under origin d) :
    Pos.IsUnit ⟨(p.x - origin.x) / d.x, (p.y - origin.y) / d.y, (p.z - origin.z) / d.z⟩ := by
  rcases hp with ⟨hx, hy, hz⟩ | hp
  · have hqx := beside_of_near d.x_pos (n := p.x - origin.x) (by omega) (by omega)
    have hqy := beside_of_near d.y_pos (n := p.y - origin.y) (by omega) (by omega)
    have hqz := beside_of_near d.z_pos (n := p.z - origin.z) (by omega) (by omega)
    exact ⟨⟨hqx.2.1, hqx.2.2.1⟩, ⟨hqy.2.1, hqy.2.2.1⟩, ⟨hqz.2.1, hqz.2.2.1⟩⟩
  · obtain ⟨hx, hy, hz⟩ := quot_of_under hp
    simp only [Pos.IsUnit, hx, hy, hz]
    omega

end Dims

theorem Face.isUnit_step (f : Face) : (Face.step f).IsUnit := by
  cases f <;> simp [Face.step, Pos.IsUnit]

theorem TopCorner.isUnit_of_mem {c : TopCorner} {s : Pos}
    (hs : s ∈ [(⟨c.stepX, 0, 0⟩ : Pos), ⟨0, 0, c.stepZ⟩, ⟨c.stepX, 0, c.stepZ⟩]) :
    s.IsUnit ∧ s.y = 0 := by
  simp only [List.mem_cons, List.not_mem_nil, or_false] at hs
  rcases hs with rfl | rfl | rfl <;> cases c <;>
    simp [Pos.IsUnit, stepX, stepZ, right, back]

namespace Query

/-- Two queries answer alike about all that the meshes of the box at `origin` can show. -/
structure AgreeAround (q r : Query) (origin : Pos) (d : Dims) : Prop where
  voxel : ∀ p, p.Near origin d → q.voxelAt p = r.voxelAt p
  liquid : ∀ p, p.Near origin d ∨ p.Under origin d → q.liquidAt p = r.liquidAt p

variable {q r : Query} {origin : Pos} {d : Dims}

namespace AgreeAround

/-! ### Solid faces -/

theorem around_eq (h : q.AgreeAround r origin d) {p : Pos} (hp : p.Inside origin d) :
    q.around p = r.around p := by
  apply Checked.collect_congr
  intro f _
  apply Checked.bind_congr_of_ok
  intro n hn
  rw [h.voxel n (hp.near_plus f.isUnit_step hn)]

theorem isSurrounded_eq (h : q.AgreeAround r origin d) {p : Pos} (hp : p.Inside origin d) :
    q.isSurrounded p = r.isSurrounded p := by
  rw [isSurrounded, isSurrounded, h.around_eq hp]

theorem isFaceVisible_eq (h : q.AgreeAround r origin d) {p : Pos} (hp : p.Inside origin d)
    (v : Voxel) (limit : Option Int) (f : Face) :
    q.isFaceVisible p v limit f = r.isFaceVisible p v limit f := by
  unfold isFaceVisible
  split
  · rfl
  · apply Checked.bind_congr_of_ok
    intro n hn
    rw [h.voxel n (hp.near_plus f.isUnit_step hn), h.isSurrounded_eq hp]

theorem visibleFaces_eq (h : q.AgreeAround r origin d) {p : Pos} (hp : p.Inside origin d)
    (v : Voxel) (limit : Option Int) : q.visibleFaces p v limit = r.visibleFaces p v limit := by
  unfold visibleFaces
  rw [Checked.select_congr fun f _ => h.isFaceVisible_eq hp v limit f]

/-! ### Liquid faces and corners -/

theorem isLiquidFaceVisible_eq (h : q.AgreeAround r origin d) {p : Pos}
    (hp : p.Inside origin d) (limit : Option Int) (f : Face) :
    q.isLiquidFaceVisible p limit f = r.isLiquidFaceVisible p limit f := by
  apply Checked.bind_congr_of_ok
  intro n hn
  have hnear := hp.near_plus f.isUnit_step hn
  rw [isWetAt, isWetAt, occludesAt, occludesAt, h.liquid n (.inl hnear), h.voxel n hnear]

theorem liquidFaces_eq (h : q.AgreeAround r origin d) {p : Pos} (hp : p.Inside origin d)
    (limit : Option Int) : q.liquidFaces p limit = r.liquidFaces p limit := by
  unfold liquidFaces
  rw [Checked.select_congr fun f _ => h.isLiquidFaceVisible_eq hp limit f]

theorem isWetWithAt_eq (h : q.AgreeAround r origin d) {p : Pos} (hp : p.Near origin d)
    (liquid : UInt8) : q.isWetWithAt p liquid = r.isWetWithAt p liquid := by
  rw [isWetWithAt, isWetWithAt, h.liquid p (.inl hp)]

/-- The cell above is asked for too, so the cell itself must not lie above the box. -/
theorem tallyCell_eq (h : q.AgreeAround r origin d) {p : Pos} (hp : p.Near origin d)
    (hy : p.y < origin.y + d.y) (liquid : UInt8) (t : CornerTally) :
    q.tallyCell liquid t p = r.tallyCell liquid t p := by
  have habove : ∀ n, p.plus Pos.up = .ok n → n.Near origin d := by
    intro n hn
    obtain ⟨hx, hy', hz⟩ := Pos.eq_of_plus hn
    unfold Pos.Near at hp ⊢
    simp only [Pos.up] at hx hy' hz
    omega
  have hcovered : (do q.isWetWithAt (← p.plus Pos.up) liquid) =
      (do r.isWetWithAt (← p.plus Pos.up) liquid) :=
    Checked.bind_congr_of_ok fun n hn => h.isWetWithAt_eq (habove n hn) liquid
  unfold tallyCell
  rw [h.liquid p (.inl hp)]
  apply Checked.bind_congr_of_ok
  intro c _
  cases c with
  | none => rfl
  | some c =>
    simp only [occludesAt, h.voxel p hp]
    split
    · simpa only [bind_assoc] using congrArg (· >>= _) hcovered
    · rfl

theorem tallyCorners_eq (h : q.AgreeAround r origin d) {p : Pos} (hp : p.Inside origin d)
    (level liquid : UInt8) : q.tallyCorners p level liquid = r.tallyCorners p level liquid := by
  have hcorner : q.tallyCorner p level liquid = r.tallyCorner p level liquid := by
    funext c
    apply Checked.foldlM_congr
    intro t s hs
    obtain ⟨hunit, hflat⟩ := TopCorner.isUnit_of_mem hs
    apply Checked.bind_congr_of_ok
    intro n hn
    have hy : n.y < origin.y + d.y := by
      have hstep := (Pos.eq_of_plus hn).2.1
      have hin := hp.2.1
      omega
    exact h.tallyCell_eq (hp.near_plus hunit hn) hy liquid t
  rw [tallyCorners, tallyCorners, hcorner]

/-! ### Columns -/

/-- A scan that starts below the box and is no longer than the way to the lowest cell that the
queries agree on. -/
theorem depthBelow_eq (h : q.AgreeAround r origin d) (liquid : UInt8) {scan : Nat} {p : Pos}
    (hx : origin.x ≤ p.x ∧ p.x < origin.x + d.x) (hz : origin.z ≤ p.z ∧ p.z < origin.z + d.z)
    (htop : p.y < origin.y) (hlow : origin.y - d.y + scan ≤ p.y + 1) (depth : Nat) :
    q.depthBelow liquid scan p depth = r.depthBelow liquid scan p depth := by
  induction scan generalizing p depth with
  | zero => rfl
  | succ scan ih =>
    have hunder : p.Under origin d := ⟨hx, ⟨by omega, htop⟩, hz⟩
    simp only [depthBelow, h.liquid p (.inr hunder)]
    apply Checked.bind_congr_of_ok
    intro c _
    cases c with
    | none => rfl
    | some c =>
      by_cases hwet : c.isWetWith liquid = true
      · simp only [hwet, ite_true]
        apply Checked.bind_congr_of_ok
        intro sum _
        apply Checked.bind_congr_of_ok
        intro n hn
        obtain ⟨rfl, -⟩ := Pos.minus_eq_ok_iff.mp hn
        simp only [Pos.up]
        refine ih (by simpa using hx) (by simpa using hz) ?_ ?_ _
        · simp only
          omega
        · simp only
          omega
      · simp only [hwet, Bool.false_eq_true, ite_false]

end AgreeAround

end Query

/-! ### Meshes -/

variable {q r : Query} {a : Address} {g : Grid}

/-- The two queries answer alike around the chunk at `a`, if it has an origin at all. -/
def Query.AgreeFor (q r : Query) (a : Address) (d : Dims) : Prop :=
  ∀ origin, a.origin d = .ok origin → q.AgreeAround r origin d

theorem columnDepths_congr (h : q.AgreeFor r a g.dims) (liquid : UInt8) (maxScan : Nat) :
    columnDepths q a g liquid maxScan = columnDepths r a g liquid maxScan := by
  apply Checked.bind_congr_of_ok
  intro origin horigin
  have hag := h origin horigin
  have hscan : min maxScan (g.dims.y % Word.depthBound) ≤ g.dims.y :=
    Nat.le_trans (Nat.min_le_right ..) (Nat.mod_le ..)
  apply Checked.foldlM_congr
  intro depths base hbase
  obtain ⟨hx, hz, -⟩ := Dims.mem_layer.mp hbase
  apply Checked.bind_congr_left
  apply Checked.bind_congr_of_ok
  intro below hbelow
  obtain ⟨ex, ey, ez⟩ := Pos.eq_of_plus hbelow
  simp only at ex ey ez
  rw [hag.depthBelow_eq liquid (by omega) (by omega) (by omega) (by omega)]

namespace Mesher

variable (m : Mesher)

theorem cellQuads_congr {origin : Pos} (h : q.AgreeAround r origin g.dims) (limit : Option Int)
    {l : Local} (hl : g.dims.Holds l) :
    m.cellQuads q origin g limit l = m.cellQuads r origin g limit l := by
  unfold cellQuads
  dsimp only
  split
  · rfl
  · apply Checked.bind_congr_of_ok
    intro p hp
    rw [h.visibleFaces_eq (Pos.inside_of_holds hl hp)]

theorem cellSlice_congr {origin : Pos} (h : q.AgreeAround r origin g.dims) {l : Local}
    (hl : g.dims.Holds l) : m.cellSlice q origin g l = m.cellSlice r origin g l := by
  unfold cellSlice
  dsimp only
  split
  · rfl
  · apply Checked.bind_congr_of_ok
    intro p hp
    rw [h.visibleFaces_eq (Pos.inside_of_holds hl hp)]

theorem liquidQuads_congr {origin : Pos} (h : q.AgreeAround r origin g.dims) (liquid : UInt8)
    (depths : Array Nat) {l : Local} (hl : g.dims.Holds l) :
    m.liquidQuads q origin g liquid depths l = m.liquidQuads r origin g liquid depths l := by
  unfold liquidQuads
  dsimp only
  split
  · rfl
  · apply Checked.bind_congr_of_ok
    intro p hp
    have hin := Pos.inside_of_holds hl hp
    rw [h.liquidFaces_eq hin, h.tallyCorners_eq hin]
    apply Checked.bind_congr_of_ok
    intro faces _
    split
    · rfl
    · apply Checked.bind_congr_of_ok
      intro n hn
      have hup : Pos.up.IsUnit := Face.isUnit_step .top
      rw [h.isWetWithAt_eq (hin.near_plus hup hn)]

end Mesher

theorem collectLayers_congr {β : Type} {floor : Int} {limit : Option Int}
    {f f' : Nat → Checked (List β)} {ys : List Nat} (h : ∀ y ∈ ys, f y = f' y) :
    collectLayers floor limit f ys = collectLayers floor limit f' ys := by
  induction ys with
  | nil => rfl
  | cons y ys ih =>
    have hy : f y = f' y := h y (List.mem_cons_self ..)
    have hys := ih fun z hz => h z (List.mem_cons_of_mem _ hz)
    simp only [collectLayers, hy, hys]

theorem Dims.holds_of_mem_layer {d : Dims} {y : Nat} (hy : y ∈ List.range d.y) {l : Local}
    (hl : l ∈ d.layer y) : d.Holds l := by
  obtain ⟨hx, hz, rfl⟩ := mem_layer.mp hl
  exact ⟨hx, List.mem_range.mp hy, hz⟩

namespace Mesher

variable (m : Mesher)

theorem solidMesh_congr (h : q.AgreeFor r a g.dims) : m.solidMesh q a g = m.solidMesh r a g := by
  have hwhole : m.faceMesh q a g = m.faceMesh r a g := by
    apply Checked.bind_congr_of_ok
    intro origin horigin
    apply Checked.bind_congr_left
    apply collectLayers_congr
    intro y hy
    apply Checked.collect_congr
    intro l hl
    exact m.cellQuads_congr (h origin horigin) _ (Dims.holds_of_mem_layer hy hl)
  have hsliced : m.slices q a g = m.slices r a g := by
    apply Checked.bind_congr_of_ok
    intro origin horigin
    apply Checked.mapM_congr
    intro y hy
    apply Checked.bind_congr_left
    apply Checked.mapM_congr
    intro l hl
    exact m.cellSlice_congr (h origin horigin) (Dims.holds_of_mem_layer hy hl)
  rw [solidMesh, solidMesh, hwhole, hsliced]

theorem liquidMesh_congr (h : q.AgreeFor r a g.dims) (liquid : UInt8) :
    m.liquidMesh q a g liquid = m.liquidMesh r a g liquid := by
  apply Checked.bind_congr_of_ok
  intro origin horigin
  rw [columnDepths_congr h]
  apply Checked.bind_congr_of_ok
  intro depths _
  apply Checked.bind_congr_left
  apply collectLayers_congr
  intro y hy
  apply Checked.collect_congr
  intro l hl
  exact m.liquidQuads_congr (h origin horigin) liquid depths (Dims.holds_of_mem_layer hy hl)

theorem liquidMeshes_congr (h : q.AgreeFor r a g.dims) :
    m.liquidMeshes q a g = m.liquidMeshes r a g := by
  apply Checked.bind_congr_left
  apply Checked.mapM_congr
  intro liquid _
  exact m.liquidMesh_congr h liquid

theorem meshSet_congr (h : q.AgreeFor r a g.dims) : m.meshSet q a g = m.meshSet r a g := by
  rw [meshSet, meshSet, m.solidMesh_congr h, m.liquidMeshes_congr h]

end Mesher

end VoxelScene
