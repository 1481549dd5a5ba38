import VoxelScene.Proofs.MeshReach
import VoxelScene.Proofs.WorldChunks

/-!
What a snapshot shows.

A snapshot has at each of its 27 places the cells of the chunk that was loaded there. All that the
mesh of its centre asks for lies in these chunks, so meshing the snapshot and meshing the chunk in
the live world give the same. It also means that the mesh of a chunk is settled by the cells that
the chunk is a reader of, and by the liquid cells of the chunk below.
-/

namespace VoxelScene

/-! ### Places of a snapshot -/

theorem isUnit_of_slot? {q : Pos} {i : Fin 27} (h : slot? q.x q.y q.z = some i) : q.IsUnit := by
  unfold slot? at h
  split at h
  · rename_i hq
    exact hq
  · cases h

theorem slot?_of_isUnit {q : Pos} (h : q.IsUnit) : ∃ i, slot? q.x q.y q.z = some i := by
  have hq : (-1 ≤ q.x ∧ q.x ≤ 1) ∧ (-1 ≤ q.y ∧ q.y ≤ 1) ∧ (-1 ≤ q.z ∧ q.z ≤ 1) := h
  exact ⟨_, dif_pos hq⟩

theorem slot?_injective {q r : Pos} {i : Fin 27} (hq : slot? q.x q.y q.z = some i)
    (hr : slot? r.x r.y r.z = some i) : q = r := by
  have hqu := isUnit_of_slot? hq
  have hru := isUnit_of_slot? hr
  obtain ⟨qx, qy, qz⟩ := q
  obtain ⟨rx, ry, rz⟩ := r
  unfold Pos.IsUnit at hqu hru
  have hqv : ((qx + 1) + 3 * ((qz + 1) + 3 * (qy + 1))).toNat = i.val := by
    rw [slot?, dif_pos hqu] at hq
    exact congrArg Fin.val (Option.some.inj hq)
  have hrv : ((rx + 1) + 3 * ((rz + 1) + 3 * (ry + 1))).toNat = i.val := by
    rw [slot?, dif_pos hru] at hr
    exact congrArg Fin.val (Option.some.inj hr)
  simp only [Pos.mk.injEq] at hqu hru ⊢
  omega

theorem slot?_zero : slot? 0 0 0 = some 13 := by decide

/-! ### Cells of the world by chunk -/

namespace World

/-- The voxel of a cell, if its chunk is loaded. -/
def voxel? (w : World) (b : Address) (l : Local) : Option Voxel :=
  (w.chunk? b).bind fun c => c.grid.voxel? l

def liquid? (w : World) (b : Address) (l : Local) : Option LiquidCell :=
  (w.chunk? b).bind fun c => c.grid.liquid? l

/-- Every loaded chunk has the size of the world. -/
def Uniform (w : World) : Prop := ∀ a c, w.chunk? a = some c → c.grid.dims = w.dims

/-- The meshes of a chunk, built from a snapshot taken now; none if the chunk is not loaded. -/
def meshOf (w : World) (m : Mesher) (a : Address) : Checked (Option MeshSet) := do
  match ← Snapshot.capture w a with
  | none => return none
  | some s => return some (← m.build s)

variable {w : World} {p : Pos}

theorem meshOf_of_capture {a : Address} {s : Snapshot} (h : Snapshot.capture w a = .ok (some s))
    (m : Mesher) : w.meshOf m a = (m.build s).map some := by
  rw [meshOf, h]
  show (m.build s >>= fun x => pure (some x)) = _
  cases m.build s <;> rfl

theorem locate_of_fits (hd : w.dims.Fits) (hp : p.Fits) : w.locate p = .ok (w.dims.cellAt p) := by
  rw [locate, Dims.extent_of_fits hd, Pos.quotRem_of_fits hp]
  rfl

theorem voxelAt_of_fits (hw : w.Uniform) (hd : w.dims.Fits) (hp : p.Fits) :
    w.voxelAt p = .ok (w.voxel? (w.dims.cellAt p).1 (w.dims.cellAt p).2) := by
  rw [voxelAt, locate_of_fits hd hp, Checked.ok_bind, voxel?]
  show Except.ok ((w.chunk? (w.dims.cellAt p).1).map _) = _
  cases hc : w.chunk? (w.dims.cellAt p).1 with
  | none => rfl
  | some c =>
    have hl : c.grid.dims.Holds (w.dims.cellAt p).2 := hw _ c hc ▸ w.dims.holds_cellAt p
    rw [Option.bind_some, Grid.voxel?_of_holds hl]
    rfl

theorem liquidAt_of_fits (hw : w.Uniform) (hd : w.dims.Fits) (hp : p.Fits) :
    w.liquidAt p = .ok (w.liquid? (w.dims.cellAt p).1 (w.dims.cellAt p).2) := by
  rw [liquidAt, locate_of_fits hd hp, Checked.ok_bind, liquid?]
  show Except.ok ((w.chunk? (w.dims.cellAt p).1).map _) = _
  cases hc : w.chunk? (w.dims.cellAt p).1 with
  | none => rfl
  | some c =>
    have hl : c.grid.dims.Holds (w.dims.cellAt p).2 := hw _ c hc ▸ w.dims.holds_cellAt p
    rw [Option.bind_some, Grid.liquid?_of_holds hl]
    rfl

end World

namespace Snapshot

variable {w w' : World} {a : Address} {s s' : Snapshot}

/-- One chunk of a capture: what lies `step` chunks away is added if it is loaded. -/
def addFrom (w : World) (a : Address) (s : Snapshot) (n : Address) : Snapshot :=
  match w.chunk? n with
  | none => s
  | some c => s.withNeighbor (n.x - a.x) (n.y - a.y) (n.z - a.z) c.grid

theorem center_withNeighbor (s : Snapshot) (dx dy dz : Int) (g : Grid) :
    (s.withNeighbor dx dy dz g).center = s.center ∧
      (s.withNeighbor dx dy dz g).address = s.address := by
  unfold withNeighbor
  split
  · exact ⟨rfl, rfl⟩
  · split <;> exact ⟨rfl, rfl⟩

theorem center_addFrom (s : Snapshot) (n : Address) :
    (addFrom w a s n).center = s.center ∧ (addFrom w a s n).address = s.address := by
  unfold addFrom
  split
  · exact ⟨rfl, rfl⟩
  · exact center_withNeighbor ..

theorem center_foldl_addFrom (ns : List Address) (s : Snapshot) :
    (ns.foldl (addFrom w a) s).center = s.center ∧
      (ns.foldl (addFrom w a) s).address = s.address := by
  induction ns generalizing s with
  | nil => exact ⟨rfl, rfl⟩
  | cons n ns ih =>
    obtain ⟨hc, ha⟩ := ih (addFrom w a s n)
    obtain ⟨hc', ha'⟩ := center_addFrom (w := w) (a := a) s n
    exact ⟨hc.trans hc', ha.trans ha'⟩

/-- Adding the chunk at `n` fills its own place and no other. -/
theorem grid?_addFrom (hw : w.Uniform) (hs : s.dims = w.dims) {n : Address} {q : Pos} {i : Fin 27}
    (hi : slot? q.x q.y q.z = some i) (hne : i ≠ 13) :
    (addFrom w a s n).grid? i =
      if n = a.shift q then ((w.chunk? n).map Chunk.grid).or (s.grid? i) else s.grid? i := by
  rw [grid?, grid?, if_neg hne, if_neg hne]
  unfold addFrom
  cases hc : w.chunk? n with
  | none =>
    dsimp only
    split <;> rfl
  | some c =>
    have hdims : c.grid.dims = s.dims := (hw n c hc).trans hs.symm
    unfold withNeighbor
    cases hj : slot? (n.x - a.x) (n.y - a.y) (n.z - a.z) with
    | none =>
      -- Too far away to have a place, so it is not the chunk that belongs at `i`.
      have hfar : n ≠ a.shift q := by
        rintro rfl
        rw [Address.sub_shift_x, Address.sub_shift_y, Address.sub_shift_z, hi] at hj
        cases hj
      rw [if_neg hfar]
    | some j =>
      by_cases hn : n = a.shift q
      · rw [hn, Address.sub_shift_x, Address.sub_shift_y, Address.sub_shift_z, hi] at hj
        obtain rfl := Option.some.inj hj
        simp [hn, hne, hdims]
      · have hij : j ≠ i := by
          intro he
          subst he
          have heq := slot?_injective (q := ⟨n.x - a.x, n.y - a.y, n.z - a.z⟩) hj hi
          exact hn (by rw [← heq, Address.shift_sub])
        have hval : j.val ≠ i.val := fun h => hij (Fin.ext h)
        rw [if_neg hn]
        dsimp only
        split
        · rfl
        · exact Vector.getElem_set_ne j.isLt i.isLt hval

theorem grid?_foldl_addFrom (hw : w.Uniform) (hs : s.dims = w.dims) {q : Pos} {i : Fin 27}
    (hi : slot? q.x q.y q.z = some i) (hne : i ≠ 13) (ns : List Address) :
    (ns.foldl (addFrom w a) s).grid? i =
      if a.shift q ∈ ns then ((w.chunk? (a.shift q)).map Chunk.grid).or (s.grid? i)
      else s.grid? i := by
  induction ns generalizing s with
  | nil => simp
  | cons n ns ih =>
    have hs' : (addFrom w a s n).dims = w.dims := by
      rw [dims, (center_addFrom s n).1]
      exact hs
    rw [List.foldl_cons, ih hs', grid?_addFrom hw hs hi hne]
    by_cases hn : n = a.shift q
    · subst hn
      cases (w.chunk? (a.shift q)).map Chunk.grid <;> simp
    · have hn' : a.shift q ≠ n := fun h => hn h.symm
      simp [hn, hn']

/-- The snapshot `s` was taken of the chunk at `a` in `w`. -/
structure IsOf (s : Snapshot) (w : World) (a : Address) : Prop where
  address : s.address = a
  dims : s.dims = w.dims
  center : (w.chunk? a).map Chunk.grid = some s.center
  grid : ∀ {q : Pos} {i : Fin 27}, slot? q.x q.y q.z = some i →
    s.grid? i = (w.chunk? (a.shift q)).map Chunk.grid

theorem isOf_capture (hw : w.Uniform) (h : capture w a = .ok (some s)) : s.IsOf w a := by
  unfold capture at h
  split at h
  · simp [pure, Except.pure] at h
  · rename_i c hc
    obtain ⟨ns, hns, h⟩ := Checked.bind_eq_ok_iff.mp h
    obtain rfl : ns.foldl (addFrom w a) (ofCenter a c.grid) = s :=
      Option.some.inj (Checked.pure_eq_ok_iff.mp h)
    obtain ⟨hcenter, haddress⟩ := center_foldl_addFrom (w := w) (a := a) ns (ofCenter a c.grid)
    refine ⟨haddress, ?_, ?_, ?_⟩
    · rw [Snapshot.dims, hcenter]
      exact hw a c hc
    · rw [hc, hcenter]
      rfl
    · intro q i hi
      by_cases h13 : i = 13
      · have hq : q = ⟨0, 0, 0⟩ := slot?_injective hi (h13 ▸ slot?_zero)
        have hself : a.shift q = a := Address.shift_eq_self.mpr hq
        rw [hself, hc, grid?, if_pos h13, hcenter]
        rfl
      · have hq0 : q ≠ ⟨0, 0, 0⟩ := by
          rintro rfl
          exact h13 (Option.some.inj (hi.symm.trans slot?_zero))
        have hmem : a.shift q ∈ ns := by
          rw [Address.neighbors_eq_map hns]
          exact List.mem_map_of_mem (Address.mem_neighborSteps.mpr ⟨hq0, isUnit_of_slot? hi⟩)
        have hblank : (ofCenter a c.grid).grid? i = none := by
          rw [grid?, if_neg h13]
          simp [ofCenter]
        rw [grid?_foldl_addFrom (s := ofCenter a c.grid) hw (hw a c hc) hi h13, if_pos hmem, hblank,
          Option.or_none]

/-- Where a position near the centre is looked up: the chunk it lies in, and the place in that
chunk. -/
theorem locate_of_isOf (hs : s.IsOf w a) (p : Pos) : s.locate p = (do
    let rel ← p.minus (← a.origin w.dims)
    let (q, r) ← rel.quotRem w.dims.extent
    return (slot? q.x q.y q.z).bind fun _ => (w.chunk? (a.shift q)).map fun c =>
      (c.grid, ⟨r.x.toNat, r.y.toNat, r.z.toNat⟩)) := by
  unfold locate
  rw [hs.address, hs.dims]
  apply Checked.bind_congr_of_ok
  intro origin _
  apply Checked.bind_congr_of_ok
  intro rel _
  apply Checked.bind_congr_of_ok
  rintro ⟨q, r⟩ _
  cases hi : slot? q.x q.y q.z with
  | none => simp [hi]
  | some i =>
    cases hc : w.chunk? (a.shift q) with
    | none => simp [hi, hs.grid hi, hc]
    | some c => simp [hi, hs.grid hi, hc]

/-! ### What a snapshot answers -/

variable {origin p : Pos}

theorem locate_of_reach (hd : w.dims.Fits) (hs : s.IsOf w a) (ho : a.origin w.dims = .ok origin)
    (hp : p.Near origin w.dims ∨ p.Under origin w.dims) : s.locate p = (do
      let _ ← p.minus origin
      return (w.chunk? (w.dims.cellAt p).1).map fun c => (c.grid, (w.dims.cellAt p).2)) := by
  rw [locate_of_isOf hs, ho, Checked.ok_bind]
  apply Checked.bind_congr_of_ok
  intro rel hrel
  obtain ⟨rfl, hfits⟩ := Pos.minus_eq_ok_iff.mp hrel
  obtain ⟨i, hi⟩ := slot?_of_isUnit (Dims.isUnit_quot hp)
  rw [Dims.extent_of_fits hd, Pos.quotRem_of_fits hfits, Checked.ok_bind,
    Dims.cellAt_eq_shift hd ho]
  simp only [hi, Option.bind_some]

theorem voxelAt_of_reach (hd : w.dims.Fits) (hs : s.IsOf w a) (ho : a.origin w.dims = .ok origin)
    (hp : p.Near origin w.dims ∨ p.Under origin w.dims) : s.voxelAt p = (do
      let _ ← p.minus origin
      return w.voxel? (w.dims.cellAt p).1 (w.dims.cellAt p).2) := by
  rw [voxelAt, locate_of_reach hd hs ho hp, bind_assoc]
  simp only [pure_bind, Option.bind_map, World.voxel?, Function.comp_def]

theorem liquidAt_of_reach (hd : w.dims.Fits) (hs : s.IsOf w a) (ho : a.origin w.dims = .ok origin)
    (hp : p.Near origin w.dims ∨ p.Under origin w.dims) : s.liquidAt p = (do
      let _ ← p.minus origin
      return w.liquid? (w.dims.cellAt p).1 (w.dims.cellAt p).2) := by
  rw [liquidAt, locate_of_reach hd hs ho hp, bind_assoc]
  simp only [pure_bind, Option.bind_map, World.liquid?, Function.comp_def]

end Snapshot

namespace World

variable {w w' : World} {a : Address}

/-- The two worlds agree on the cells that the chunk at `a` reads, and on the liquid below it. -/
structure SameCells (w w' : World) (a : Address) : Prop where
  voxel : ∀ b l, w.dims.Holds l → Address.IsReader w.dims b l a → w'.voxel? b l = w.voxel? b l
  liquid : ∀ b l, w.dims.Holds l → Address.IsReader w.dims b l a ∨ b = a.below →
    w'.liquid? b l = w.liquid? b l

theorem SameCells.agreeFor (h : w.SameCells w' a) (hd : w.dims.Fits) (hdims : w'.dims = w.dims)
    {s s' : Snapshot} (hs : s.IsOf w a) (hs' : s'.IsOf w' a) :
    s'.query.AgreeFor s.query a w.dims := by
  intro origin ho
  have ho' : a.origin w'.dims = .ok origin := hdims ▸ ho
  have hd' : w'.dims.Fits := hdims ▸ hd
  constructor
  · intro p hp
    show s'.voxelAt p = s.voxelAt p
    rw [Snapshot.voxelAt_of_reach hd hs ho (.inl hp),
      Snapshot.voxelAt_of_reach hd' hs' ho' (.inl (hdims ▸ hp)), hdims,
      h.voxel _ _ (w.dims.holds_cellAt p) (Dims.isReader_cellAt hd ho hp)]
  · intro p hp
    have hread : Address.IsReader w.dims (w.dims.cellAt p).1 (w.dims.cellAt p).2 a ∨
        (w.dims.cellAt p).1 = a.below :=
      hp.imp (Dims.isReader_cellAt hd ho) (Dims.cellAt_of_under hd ho)
    show s'.liquidAt p = s.liquidAt p
    rw [Snapshot.liquidAt_of_reach hd hs ho hp,
      Snapshot.liquidAt_of_reach hd' hs' ho' (hdims ▸ hp), hdims,
      h.liquid _ _ (w.dims.holds_cellAt p) hread]

theorem exists_capture {w : World} {c : Chunk} {ns : List Address} (hc : w.chunk? a = some c)
    (hns : a.neighbors = .ok ns) : ∃ s, Snapshot.capture w a = .ok (some s) := by
  simp only [Snapshot.capture, hc, hns, Checked.ok_bind]
  exact ⟨_, rfl⟩

/-- The meshes of a chunk are settled by the cells it reads and by the liquid below it. -/
theorem SameCells.meshOf_eq (h : w.SameCells w' a) (hd : w.dims.Fits) (hdims : w'.dims = w.dims)
    (hw : w.Uniform) (hw' : w'.Uniform)
    (hgrid : (w'.chunk? a).map Chunk.grid = (w.chunk? a).map Chunk.grid) (m : Mesher) :
    w'.meshOf m a = w.meshOf m a := by
  unfold meshOf
  cases hc : w.chunk? a with
  | none =>
    have hc' : w'.chunk? a = none := by simpa [hc] using hgrid
    simp only [Snapshot.capture, hc, hc']
  | some c =>
    obtain ⟨c', hc', -⟩ : ∃ c', w'.chunk? a = some c' ∧ c'.grid = c.grid := by
      simpa [hc] using hgrid
    -- At the edge of the address range a neighbour has no address, and both captures fault alike.
    cases hns : a.neighbors with
    | error e => simp only [Snapshot.capture, hc, hc', hns, bind, Except.bind]
    | ok ns =>
      obtain ⟨s, hs⟩ := exists_capture hc hns
      obtain ⟨s', hs'⟩ := exists_capture hc' hns
      have his := Snapshot.isOf_capture hw hs
      have his' := Snapshot.isOf_capture hw' hs'
      have hcenter : s'.center = s.center :=
        Option.some.inj (his'.center.symm.trans (hgrid.trans his.center))
      have hagree := h.agreeFor hd hdims his his'
      rw [← his.dims] at hagree
      rw [hs, hs', Checked.ok_bind, Checked.ok_bind]
      simp only [Mesher.build, hcenter, his.address, his'.address, m.meshSet_congr hagree]

end World

end VoxelScene
