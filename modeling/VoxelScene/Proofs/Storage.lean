import VoxelScene.Chunk.Chunk

/-!
Cells in storage.

The place of a cell in storage and the cell at a place are inverse to each other inside the box,
so no two cells share a place. Writing a cell changes that cell alone, and replacing the ramp
masks changes nothing but masks.
-/

namespace VoxelScene

/-! ### Places -/

theorem length_flatMap_const {α β : Type} {f : α → List β} {n : Nat}
    (hlen : ∀ x, (f x).length = n) (xs : List α) : (xs.flatMap f).length = n * xs.length := by
  induction xs with
  | nil => rfl
  | cons x xs ih =>
    rw [List.flatMap_cons, List.length_append, hlen, ih, List.length_cons, Nat.mul_succ,
      Nat.add_comm]

theorem length_flatMap_range {α : Type} {f : Nat → List α} {k : Nat}
    (hlen : ∀ y, (f y).length = k) (n : Nat) : ((List.range n).flatMap f).length = k * n := by
  rw [length_flatMap_const hlen, List.length_range]

namespace Dims

variable {d : Dims} {l : Local} {i : Nat}

theorem position_index (hl : d.Holds l) : d.position (d.index l) = l := by
  obtain ⟨x, y, z⟩ := l
  obtain ⟨hx, hy, hz⟩ := hl
  simp only at hx hy hz
  have hrow : (x + d.x * (z + d.z * y)) / d.x = z + d.z * y := by
    rw [Nat.add_mul_div_left _ _ d.x_pos, Nat.div_eq_of_lt hx, Nat.zero_add]
  have hlayer : (z + d.z * y) / d.z = y := by
    rw [Nat.add_mul_div_left _ _ d.z_pos, Nat.div_eq_of_lt hz, Nat.zero_add]
  simp only [position, index, ← Nat.div_div_eq_div_mul, hrow, hlayer, Nat.add_mul_mod_self_left,
    Nat.mod_eq_of_lt hx, Nat.mod_eq_of_lt hz]

theorem index_injective {l' : Local} (hl : d.Holds l) (hl' : d.Holds l')
    (h : d.index l = d.index l') : l = l' := by
  rw [← position_index hl, ← position_index hl', h]

theorem index_lt_volume (hl : d.Holds l) : d.index l < d.volume := by
  obtain ⟨x, y, z⟩ := l
  obtain ⟨hx, hy, hz⟩ := hl
  simp only at hx hy hz
  have hlayer : z + d.z * y < d.z * d.y :=
    calc z + d.z * y < d.z + d.z * y := Nat.add_lt_add_right hz _
      _ = d.z * (y + 1) := by rw [Nat.mul_succ, Nat.add_comm]
      _ ≤ d.z * d.y := Nat.mul_le_mul_left _ hy
  calc x + d.x * (z + d.z * y) < d.x + d.x * (z + d.z * y) := Nat.add_lt_add_right hx _
    _ = d.x * (z + d.z * y + 1) := by rw [Nat.mul_succ, Nat.add_comm]
    _ ≤ d.x * (d.z * d.y) := Nat.mul_le_mul_left _ hlayer
    _ = d.volume := by rw [volume, Nat.mul_comm d.z, Nat.mul_assoc]

theorem getElem?_flatMap_range {α : Type} {f : Nat → List α} {n k : Nat}
    (hlen : ∀ y, (f y).length = k) {y j : Nat} (hy : y < n) (hj : j < k) :
    ((List.range n).flatMap f)[k * y + j]? = (f y)[j]? := by
  have hbefore := length_flatMap_range hlen
  induction n with
  | zero => omega
  | succ n ih =>
    rw [List.range_succ, List.flatMap_append]
    simp only [List.flatMap_cons, List.flatMap_nil, List.append_nil]
    by_cases hlast : y = n
    · subst hlast
      rw [List.getElem?_append_right (by rw [hbefore]; omega), hbefore, Nat.add_sub_cancel_left]
    · have hfit : k * y + j < k * n :=
        calc k * y + j < k * y + k := by omega
          _ = k * (y + 1) := by rw [Nat.mul_succ]
          _ ≤ k * n := Nat.mul_le_mul_left _ (by omega)
      rw [List.getElem?_append_left (by rw [hbefore]; exact hfit), ih (by omega)]

/-- The list of all cells has each cell at its place in storage. -/
theorem getElem?_cells (hl : d.Holds l) : d.cells[d.index l]? = some l := by
  obtain ⟨x, y, z⟩ := l
  obtain ⟨hx, hy, hz⟩ := hl
  simp only at hx hy hz
  have hrow : ∀ y z, ((List.range d.x).map fun x => (⟨x, y, z⟩ : Local)).length = d.x := by
    intro y z
    rw [List.length_map, List.length_range]
  have hlayer : ∀ y, (d.layer y).length = d.x * d.z := by
    intro y
    rw [layer, length_flatMap_range fun z => hrow y z]
  have hplace : d.index ⟨x, y, z⟩ = d.x * d.z * y + (d.x * z + x) := by
    simp only [index, Nat.mul_add, Nat.mul_assoc]
    omega
  have hinside : d.x * z + x < d.x * d.z :=
    calc d.x * z + x < d.x * z + d.x := by omega
      _ = d.x * (z + 1) := by rw [Nat.mul_succ]
      _ ≤ d.x * d.z := Nat.mul_le_mul_left _ hz
  rw [hplace, cells, getElem?_flatMap_range hlayer hy hinside, layer,
    getElem?_flatMap_range (fun z => hrow y z) hz hx]
  simp [hx]

end Dims

/-! ### Reading and writing cells -/

namespace Grid

variable {g : Grid} {l l' : Local}

theorem voxel?_of_holds (hl : g.dims.Holds l) : g.voxel? l = some (g.voxel l) := by
  have hlt : g.dims.index l < g.voxels.size := by
    rw [g.voxels_size]
    exact Dims.index_lt_volume hl
  simp [voxel, voxel?, hl, hlt]

theorem liquid?_of_holds (hl : g.dims.Holds l) : g.liquid? l = some (g.liquid l) := by
  have hlt : g.dims.index l < g.liquids.size := by
    rw [g.liquids_size]
    exact Dims.index_lt_volume hl
  simp [liquid, liquid?, hl, hlt]

theorem voxel?_setVoxel_self (v : Voxel) (hl : g.dims.Holds l) :
    (g.setVoxel l v).voxel? l = some v := by
  obtain ⟨d, vs, ls, hv, hls⟩ := g
  have hlt : d.index l < vs.size := by
    rw [hv]
    exact Dims.index_lt_volume hl
  simp only at hl
  simp [setVoxel, voxel?, hl, hlt]

theorem voxel?_setVoxel_ne (v : Voxel) (hne : l' ≠ l) :
    (g.setVoxel l v).voxel? l' = g.voxel? l' := by
  by_cases hl : g.dims.Holds l
  · by_cases hl' : g.dims.Holds l'
    · have hplace : g.dims.index l ≠ g.dims.index l' := fun h =>
        hne (Dims.index_injective hl hl' h).symm
      obtain ⟨d, vs, ls, hv, hls⟩ := g
      simp only at hl hl' hplace
      simp [setVoxel, voxel?, hl, hl', Array.getElem?_setIfInBounds_ne hplace]
    · simp only [voxel?, dims_setVoxel, hl', ite_false]
  · simp only [setVoxel, hl, ite_false]

theorem liquid?_setVoxel (v : Voxel) : (g.setVoxel l v).liquid? l' = g.liquid? l' := by
  obtain ⟨d, vs, ls, hv, hls⟩ := g
  unfold setVoxel
  split <;> rfl

theorem liquid?_setLiquid_self (c : LiquidCell) (hl : g.dims.Holds l) :
    (g.setLiquid l c).liquid? l = some c := by
  obtain ⟨d, vs, ls, hv, hls⟩ := g
  have hlt : d.index l < ls.size := by
    rw [hls]
    exact Dims.index_lt_volume hl
  simp only at hl
  simp [setLiquid, liquid?, hl, hlt]

theorem liquid?_setLiquid_ne (c : LiquidCell) (hne : l' ≠ l) :
    (g.setLiquid l c).liquid? l' = g.liquid? l' := by
  by_cases hl : g.dims.Holds l
  · by_cases hl' : g.dims.Holds l'
    · have hplace : g.dims.index l ≠ g.dims.index l' := fun h =>
        hne (Dims.index_injective hl hl' h).symm
      obtain ⟨d, vs, ls, hv, hls⟩ := g
      simp only at hl hl' hplace
      simp [setLiquid, liquid?, hl, hl', Array.getElem?_setIfInBounds_ne hplace]
    · simp only [liquid?, dims_setLiquid, hl', ite_false]
  · simp only [setLiquid, hl, ite_false]

theorem voxel?_setLiquid (c : LiquidCell) : (g.setLiquid l c).voxel? l' = g.voxel? l' := by
  obtain ⟨d, vs, ls, hv, hls⟩ := g
  unfold setLiquid
  split <;> rfl

/-! ### Ramp masks -/

theorem voxel?_withRamps (masks : Array RampMask) : (g.withRamps masks).voxel? l =
    (g.voxel? l).map fun v => { v with ramp := masks[g.dims.index l]?.getD v.ramp } := by
  by_cases hl : g.dims.Holds l <;> simp [voxel?, hl, withRamps]

theorem mem_changedRamps {masks : Array RampMask} {i : Nat} : i ∈ g.changedRamps masks ↔
    ∃ v m, g.voxels[i]? = some v ∧ masks[i]? = some m ∧ v.ramp ≠ m := by
  simp only [changedRamps, List.mem_map, List.mem_filter, decide_eq_true_eq]
  constructor
  · rintro ⟨⟨⟨v, m⟩, j⟩, ⟨hmem, hne⟩, rfl⟩
    have hat := List.mem_zipIdx_iff_getElem?.mp hmem
    rw [List.getElem?_zip_eq_some] at hat
    exact ⟨v, m, by simpa using hat.1, by simpa using hat.2, hne⟩
  · rintro ⟨v, m, hv, hm, hne⟩
    refine ⟨((v, m), i), ⟨List.mem_zipIdx_iff_getElem?.mpr ?_, hne⟩, rfl⟩
    rw [List.getElem?_zip_eq_some]
    exact ⟨by simpa using hv, by simpa using hm⟩

theorem ramp_of_not_changed {masks : Array RampMask} {m : RampMask} (hl : g.dims.Holds l)
    (hm : masks[g.dims.index l]? = some m) (h : g.dims.index l ∉ g.changedRamps masks) :
    (g.voxel l).ramp = m := by
  have hv := voxel?_of_holds hl
  simp only [voxel?, hl, ite_true] at hv
  apply Decidable.byContradiction
  intro hne
  exact h (mem_changedRamps.mpr ⟨_, m, hv, hm, hne⟩)

end Grid

/-! ### Cells of a chunk after a change -/

namespace Chunk

variable {c : Chunk} {l : Local}

theorem grid_setVoxel (c : Chunk) (l : Local) (v : Voxel) :
    ((c.setVoxel? l v).getD c).grid = c.grid.setVoxel l v := by
  unfold setVoxel? Grid.setVoxel?
  split
  · rfl
  · rename_i hl
    exact (if_neg hl).symm

theorem grid_setLiquid (c : Chunk) (l : Local) (x : LiquidCell) :
    ((c.setLiquid? l x).getD c).grid = c.grid.setLiquid l x := by
  unfold setLiquid? Grid.setLiquid?
  split
  · rfl
  · rename_i hl
    exact (if_neg hl).symm

/-- Every voxel gets the mask listed at its place, whether or not one differed from it. -/
theorem voxel?_applyRamps (masks : Array RampMask) : (c.applyRamps masks).2.grid.voxel? l =
    (c.grid.voxel? l).map fun v => { v with ramp := masks[c.grid.dims.index l]?.getD v.ramp } := by
  unfold applyRamps
  dsimp only
  split
  · rename_i hnone
    show c.grid.voxel? l = _
    by_cases hl : c.grid.dims.Holds l
    · rw [Grid.voxel?_of_holds hl, Option.map_some]
      cases hm : masks[c.grid.dims.index l]? with
      | none => rfl
      | some m =>
        have hsame := Grid.ramp_of_not_changed hl hm (by simp [List.isEmpty_iff.mp hnone])
        rw [Option.getD_some, ← hsame]
    · simp only [Grid.voxel?, hl, ite_false, Option.map_none]
  · exact Grid.voxel?_withRamps masks

theorem liquid?_applyRamps (masks : Array RampMask) :
    (c.applyRamps masks).2.grid.liquid? l = c.grid.liquid? l := by
  unfold applyRamps
  dsimp only
  split <;> rfl

/-- A voxel that a ramp pass changed has its place among those reported. -/
theorem mem_changedRamps_of_ne {masks : Array RampMask} (hl : c.grid.dims.Holds l)
    (h : (c.applyRamps masks).2.grid.voxel? l ≠ c.grid.voxel? l) :
    c.grid.dims.index l ∈ c.grid.changedRamps masks := by
  apply Decidable.byContradiction
  intro hnot
  apply h
  rw [voxel?_applyRamps, Grid.voxel?_of_holds hl, Option.map_some]
  cases hm : masks[c.grid.dims.index l]? with
  | none => rfl
  | some m => rw [Option.getD_some, ← Grid.ramp_of_not_changed hl hm hnot]

end Chunk

end VoxelScene
