import VoxelScene.Proofs.LiveMesh
import VoxelScene.Proofs.SlicedMesh

/-!
Where meshing ends in a fault.

A mesher adds up coordinates and depths in machine words. If the 27 chunks around a chunk lie in
the coordinate range, every position that its meshes ask for fits, and so does every depth as long
as the chunk has fewer than 2 ^ 23 cells. One fault is left. The scan of a column below the chunk
steps down once more after the last cell it reads; where that cell is the lowest of the world, the
step leaves the range. Meshing faults in this case and in no other.
-/

namespace VoxelScene

/-! ### Layers and index buffers -/

theorem exists_collectLayers {β : Type} {floor : Int} {limit : Option Int}
    {f : Nat → Checked (List β)} {ys : List Nat} {n : Nat}
    (hfits : ∀ y ∈ ys, Coord.Fits (floor + y))
    (h : ∀ y ∈ ys, ∃ zs, f y = .ok zs ∧ zs.length ≤ n) :
    ∃ zs, collectLayers floor limit f ys = .ok zs ∧ zs.length ≤ n * ys.length := by
  induction ys with
  | nil => exact ⟨[], rfl, Nat.zero_le _⟩
  | cons y ys ih =>
    obtain ⟨rest, hrest, hlen⟩ := ih (fun z hz => hfits z (List.mem_cons_of_mem _ hz))
      fun z hz => h z (List.mem_cons_of_mem _ hz)
    obtain ⟨here, hhere, hle⟩ := h y (List.mem_cons_self ..)
    obtain ⟨above, habove⟩ : ∃ above, isLayerAbove floor limit y = .ok above := by
      cases limit with
      | none => exact ⟨false, rfl⟩
      | some top => exact ⟨_, isLayerAbove_some (hfits y (List.mem_cons_self ..))⟩
    rw [collectLayers, habove, Checked.ok_bind]
    cases above with
    | true => exact ⟨[], rfl, Nat.zero_le _⟩
    | false =>
      rw [hhere, hrest]
      refine ⟨here ++ rest, rfl, ?_⟩
      rw [List.length_append, List.length_cons, Nat.mul_succ]
      omega

namespace Mesh

variable {V F : Type} {m : Mesh V F} {n : Nat}

/-- The mesh was filled with at most `n` quads. -/
def AtMost (m : Mesh V F) (n : Nat) : Prop := ∃ quads, quads.length ≤ n ∧ m = filled quads

/-- The word can count the vertices, and the triangles refer to none but these. -/
def Counted (m : Mesh V F) : Prop :=
  m.vertices.length < Word.depthBound ∧ ∀ i ∈ m.indices, i.toNat < m.vertices.length

theorem AtMost.counted (h : m.AtMost n) (hn : 4 * n < Word.depthBound) : m.Counted := by
  obtain ⟨quads, hle, rfl⟩ := h
  refine ⟨?_, fun i hi => lt_of_mem_indices hi⟩
  rw [length_vertices_filled]
  omega

end Mesh

namespace Dims

variable {d : Dims}

theorem length_layer (d : Dims) (y : Nat) : (d.layer y).length = d.x * d.z :=
  length_flatMap_range (fun z => by rw [List.length_map, List.length_range]) d.z

theorem size_le_volume (d : Dims) : d.y ≤ d.volume ∧ d.x * d.z ≤ d.volume := by
  have hx := d.x_pos
  have hz := d.z_pos
  have hy := d.y_pos
  constructor
  · calc d.y ≤ d.x * d.y := Nat.le_mul_of_pos_left _ hx
      _ ≤ d.x * d.y * d.z := Nat.le_mul_of_pos_right _ hz
  · calc d.x * d.z ≤ d.x * d.z * d.y := Nat.le_mul_of_pos_right _ hy
      _ = d.volume := Nat.mul_right_comm ..

theorem checkedVolume_eq (h : d.volume < Word.storageBound) : d.checkedVolume = .ok d.volume := by
  have hfloor : d.x * d.y < Word.storageBound :=
    Nat.lt_of_le_of_lt (Nat.le_mul_of_pos_right _ d.z_pos) h
  rw [checkedVolume, Word.mul_eq_ok_iff.mpr ⟨hfloor, rfl⟩, Checked.ok_bind]
  exact Word.mul_eq_ok_iff.mpr ⟨h, rfl⟩

theorem checkedIndex_eq (h : d.volume < Word.storageBound) {l : Local} (hl : d.Holds l) :
    d.checkedIndex l = .ok (d.index l) := by
  have hindex := Nat.lt_trans (index_lt_volume hl) h
  have hrow : l.z + d.z * l.y ≤ d.x * (l.z + d.z * l.y) := Nat.le_mul_of_pos_left _ d.x_pos
  unfold index at hindex ⊢
  rw [checkedIndex, Word.mul_eq_ok_iff.mpr ⟨by omega, rfl⟩, Checked.ok_bind,
    Word.add_eq_ok_iff.mpr ⟨by omega, rfl⟩, Checked.ok_bind,
    Word.mul_eq_ok_iff.mpr ⟨by omega, rfl⟩, Checked.ok_bind]
  exact Word.add_eq_ok_iff.mpr ⟨hindex, rfl⟩

end Dims

theorem FaceSet.length_toList_le (s : FaceSet) : s.toList.length ≤ 6 :=
  List.length_filter_le _ Face.all

namespace Pos

variable {p : Pos}

theorem minus_up (hp : p.Fits) (h : Coord.least ≤ p.y - 1) :
    p.minus .up = .ok ⟨p.x, p.y - 1, p.z⟩ := by
  rw [minus_eq_ok_iff]
  unfold Fits Coord.Fits at *
  simp only [up, Int.sub_zero, true_and]
  omega

theorem minus_up_of_least (hp : p.Fits) (h : p.y - 1 < Coord.least) :
    p.minus .up = .error .subOverflow := by
  have hx : Coord.sub p.x 0 = .ok p.x := by
    rw [Coord.sub_eq_ok_iff, Int.sub_zero]
    exact ⟨hp.1, rfl⟩
  have hy : Coord.sub p.y 1 = .error .subOverflow := if_neg fun hfits => by
    have hle := hfits.1
    omega
  rw [minus]
  simp only [up, hx, hy, Checked.ok_bind]
  rfl

end Pos

/-- A level is a byte, so each cell adds at most 255 to a depth. -/
theorem add_level_lt (level : UInt8) {depth n bound : Nat} (h : depth + 255 * (n + 1) < bound) :
    depth + level.toNat + 255 * n < bound := by
  have hlevel : level.toNat < 256 := level.toNat_lt
  omega

/-! ### Questions that are answered -/

namespace Query

/-- Every position that a solid mesh of the box at `origin` asks for fits, and the query has the
voxel there. -/
structure Sees (q : Query) (origin : Pos) (d : Dims) : Prop where
  dims : d.Fits
  fits : ∀ p : Pos, p.Near origin d → p.Fits
  voxel : ∀ p : Pos, p.Near origin d → ∃ v, q.voxelAt p = .ok v

/-- Every position that the meshes of the box at `origin` ask for fits, and the query answers
there. -/
structure Answers (q : Query) (origin : Pos) (d : Dims) : Prop extends q.Sees origin d where
  under : ∀ p : Pos, p.Under origin d → p.Fits
  liquid : ∀ p : Pos, p.Near origin d ∨ p.Under origin d → ∃ c, q.liquidAt p = .ok c

variable {q : Query} {origin : Pos} {d : Dims}

namespace Sees

theorem exists_plus (h : q.Sees origin d) {p s : Pos} (hp : p.Inside origin d) (hs : s.IsUnit) :
    ∃ n, p.plus s = .ok n ∧ n.Near origin d := by
  have hnear : Pos.Near ⟨p.x + s.x, p.y + s.y, p.z + s.z⟩ origin d := by
    unfold Pos.Inside at hp
    unfold Pos.IsUnit at hs
    simp only [Pos.Near]
    omega
  exact ⟨_, Pos.plus_eq_ok_iff.mpr ⟨rfl, h.fits _ hnear⟩, hnear⟩

theorem exists_cell (h : q.Sees origin d) {l : Local} (hl : d.Holds l) :
    ∃ p, origin.plus l.toPos = .ok p ∧ p.Inside origin d := by
  have hnear : Pos.Near ⟨origin.x + l.x, origin.y + l.y, origin.z + l.z⟩ origin d := by
    unfold Dims.Holds at hl
    simp only [Pos.Near]
    omega
  have hp : origin.plus l.toPos = .ok ⟨origin.x + l.x, origin.y + l.y, origin.z + l.z⟩ :=
    Pos.plus_eq_ok_iff.mpr ⟨rfl, h.fits _ hnear⟩
  exact ⟨_, hp, Pos.inside_of_holds hl hp⟩

/-! ### Solid faces -/

theorem exists_isSurrounded (h : q.Sees origin d) {p : Pos} (hp : p.Inside origin d) :
    ∃ b, q.isSurrounded p = .ok b := by
  have haround : ∃ ns, q.around p = .ok ns := by
    have hface (f : Face) : ∃ ns, (do
        let n ← p.plus f.step
        let v ← q.voxelAt n
        return (v.map fun v => (n, v)).toList) = Except.ok ns := by
      obtain ⟨n, hn, hnear⟩ := h.exists_plus hp f.isUnit_step
      obtain ⟨v, hv⟩ := h.voxel n hnear
      rw [hn, Checked.ok_bind, hv]
      exact ⟨_, rfl⟩
    obtain ⟨pieces, hpieces⟩ := Checked.exists_mapM fun f (_ : f ∈ Face.all) => hface f
    exact ⟨pieces.flatten, by rw [around, Checked.collect, hpieces]; rfl⟩
  obtain ⟨ns, hns⟩ := haround
  rw [isSurrounded, hns]
  exact ⟨_, rfl⟩

theorem exists_isFaceVisible (h : q.Sees origin d) {p : Pos} (hp : p.Inside origin d) (v : Voxel)
    (limit : Option Int) (f : Face) : ∃ b, q.isFaceVisible p v limit f = .ok b := by
  obtain ⟨n, hn, hnear⟩ := h.exists_plus hp f.isUnit_step
  obtain ⟨v', hv'⟩ := h.voxel n hnear
  obtain ⟨b, hb⟩ := h.exists_isSurrounded hp
  unfold isFaceVisible
  split
  · exact ⟨true, rfl⟩
  · rw [hn, Checked.ok_bind, hv', Checked.ok_bind]
    cases v' with
    | none =>
      dsimp only
      rw [hb]
      exact ⟨_, rfl⟩
    | some v' => exact ⟨_, rfl⟩

theorem exists_visibleFaces (h : q.Sees origin d) {p : Pos} (hp : p.Inside origin d) (v : Voxel)
    (limit : Option Int) : ∃ s, q.visibleFaces p v limit = .ok s := by
  obtain ⟨fs, hfs⟩ := Checked.exists_select fun f (_ : f ∈ Face.all) =>
    h.exists_isFaceVisible hp v limit f
  unfold visibleFaces
  split
  · exact ⟨.empty, rfl⟩
  · rw [hfs]
    exact ⟨_, rfl⟩

end Sees

/-! ### Liquid faces and corners -/

namespace Answers

theorem exists_isWetAt (h : q.Answers origin d) {p : Pos} (hp : p.Near origin d) :
    ∃ b, q.isWetAt p = .ok b := by
  obtain ⟨c, hc⟩ := h.liquid p (.inl hp)
  rw [isWetAt, hc]
  exact ⟨_, rfl⟩

theorem exists_isWetWithAt (h : q.Answers origin d) {p : Pos} (hp : p.Near origin d)
    (liquid : UInt8) : ∃ b, q.isWetWithAt p liquid = .ok b := by
  obtain ⟨c, hc⟩ := h.liquid p (.inl hp)
  rw [isWetWithAt, hc]
  exact ⟨_, rfl⟩

theorem exists_occludesAt (h : q.Answers origin d) {p : Pos} (hp : p.Near origin d) :
    ∃ b, q.occludesAt p = .ok b := by
  obtain ⟨v, hv⟩ := h.voxel p hp
  rw [occludesAt, hv]
  exact ⟨_, rfl⟩

theorem exists_liquidFaces (h : q.Answers origin d) {p : Pos} (hp : p.Inside origin d)
    (limit : Option Int) : ∃ s, q.liquidFaces p limit = .ok s := by
  have hface (f : Face) : ∃ b, q.isLiquidFaceVisible p limit f = .ok b := by
    obtain ⟨n, hn, hnear⟩ := h.exists_plus hp f.isUnit_step
    obtain ⟨wet, hwet⟩ := h.exists_isWetAt hnear
    obtain ⟨occludes, hoccludes⟩ := h.exists_occludesAt hnear
    rw [isLiquidFaceVisible, hn, Checked.ok_bind, hwet, Checked.ok_bind]
    split
    · exact ⟨_, rfl⟩
    · split
      · exact ⟨false, rfl⟩
      · rw [hoccludes]
        exact ⟨_, rfl⟩
  obtain ⟨fs, hfs⟩ := Checked.exists_select fun f (_ : f ∈ Face.all) => hface f
  rw [liquidFaces, hfs]
  exact ⟨_, rfl⟩

theorem exists_tallyCell (h : q.Answers origin d) {p : Pos} (hp : p.Near origin d)
    (hy : p.y < origin.y + d.y) (liquid : UInt8) (t : CornerTally) :
    ∃ t', q.tallyCell liquid t p = .ok t' := by
  obtain ⟨c, hc⟩ := h.liquid p (.inl hp)
  obtain ⟨occludes, hoccludes⟩ := h.exists_occludesAt hp
  have hnear : Pos.Near ⟨p.x + 0, p.y + 1, p.z + 0⟩ origin d := by
    unfold Pos.Near at hp
    simp only [Pos.Near]
    omega
  have hup : p.plus .up = .ok ⟨p.x + 0, p.y + 1, p.z + 0⟩ :=
    Pos.plus_eq_ok_iff.mpr ⟨rfl, h.fits _ hnear⟩
  obtain ⟨covered, hcovered⟩ := h.exists_isWetWithAt hnear liquid
  rw [tallyCell, hc, Checked.ok_bind]
  cases c with
  | none => exact ⟨_, rfl⟩
  | some c =>
    dsimp only
    split
    · rw [hup, Checked.ok_bind, hcovered]
      exact ⟨_, rfl⟩
    · split
      · exact ⟨_, rfl⟩
      · rw [hoccludes, Checked.ok_bind]
        cases occludes <;> exact ⟨_, rfl⟩

theorem exists_tallyCorners (h : q.Answers origin d) {p : Pos} (hp : p.Inside origin d)
    (level liquid : UInt8) : ∃ ts, q.tallyCorners p level liquid = .ok ts := by
  apply Loop.exists_mapChecked
  intro c
  apply Checked.exists_foldlM
  intro t s hs
  obtain ⟨hunit, hflat⟩ := TopCorner.isUnit_of_mem hs
  obtain ⟨n, hn, hnear⟩ := h.exists_plus hp hunit
  have hy : n.y < origin.y + d.y := by
    have hstep := (Pos.eq_of_plus hn).2.1
    have hin := hp.2.1
    omega
  rw [hn, Checked.ok_bind]
  exact h.exists_tallyCell hnear hy liquid t

end Answers

/-! ### Columns -/

/-- The first `n` cells from `p` downward hold the liquid. -/
def FullDown (q : Query) (liquid : UInt8) (n : Nat) (p : Pos) : Prop :=
  ∀ k < n, ∃ c, q.liquidAt ⟨p.x, p.y - k, p.z⟩ = .ok (some c) ∧ c.isWetWith liquid = true

theorem fullDown_succ {liquid : UInt8} {n : Nat} {p : Pos} : q.FullDown liquid (n + 1) p ↔
    (∃ c, q.liquidAt p = .ok (some c) ∧ c.isWetWith liquid = true) ∧
      q.FullDown liquid n ⟨p.x, p.y - 1, p.z⟩ := by
  have hstep (k : Nat) : p.y - 1 - (k : Int) = p.y - ((k + 1 : Nat) : Int) := by omega
  constructor
  · intro h
    refine ⟨by simpa using h 0 (by omega), fun k hk => ?_⟩
    have hcell := h (k + 1) (by omega)
    rw [← hstep] at hcell
    exact hcell
  · rintro ⟨hcell, h⟩ k hk
    cases k with
    | zero => simpa using hcell
    | succ k =>
      have hnext := h k (by omega)
      simp only [hstep] at hnext
      exact hnext

variable {liquid : UInt8} {scan depth : Nat} {p : Pos} {c : LiquidCell}

/-- A wet cell: its level is added, and the scan steps down. -/
theorem depthBelow_of_wet (hc : q.liquidAt p = .ok (some c)) (hwet : c.isWetWith liquid = true)
    (hsum : depth + 255 * (scan + 1) < Word.depthBound) :
    q.depthBelow liquid (scan + 1) p depth = (do
      q.depthBelow liquid scan (← p.minus .up) (depth + c.level.toNat)) := by
  have hlt : depth + c.level.toNat < Word.depthBound :=
    Nat.lt_of_le_of_lt (Nat.le_add_right ..) (add_level_lt c.level hsum)
  have hadd : Word.addDepth depth c.level.toNat = .ok (depth + c.level.toNat) :=
    Word.addDepth_eq_ok_iff.mpr ⟨hlt, rfl⟩
  rw [depthBelow, hc, Checked.ok_bind]
  simp only [hwet, if_true, hadd, Checked.ok_bind]

namespace Answers

theorem lowest (h : q.Answers origin d) : Coord.least ≤ origin.y - d.y := by
  have hx := d.x_pos
  have hy := d.y_pos
  have hz := d.z_pos
  have hunder : Pos.Under ⟨origin.x, origin.y - d.y, origin.z⟩ origin d := by
    simp only [Pos.Under]
    omega
  exact (h.under _ hunder).2.1.1

/-- A scan ends well if there is room for the step after its last cell, or if it stops before. -/
theorem exists_depthBelow (h : q.Answers origin d)
    (hx : origin.x ≤ p.x ∧ p.x < origin.x + d.x) (hz : origin.z ≤ p.z ∧ p.z < origin.z + d.z)
    (htop : p.y < origin.y) (hlow : origin.y - d.y + scan ≤ p.y + 1)
    (hsum : depth + 255 * scan < Word.depthBound)
    (hroom : Coord.least ≤ p.y - scan ∨ ¬ q.FullDown liquid scan p) :
    ∃ sum, q.depthBelow liquid scan p depth = .ok sum ∧ sum ≤ depth + 255 * scan := by
  induction scan generalizing p depth with
  | zero => exact ⟨depth, rfl, Nat.le_refl _⟩
  | succ scan ih =>
    have hunder : p.Under origin d := ⟨hx, ⟨by omega, htop⟩, hz⟩
    obtain ⟨c, hc⟩ := h.liquid p (.inr hunder)
    cases c with
    | none =>
      rw [depthBelow, hc]
      exact ⟨depth, rfl, by omega⟩
    | some c =>
      cases hwet : c.isWetWith liquid with
      | false =>
        rw [depthBelow, hc, Checked.ok_bind]
        simp only [hwet, Bool.false_eq_true, if_false]
        exact ⟨depth, rfl, by omega⟩
      | true =>
        have hroom' : Coord.least ≤ p.y - 1 - scan ∨
            ¬ q.FullDown liquid scan ⟨p.x, p.y - 1, p.z⟩ := by
          refine hroom.imp (fun hle => by omega) fun hfull hrest => hfull ?_
          exact fullDown_succ.mpr ⟨⟨c, hc, hwet⟩, hrest⟩
        -- If the next step had no room, this would be the last cell, and it is wet.
        have hnext : Coord.least ≤ p.y - 1 := by
          rcases hroom' with hle | hfull
          · omega
          · by_contra hout
            have hlast := h.lowest
            obtain rfl : scan = 0 := by omega
            exact hfull fun k hk => absurd hk (Nat.not_lt_zero k)
        have hlevel : c.level.toNat < 256 := c.level.toNat_lt
        rw [depthBelow_of_wet hc hwet hsum, Pos.minus_up (h.under p hunder) hnext,
          Checked.ok_bind]
        have hrest : ∃ sum, q.depthBelow liquid scan ⟨p.x, p.y - 1, p.z⟩
            (depth + c.level.toNat) = .ok sum ∧ sum ≤ depth + c.level.toNat + 255 * scan := by
          refine ih hx hz ?_ ?_ (add_level_lt c.level hsum) hroom'
          · simp only
            omega
          · simp only
            omega
        obtain ⟨sum, hsum', hle⟩ := hrest
        exact ⟨sum, hsum', by omega⟩

/-- A scan that reads the lowest cell of the world and finds it wet has nowhere to go. -/
theorem depthBelow_of_full (h : q.Answers origin d)
    (hx : origin.x ≤ p.x ∧ p.x < origin.x + d.x) (hz : origin.z ≤ p.z ∧ p.z < origin.z + d.z)
    (htop : p.y < origin.y) (hlow : origin.y - d.y + (scan + 1 : Nat) ≤ p.y + 1)
    (hsum : depth + 255 * (scan + 1) < Word.depthBound)
    (hout : p.y - (scan + 1 : Nat) < Coord.least) (hfull : q.FullDown liquid (scan + 1) p) :
    q.depthBelow liquid (scan + 1) p depth = .error .subOverflow := by
  induction scan generalizing p depth with
  | zero =>
    obtain ⟨⟨c, hc, hwet⟩, -⟩ := fullDown_succ.mp hfull
    have hunder : p.Under origin d := ⟨hx, ⟨by omega, htop⟩, hz⟩
    rw [depthBelow_of_wet hc hwet hsum, Pos.minus_up_of_least (h.under p hunder) (by omega)]
    rfl
  | succ scan ih =>
    obtain ⟨⟨c, hc, hwet⟩, hrest⟩ := fullDown_succ.mp hfull
    have hunder : p.Under origin d := ⟨hx, ⟨by omega, htop⟩, hz⟩
    have hlast := h.lowest
    rw [depthBelow_of_wet hc hwet hsum, Pos.minus_up (h.under p hunder) (by omega),
      Checked.ok_bind]
    refine ih hx hz ?_ ?_ (add_level_lt c.level hsum) ?_ hrest
    all_goals
      simp only
      omega

end Answers

end Query

theorem exists_columnRun {levels : List UInt8} {running : Nat}
    (h : running + 255 * levels.length < Word.depthBound) :
    ∃ depths, columnRun running levels = .ok depths := by
  induction levels generalizing running with
  | nil => exact ⟨[], rfl⟩
  | cons level levels ih =>
    have hnext := add_level_lt level h
    rw [columnRun]
    split
    · obtain ⟨rest, hrest⟩ : ∃ rest, columnRun 0 levels = .ok rest :=
        ih (Nat.lt_of_le_of_lt (Nat.add_le_add_right (Nat.zero_le _) _) hnext)
      exact ⟨0 :: rest, by simp only [pure_bind, hrest]; rfl⟩
    · have hlt := Nat.lt_of_le_of_lt (Nat.le_add_right ..) hnext
      obtain ⟨rest, hrest⟩ := ih hnext
      rw [Word.addDepth_eq_ok_iff.mpr ⟨hlt, rfl⟩, Checked.ok_bind]
      exact ⟨_ :: rest, by simp only [hrest]; rfl⟩

/-- The column at `x`, `z` below the box is full of the liquid, down to the lowest cell of the
world, and it is scanned to the end. -/
def Query.Brims (q : Query) (origin : Pos) (d : Dims) (liquid : UInt8) (maxScan x z : Nat) : Prop :=
  origin.y - d.y = Coord.least ∧ d.y ≤ maxScan ∧
    q.FullDown liquid d.y ⟨origin.x + x, origin.y - 1, origin.z + z⟩

namespace Query.Answers

variable {q : Query} {origin : Pos} {g : Grid} {liquid : UInt8} {maxScan : Nat} {base : Local}

theorem plus_below (h : q.Answers origin g.dims) (hx : base.x < g.dims.x) (hz : base.z < g.dims.z) :
    origin.plus ⟨base.x, -1, base.z⟩ =
      .ok ⟨origin.x + base.x, origin.y - 1, origin.z + base.z⟩ := by
  refine Pos.plus_eq_ok_iff.mpr ⟨rfl, h.fits _ ?_⟩
  simp only [Pos.Near]
  omega

theorem exists_columnOf (h : q.Answers origin g.dims) (hsmall : g.dims.y < 8388608)
    (hx : base.x < g.dims.x) (hz : base.z < g.dims.z)
    (hroom : ¬ q.Brims origin g.dims liquid maxScan base.x base.z) :
    ∃ column, columnOf q origin g liquid (min maxScan g.dims.y) base = .ok column := by
  have hlow := h.lowest
  obtain ⟨seed, hseed, hle⟩ : ∃ seed, q.depthBelow liquid (min maxScan g.dims.y)
      ⟨origin.x + base.x, origin.y - 1, origin.z + base.z⟩ 0 = .ok seed ∧
      seed ≤ 0 + 255 * min maxScan g.dims.y := by
    apply h.exists_depthBelow
    · simp only
      omega
    · simp only
      omega
    · simp only
      omega
    · simp only
      omega
    · unfold Word.depthBound
      omega
    · by_cases hdeep : Coord.least ≤ origin.y - 1 - (min maxScan g.dims.y : Nat)
      · exact .inl hdeep
      · -- The scan goes to the bottom of the chunk below, and that is the lowest cell of all.
        have hall : min maxScan g.dims.y = g.dims.y := by omega
        refine .inr fun hfull => hroom ⟨by omega, by omega, ?_⟩
        rw [hall] at hfull
        exact hfull
  have hrun : ∃ depths, columnRun seed ((List.range g.dims.y).map fun y =>
      let c := g.liquid { base with y := y }
      if c.isWetWith liquid then c.level else 0) = .ok depths := by
    apply exists_columnRun
    rw [List.length_map, List.length_range]
    unfold Word.depthBound
    omega
  obtain ⟨depths, hdepths⟩ := hrun
  rw [columnOf, h.plus_below hx hz, Checked.ok_bind, hseed]
  exact ⟨depths, hdepths⟩

theorem columnOf_of_brims (h : q.Answers origin g.dims) (hsmall : g.dims.y < 8388608)
    (hx : base.x < g.dims.x) (hz : base.z < g.dims.z)
    (hbrims : q.Brims origin g.dims liquid maxScan base.x base.z) :
    columnOf q origin g liquid (min maxScan g.dims.y) base = .error .subOverflow := by
  obtain ⟨hlow, hdeep, hfull⟩ := hbrims
  have hpos := g.dims.y_pos
  obtain ⟨n, hn⟩ : ∃ n, g.dims.y = n + 1 := ⟨g.dims.y - 1, by omega⟩
  have hall : min maxScan g.dims.y = n + 1 := by omega
  rw [hn] at hfull
  have hseed : q.depthBelow liquid (n + 1)
      ⟨origin.x + base.x, origin.y - 1, origin.z + base.z⟩ 0 = .error .subOverflow := by
    apply h.depthBelow_of_full
    · simp only
      omega
    · simp only
      omega
    · simp only
      omega
    · simp only
      omega
    · unfold Word.depthBound
      omega
    · simp only
      omega
    · exact hfull
  rw [columnOf, h.plus_below hx hz, Checked.ok_bind, hall, hseed]
  rfl

end Query.Answers

/-! ### Meshes -/

/-- The meshes that are drawn from, each with buffers of its own. -/
def SolidMesh.parts : SolidMesh → List FaceMesh
  | .whole mesh => [mesh]
  | .sliced slices => slices.flatMap fun s => [s.body, s.cap]

namespace Mesher

variable {q : Query} {a : Address} {origin : Pos} {g : Grid} {l : Local}

theorem length_voxelQuads_le {m : Mesher} {v : Voxel} {faces : FaceSet} {quads : List SolidQuad}
    (h : m.voxelQuads origin l v faces = .ok quads) : quads.length ≤ 6 := by
  unfold voxelQuads at h
  split at h
  · obtain rfl := Checked.pure_eq_ok_iff.mp h
    exact Nat.zero_le _
  · rw [Checked.length_mapM h]
    exact faces.length_toList_le

variable (m : Mesher)

/-- All faces of a cell can be drawn, six quads at most. -/
theorem exists_quads (h : q.Sees origin g.dims) (hl : g.dims.Holds l) (v : Voxel)
    (faces : FaceSet) : ∃ quads, m.voxelQuads origin l v faces = .ok quads ∧ quads.length ≤ 6 := by
  obtain ⟨p, hp, hin⟩ := h.exists_cell hl
  have hsteps (f : Face) : ∃ n, p.plus f.step = .ok n :=
    (h.exists_plus hin f.isUnit_step).imp fun _ hn => hn.1
  obtain ⟨quads, hquads⟩ := exists_voxelQuads (m := m) h.dims hl hp hsteps v faces
  exact ⟨quads, hquads, length_voxelQuads_le hquads⟩

theorem exists_cellQuads (h : q.Sees origin g.dims) (limit : Option Int) (hl : g.dims.Holds l) :
    ∃ quads, m.cellQuads q origin g limit l = .ok quads ∧ quads.length ≤ 6 := by
  obtain ⟨p, hp, hin⟩ := h.exists_cell hl
  obtain ⟨faces, hfaces⟩ := h.exists_visibleFaces hin (g.voxel l) limit
  unfold cellQuads
  dsimp only
  split
  · exact ⟨[], rfl, Nat.zero_le _⟩
  · rw [hp, Checked.ok_bind, hfaces, Checked.ok_bind]
    exact m.exists_quads h hl _ faces

theorem exists_cellSlice (h : q.Sees origin g.dims) (hl : g.dims.Holds l) :
    ∃ part, m.cellSlice q origin g l = .ok part ∧ part.1.length ≤ 6 ∧ part.2.length ≤ 6 := by
  obtain ⟨p, hp, hin⟩ := h.exists_cell hl
  obtain ⟨faces, hfaces⟩ := h.exists_visibleFaces hin (g.voxel l) none
  obtain ⟨body, hbody, hbodyle⟩ := m.exists_quads h hl (g.voxel l) faces
  obtain ⟨cap, hcap, hcaple⟩ := m.exists_quads h hl (g.voxel l) (.ofList [.top])
  unfold cellSlice
  dsimp only
  split
  · exact ⟨([], []), rfl, Nat.zero_le _, Nat.zero_le _⟩
  · rw [hp, Checked.ok_bind, hfaces, Checked.ok_bind, hbody, Checked.ok_bind]
    split
    · exact ⟨(body, []), rfl, hbodyle, Nat.zero_le _⟩
    · rw [hcap]
      exact ⟨(body, cap), rfl, hbodyle, hcaple⟩

theorem exists_liquidQuads (h : q.Answers origin g.dims) (liquid : UInt8) (depths : Array Nat)
    (hl : g.dims.Holds l) :
    ∃ quads, m.liquidQuads q origin g liquid depths l = .ok quads ∧ quads.length ≤ 6 := by
  obtain ⟨p, hp, hin⟩ := h.exists_cell hl
  obtain ⟨faces, hfaces⟩ := h.exists_liquidFaces hin m.settings.viewLimit
  obtain ⟨n, hn, hnear⟩ := h.exists_plus hin (Face.isUnit_step .top)
  obtain ⟨covered, hcovered⟩ := h.exists_isWetWithAt hnear liquid
  obtain ⟨tallies, htallies⟩ := h.exists_tallyCorners hin (g.liquid l).level liquid
  have hup : p.plus .up = .ok n := hn
  unfold liquidQuads
  dsimp only
  split
  · exact ⟨[], rfl, Nat.zero_le _⟩
  · rw [hp, Checked.ok_bind, hfaces, Checked.ok_bind]
    split
    · exact ⟨[], rfl, Nat.zero_le _⟩
    · rw [hup, Checked.ok_bind, hcovered, Checked.ok_bind, htallies]
      refine ⟨_, rfl, ?_⟩
      rw [List.length_map]
      exact faces.length_toList_le

/-- From the cells to the layers: six quads a cell. -/
theorem exists_layer {β : Type} {f : Local → Checked (List β)}
    (h : ∀ l, g.dims.Holds l → ∃ quads, f l = .ok quads ∧ quads.length ≤ 6) {y : Nat}
    (hy : y ∈ List.range g.dims.y) : ∃ quads, Checked.collect f (g.dims.layer y) = .ok quads ∧
      quads.length ≤ 6 * (g.dims.x * g.dims.z) := by
  rw [← g.dims.length_layer y]
  exact Checked.exists_collect fun l hl => h l (Dims.holds_of_mem_layer hy hl)

/-- From the layers to a mesh. -/
theorem exists_layers {β : Type} {f : Local → Checked (List β)} (hq : q.Sees origin g.dims)
    (limit : Option Int)
    (h : ∀ l, g.dims.Holds l → ∃ quads, f l = .ok quads ∧ quads.length ≤ 6) :
    ∃ quads, collectLayers origin.y limit (fun y => Checked.collect f (g.dims.layer y))
        (List.range g.dims.y) = .ok quads ∧ quads.length ≤ 6 * g.dims.volume := by
  have hvolume : 6 * (g.dims.x * g.dims.z) * (List.range g.dims.y).length = 6 * g.dims.volume := by
    rw [List.length_range, Nat.mul_assoc, Dims.volume, Nat.mul_right_comm]
  rw [← hvolume]
  refine exists_collectLayers (fun y hy => ?_) fun y hy => exists_layer h hy
  have hholds : g.dims.Holds ⟨0, y, 0⟩ := ⟨g.dims.x_pos, List.mem_range.mp hy, g.dims.z_pos⟩
  obtain ⟨p, hp, -⟩ := hq.exists_cell hholds
  obtain ⟨rfl, hfits⟩ := Pos.plus_eq_ok_iff.mp hp
  exact hfits.2.1

theorem exists_faceMesh (ho : a.origin g.dims = .ok origin) (h : q.Sees origin g.dims) :
    ∃ mesh, m.faceMesh q a g = .ok mesh ∧ mesh.AtMost (6 * g.dims.volume) := by
  obtain ⟨quads, hquads, hle⟩ :=
    exists_layers (f := m.cellQuads q origin g m.settings.viewLimit) h m.settings.viewLimit
      fun l hl => m.exists_cellQuads h _ hl
  rw [faceMesh, ho, Checked.ok_bind]
  dsimp only
  rw [hquads]
  exact ⟨_, Mesh.ofQuads_eq_ok quads, quads, hle, rfl⟩

theorem exists_slices (ho : a.origin g.dims = .ok origin) (h : q.Sees origin g.dims) :
    ∃ slices, m.slices q a g = .ok slices ∧ ∀ s ∈ slices,
      s.body.AtMost (6 * g.dims.volume) ∧ s.cap.AtMost (6 * g.dims.volume) := by
  have hslice {y : Nat} (hy : y ∈ List.range g.dims.y) : ∃ s, m.layerSlice q origin g y = .ok s ∧
      s.body.AtMost (6 * g.dims.volume) ∧ s.cap.AtMost (6 * g.dims.volume) := by
    have hcell (l : Local) (hl : l ∈ g.dims.layer y) :=
      m.exists_cellSlice h (Dims.holds_of_mem_layer hy hl)
    obtain ⟨parts, hparts⟩ := Checked.exists_mapM fun l hl => (hcell l hl).imp fun _ hs => hs.1
    have hle : ∀ part ∈ parts, part.1.length ≤ 6 ∧ part.2.length ≤ 6 := by
      intro part hpart
      obtain ⟨l, hl, heq⟩ := Checked.mem_of_mapM hparts hpart
      obtain ⟨part', hpart', hle⟩ := hcell l hl
      obtain rfl := Except.ok.inj (heq.symm.trans hpart')
      exact hle
    have hlen : 6 * parts.length ≤ 6 * g.dims.volume := by
      rw [Checked.length_mapM hparts, g.dims.length_layer]
      exact Nat.mul_le_mul_left 6 g.dims.size_le_volume.2
    have hflat (part : List SolidQuad × List SolidQuad → List SolidQuad)
        (hpart : ∀ x ∈ parts, (part x).length ≤ 6) :
        (parts.flatMap part).length ≤ 6 * g.dims.volume := by
      refine Nat.le_trans ?_ hlen
      rw [List.flatMap_def, ← List.length_map (f := part)]
      exact Checked.length_flatten_le fun piece hpiece => by
        obtain ⟨x, hx, rfl⟩ := List.mem_map.mp hpiece
        exact hpart x hx
    rw [layerSlice_eq, hparts]
    exact ⟨_, rfl, ⟨_, hflat _ fun x hx => (hle x hx).1, rfl⟩,
      ⟨_, hflat _ fun x hx => (hle x hx).2, rfl⟩⟩
  obtain ⟨slices, hslices⟩ := Checked.exists_mapM fun y hy => (hslice hy).imp fun _ hs => hs.1
  rw [slices_eq, ho, Checked.ok_bind]
  refine ⟨slices, hslices, fun s hs => ?_⟩
  obtain ⟨y, hy, heq⟩ := Checked.mem_of_mapM hslices hs
  obtain ⟨s', hs', hle⟩ := hslice hy
  obtain rfl := Except.ok.inj (heq.symm.trans hs')
  exact hle

theorem exists_solidMesh (ho : a.origin g.dims = .ok origin) (h : q.Sees origin g.dims) :
    ∃ mesh, m.solidMesh q a g = .ok mesh ∧
      ∀ part ∈ mesh.parts, part.AtMost (6 * g.dims.volume) := by
  unfold solidMesh
  split
  · obtain ⟨mesh, hmesh, hle⟩ := m.exists_faceMesh ho h
    rw [hmesh]
    refine ⟨.whole mesh, rfl, fun part hpart => ?_⟩
    obtain rfl := List.mem_singleton.mp hpart
    exact hle
  · obtain ⟨slices, hslices, hle⟩ := m.exists_slices ho h
    rw [hslices]
    refine ⟨.sliced slices, rfl, fun part hpart => ?_⟩
    obtain ⟨s, hs, hpart⟩ := List.mem_flatMap.mp hpart
    rcases List.mem_pair.mp hpart with rfl | rfl
    · exact (hle s hs).1
    · exact (hle s hs).2

/-! ### Liquids -/

/-- A column below the box that is scanned to the end brims with the liquid. -/
def Overflows (m : Mesher) (q : Query) (origin : Pos) (d : Dims) (liquid : UInt8) : Prop :=
  ∃ x < d.x, ∃ z < d.z, q.Brims origin d liquid m.settings.maxColumnScan x z

variable {liquid : UInt8}

theorem columnDepths_eq_foldlM (ho : a.origin g.dims = .ok origin)
    (hsize : g.dims.y < Word.depthBound) (maxScan : Nat) :
    columnDepths q a g liquid maxScan = (g.dims.layer 0).foldlM (fun depths base => do
      return writeUpward g.dims base depths
        (← columnOf q origin g liquid (min maxScan g.dims.y) base))
      (.replicate g.dims.volume 0) := by
  rw [columnDepths, ho, Checked.ok_bind, Nat.mod_eq_of_lt hsize]

theorem exists_columnDepths {maxScan : Nat} (ho : a.origin g.dims = .ok origin)
    (hsize : g.dims.y < Word.depthBound)
    (h : ∀ base ∈ g.dims.layer 0, ∃ column,
      columnOf q origin g liquid (min maxScan g.dims.y) base = .ok column) :
    ∃ depths, columnDepths q a g liquid maxScan = .ok depths := by
  rw [columnDepths_eq_foldlM ho hsize]
  refine Checked.exists_foldlM (fun depths base hbase => ?_) _
  obtain ⟨column, hcolumn⟩ := h base hbase
  rw [hcolumn]
  exact ⟨_, rfl⟩

theorem exists_liquidMesh (ho : a.origin g.dims = .ok origin) (h : q.Answers origin g.dims)
    (hsmall : g.dims.y < 8388608) (hroom : ¬ m.Overflows q origin g.dims liquid) :
    ∃ mesh, m.liquidMesh q a g liquid = .ok mesh ∧ mesh.mesh.AtMost (6 * g.dims.volume) := by
  have hsize : g.dims.y < Word.depthBound := Nat.lt_trans hsmall (by decide)
  have hcolumn (base : Local) (hbase : base ∈ g.dims.layer 0) : ∃ column,
      columnOf q origin g liquid (min m.settings.maxColumnScan g.dims.y) base = .ok column := by
    obtain ⟨hx, hz, -⟩ := Dims.mem_layer.mp hbase
    exact h.exists_columnOf hsmall hx hz fun hbrims => hroom ⟨base.x, hx, base.z, hz, hbrims⟩
  obtain ⟨depths, hdepths⟩ := exists_columnDepths ho hsize hcolumn
  obtain ⟨quads, hquads, hle⟩ :=
    exists_layers (f := m.liquidQuads q origin g liquid depths) h.toSees
      m.settings.viewLimit fun l hl => m.exists_liquidQuads h liquid _ hl
  rw [liquidMesh, ho, Checked.ok_bind, hdepths, Checked.ok_bind, hquads, Checked.ok_bind,
    Mesh.ofQuads_eq_ok]
  exact ⟨⟨liquid, .filled quads⟩, rfl, quads, hle, rfl⟩

theorem liquidMesh_of_overflows (ho : a.origin g.dims = .ok origin) (h : q.Answers origin g.dims)
    (hsmall : g.dims.y < 8388608) (hout : m.Overflows q origin g.dims liquid) :
    m.liquidMesh q a g liquid = .error .subOverflow := by
  have hsize : g.dims.y < Word.depthBound := Nat.lt_trans hsmall (by decide)
  have hfault : columnDepths q a g liquid m.settings.maxColumnScan = .error .subOverflow := by
    rw [columnDepths_eq_foldlM ho hsize]
    refine Checked.foldlM_eq_error (fun depths base hbase => ?_) ?_ _
    · obtain ⟨hx, hz, -⟩ := Dims.mem_layer.mp hbase
      by_cases hbrims : q.Brims origin g.dims liquid m.settings.maxColumnScan base.x base.z
      · rw [h.columnOf_of_brims hsmall hx hz hbrims]
        exact .inr rfl
      · obtain ⟨column, hcolumn⟩ := h.exists_columnOf hsmall hx hz hbrims
        rw [hcolumn]
        exact .inl ⟨_, rfl⟩
    · obtain ⟨x, hx, z, hz, hbrims⟩ := hout
      refine ⟨⟨x, 0, z⟩, Dims.mem_layer.mpr ⟨hx, hz, rfl⟩, fun depths => ?_⟩
      rw [h.columnOf_of_brims hsmall hx hz hbrims]
      rfl
  rw [liquidMesh, ho, Checked.ok_bind, hfault]
  rfl

theorem exists_meshSet (ho : a.origin g.dims = .ok origin) (h : q.Answers origin g.dims)
    (hsmall : g.dims.y < 8388608)
    (hroom : ∀ liquid ∈ g.liquidTypes, ¬ m.Overflows q origin g.dims liquid) :
    ∃ r, m.meshSet q a g = .ok r ∧ (∀ part ∈ r.solid.parts, part.AtMost (6 * g.dims.volume)) ∧
      ∀ l ∈ r.liquids, l.mesh.AtMost (6 * g.dims.volume) := by
  obtain ⟨solid, hsolid, hsolidle⟩ := m.exists_solidMesh ho h.toSees
  have hliquid (liquid : UInt8) (hmem : liquid ∈ g.liquidTypes) :=
    m.exists_liquidMesh ho h hsmall (hroom liquid hmem)
  obtain ⟨meshes, hmeshes⟩ := Checked.exists_mapM fun x hx => (hliquid x hx).imp fun _ hs => hs.1
  rw [meshSet, hsolid, Checked.ok_bind, liquidMeshes, hmeshes]
  refine ⟨⟨solid, meshes.filter fun l => !l.mesh.isEmpty⟩, rfl, hsolidle, fun l hl => ?_⟩
  obtain ⟨liquid, hmem, heq⟩ := Checked.mem_of_mapM hmeshes (List.mem_of_mem_filter hl)
  obtain ⟨l', hl', hle⟩ := hliquid liquid hmem
  obtain rfl := Except.ok.inj (heq.symm.trans hl')
  exact hle

theorem liquidMeshes_of_overflows (ho : a.origin g.dims = .ok origin)
    (h : q.Answers origin g.dims) (hsmall : g.dims.y < 8388608)
    (hout : ∃ liquid ∈ g.liquidTypes, m.Overflows q origin g.dims liquid) :
    m.liquidMeshes q a g = .error .subOverflow := by
  have hfault : g.liquidTypes.mapM (m.liquidMesh q a g) = .error .subOverflow := by
    apply Checked.mapM_eq_error
    · intro liquid _
      by_cases hover : m.Overflows q origin g.dims liquid
      · exact .inr (m.liquidMesh_of_overflows ho h hsmall hover)
      · exact .inl ((m.exists_liquidMesh ho h hsmall hover).imp fun _ hs => hs.1)
    · obtain ⟨liquid, hmem, hover⟩ := hout
      exact ⟨liquid, hmem, m.liquidMesh_of_overflows ho h hsmall hover⟩
  rw [liquidMeshes, hfault]
  rfl

theorem meshSet_of_overflows (ho : a.origin g.dims = .ok origin) (h : q.Answers origin g.dims)
    (hsmall : g.dims.y < 8388608)
    (hout : ∃ liquid ∈ g.liquidTypes, m.Overflows q origin g.dims liquid) :
    m.meshSet q a g = .error .subOverflow := by
  obtain ⟨solid, hsolid, -⟩ := m.exists_solidMesh ho h.toSees
  rw [meshSet, hsolid, Checked.ok_bind, m.liquidMeshes_of_overflows ho h hsmall hout]
  rfl

end Mesher

/-! ### Snapshots -/

theorem Address.BlockFits.exists_origin {a : Address} {d : Dims} (h : a.BlockFits d) :
    ∃ origin, a.origin d = .ok origin := by
  have hcell := (h a (.inl rfl)).2 ⟨0, 0, 0⟩ ⟨d.x_pos, d.y_pos, d.z_pos⟩
  rw [origin, Dims.extent_of_fits h.dims_fits]
  refine ⟨_, Pos.times_eq_ok_iff.mpr ⟨rfl, ?_⟩⟩
  simpa using hcell

namespace Snapshot

variable {s : Snapshot} {origin p : Pos}

/-- The liquid of a cell of the chunk below the centre. -/
def below? (s : Snapshot) (l : Local) : Option LiquidCell :=
  ((slot? 0 (-1) 0).bind s.grid?).bind fun g => g.liquid? l

theorem locate_of_blockFits (h : s.address.BlockFits s.dims)
    (ho : s.address.origin s.dims = .ok origin)
    (hp : p.Near origin s.dims ∨ p.Under origin s.dims) : s.locate p = .ok (do
      let i ← slot? ((p.x - origin.x) / s.dims.x) ((p.y - origin.y) / s.dims.y)
        ((p.z - origin.z) / s.dims.z)
      let g ← s.grid? i
      return (g, ⟨((p.x - origin.x) % s.dims.x).toNat, ((p.y - origin.y) % s.dims.y).toNat,
        ((p.z - origin.z) % s.dims.z).toNat⟩)) := by
  obtain ⟨-, rel, hrel⟩ := h.reach ho hp
  obtain ⟨rfl, hfits⟩ := Pos.minus_eq_ok_iff.mp hrel
  rw [locate, ho, Checked.ok_bind, hrel, Checked.ok_bind, Dims.extent_of_fits h.dims_fits,
    Pos.quotRem_of_fits hfits]
  rfl

theorem answers_of_blockFits (h : s.address.BlockFits s.dims)
    (ho : s.address.origin s.dims = .ok origin) : s.query.Answers origin s.dims := by
  refine ⟨⟨h.dims_fits, fun p hp => (h.reach ho (.inl hp)).1, fun p hp => ?_⟩,
    fun p hp => (h.reach ho (.inr hp)).1, fun p hp => ?_⟩
  · show ∃ v, s.voxelAt p = .ok v
    rw [voxelAt, locate_of_blockFits h ho (.inl hp)]
    exact ⟨_, rfl⟩
  · show ∃ c, s.liquidAt p = .ok c
    rw [liquidAt, locate_of_blockFits h ho hp]
    exact ⟨_, rfl⟩

theorem liquidAt_below (h : s.address.BlockFits s.dims) (ho : s.address.origin s.dims = .ok origin)
    {x y z : Nat} (hx : x < s.dims.x) (hy : y < s.dims.y) (hz : z < s.dims.z) :
    s.query.liquidAt ⟨origin.x + x, origin.y - s.dims.y + y, origin.z + z⟩ =
      .ok (s.below? ⟨x, y, z⟩) := by
  have hunder : Pos.Under ⟨origin.x + x, origin.y - s.dims.y + y, origin.z + z⟩ origin
      s.dims := by
    simp only [Pos.Under]
    omega
  obtain ⟨hqx, hqy, hqz⟩ := Dims.quot_of_under hunder
  have side (o : Int) {n size : Nat} (hn : n < size) : (o + n - o) % size = n := by
    have hdiff : o + n - o = n := by omega
    rw [hdiff]
    exact Int.emod_eq_of_lt (by omega) (by omega)
  have hrem : (origin.y - s.dims.y + y - origin.y) % s.dims.y = y := by
    have hdiff : origin.y - s.dims.y + y - origin.y = y - s.dims.y := by omega
    rw [hdiff, Int.sub_emod_right]
    exact Int.emod_eq_of_lt (by omega) (by omega)
  show s.liquidAt _ = _
  rw [liquidAt, locate_of_blockFits h ho (.inr hunder), Checked.ok_bind]
  simp only [hqx, hqy, hqz, side _ hx, hrem, side _ hz, Int.toNat_natCast, below?]
  cases slot? 0 (-1) 0 with
  | none => rfl
  | some i =>
    simp only [Option.bind_eq_bind, Option.bind_some]
    cases s.grid? i <;> rfl

/-- The cells of a column are scanned from the top, and they are counted from the bottom. -/
theorem fullDown_iff (h : s.address.BlockFits s.dims) (ho : s.address.origin s.dims = .ok origin)
    {liquid : UInt8} {x z : Nat} (hx : x < s.dims.x) (hz : z < s.dims.z) :
    s.query.FullDown liquid s.dims.y ⟨origin.x + x, origin.y - 1, origin.z + z⟩ ↔
      ∀ y < s.dims.y, (s.below? ⟨x, y, z⟩).any (·.isWetWith liquid) = true := by
  have hwet {k y : Nat} (hk : k + y + 1 = s.dims.y) :
      (∃ c, s.query.liquidAt ⟨origin.x + x, origin.y - 1 - k, origin.z + z⟩ = .ok (some c) ∧
        c.isWetWith liquid = true) ↔
      (s.below? ⟨x, y, z⟩).any (·.isWetWith liquid) = true := by
    have hcell := liquidAt_below h ho hx (show y < s.dims.y by omega) hz
    have hsum : origin.y - 1 - k = origin.y - s.dims.y + y := by omega
    rw [hsum, hcell, Option.any_eq_true]
    simp only [Except.ok.injEq]
  constructor
  · intro hall y hy
    obtain ⟨k, hk⟩ : ∃ k, k + y + 1 = s.dims.y := ⟨s.dims.y - 1 - y, by omega⟩
    exact (hwet hk).mp (hall k (by omega))
  · intro hall k hk
    obtain ⟨y, hy⟩ : ∃ y, k + y + 1 = s.dims.y := ⟨s.dims.y - 1 - k, by omega⟩
    exact (hwet hy).mpr (hall y (by omega))

/-- Below the centre, a column is full of a liquid that the centre holds too; its lowest cell is the
lowest of the world, and the scan goes that far. -/
structure Brims (s : Snapshot) (maxScan : Nat) : Prop where
  lowest : s.address.y * s.dims.y - s.dims.y = Coord.least
  scanned : s.dims.y ≤ maxScan
  full : ∃ liquid ∈ s.center.liquidTypes, ∃ x < s.dims.x, ∃ z < s.dims.z, ∀ y < s.dims.y,
    (s.below? ⟨x, y, z⟩).any (·.isWetWith liquid) = true

theorem brims_iff (h : s.address.BlockFits s.dims) (ho : s.address.origin s.dims = .ok origin)
    (m : Mesher) : s.Brims m.settings.maxColumnScan ↔
      ∃ liquid ∈ s.center.liquidTypes, m.Overflows s.query origin s.dims liquid := by
  have hy : origin.y = s.address.y * s.dims.y := by rw [Dims.eq_of_origin h.dims_fits ho]
  constructor
  · rintro ⟨hlowest, hscanned, liquid, hmem, x, hx, z, hz, hall⟩
    exact ⟨liquid, hmem, x, hx, z, hz, by rw [hy]; exact hlowest, hscanned,
      (fullDown_iff h ho hx hz).mpr hall⟩
  · rintro ⟨liquid, hmem, x, hx, z, hz, hlowest, hscanned, hall⟩
    exact ⟨by rw [← hy]; exact hlowest, hscanned, liquid, hmem, x, hx, z, hz,
      (fullDown_iff h ho hx hz).mp hall⟩

end Snapshot

/-- Meshing a chunk of fewer than 2 ^ 23 cells, whose block of 27 chunks has addresses and cells
that fit, comes to an end exactly if no column below it brims; else the scan of that column leaves
the coordinate range. All other sums and products fit their words: cells have places in storage, and
the vertices of every mesh can be counted. -/
theorem Mesher.build_ok_iff_not_brims (m : Mesher) {s : Snapshot} (hsmall : s.dims.volume < 8388608)
    (hfits : s.address.BlockFits s.dims) :
    ((∃ r, m.build s = .ok r) ↔ ¬ s.Brims m.settings.maxColumnScan) ∧
    (s.Brims m.settings.maxColumnScan → m.build s = .error .subOverflow) ∧
    (∀ r, m.build s = .ok r →
      (∀ part ∈ r.solid.parts, part.Counted) ∧ ∀ l ∈ r.liquids, l.mesh.Counted) ∧
    s.dims.checkedVolume = .ok s.dims.volume ∧
    ∀ l, s.dims.Holds l → s.dims.checkedIndex l = .ok (s.dims.index l) := by
  obtain ⟨origin, ho⟩ := hfits.exists_origin
  have hanswers := Snapshot.answers_of_blockFits hfits ho
  have hheight : s.dims.y < 8388608 := Nat.lt_of_le_of_lt s.dims.size_le_volume.1 hsmall
  have hstorage : s.dims.volume < Word.storageBound := by
    unfold Word.storageBound
    omega
  have hfault (hbrims : s.Brims m.settings.maxColumnScan) : m.build s = .error .subOverflow :=
    m.meshSet_of_overflows ho hanswers hheight ((Snapshot.brims_iff hfits ho m).mp hbrims)
  have hok (hroom : ¬ s.Brims m.settings.maxColumnScan) : ∃ r, m.build s = .ok r ∧
      (∀ part ∈ r.solid.parts, part.AtMost (6 * s.dims.volume)) ∧
      ∀ l ∈ r.liquids, l.mesh.AtMost (6 * s.dims.volume) :=
    m.exists_meshSet ho hanswers hheight fun liquid hmem hover =>
      hroom ((Snapshot.brims_iff hfits ho m).mpr ⟨liquid, hmem, hover⟩)
  have hcount {V F : Type} {mesh : Mesh V F} (hle : mesh.AtMost (6 * s.dims.volume)) :
      mesh.Counted := by
    refine hle.counted ?_
    unfold Word.depthBound
    omega
  refine ⟨⟨?_, fun hroom => (hok hroom).imp fun _ hr => hr.1⟩, hfault, fun r hr => ?_,
    Dims.checkedVolume_eq hstorage, fun l hl => Dims.checkedIndex_eq hstorage hl⟩
  · rintro ⟨r, hr⟩ hbrims
    rw [hfault hbrims] at hr
    cases hr
  · have hroom : ¬ s.Brims m.settings.maxColumnScan := fun hbrims => by
      rw [hfault hbrims] at hr
      cases hr
    obtain ⟨r', hr', hsolid, hliquids⟩ := hok hroom
    obtain rfl := Except.ok.inj (hr.symm.trans hr')
    exact ⟨fun part hpart => hcount (hsolid part hpart), fun l hl => hcount (hliquids l hl)⟩

/-- Two chunks of two cells each, one above the other: the lower cell of the upper chunk is full of
a liquid, and so is the whole chunk below. -/
def well (y : Int) : Snapshot :=
  let g := Grid.blank (.ofSizes 1 2 1)
  let full := LiquidCell.still 1 255
  (Snapshot.ofCenter ⟨0, y, 0⟩ (g.setLiquid ⟨0, 0, 0⟩ full)).withNeighbor 0 (-1) 0
    (g.fillLiquid ⟨0, 0, 0⟩ ⟨0, 1, 0⟩ full)

theorem blockFits_well {y : Int} (hlow : -1073741823 ≤ y) (hhigh : y ≤ 0) :
    (well y).address.BlockFits (well y).dims := by
  have hsize : (well y).dims.x = 1 ∧ (well y).dims.y = 2 ∧ (well y).dims.z = 1 := ⟨rfl, rfl, rfl⟩
  obtain ⟨hsx, hsy, hsz⟩ := hsize
  rintro ⟨bx, b, bz⟩ hb
  have haddress : (well y).address = ⟨0, y, 0⟩ := rfl
  rw [haddress] at hb
  have hnear : (-1 ≤ bx ∧ bx ≤ 1) ∧ (y - 1 ≤ b ∧ b ≤ y + 1) ∧ (-1 ≤ bz ∧ bz ≤ 1) := by
    rcases hb with hb | ⟨-, hx, hy, hz⟩
    · simp only [Address.mk.injEq] at hb
      omega
    · simp only at hx hy hz
      omega
  refine ⟨?_, fun l hl => ?_⟩
  · simp only [Coord.Fits, Coord.least, Coord.greatest]
    omega
  · unfold Dims.Holds at hl
    simp only [Pos.Fits, Coord.Fits, Coord.least, Coord.greatest]
    rw [hsx, hsy, hsz] at hl ⊢
    omega

/-- One chunk above the lowest, the scan has room for its last step. -/
theorem Mesher.build_ok_iff_not_brims_well :
    (well (-1073741822)).dims.volume < 8388608 ∧
    (well (-1073741822)).address.BlockFits (well (-1073741822)).dims ∧
    ∀ m : Mesher, ∃ r, m.build (well (-1073741822)) = .ok r := by
  have hsmall : (well (-1073741822)).dims.volume < 8388608 := by decide
  have hfits := blockFits_well (y := -1073741822) (by decide) (by decide)
  refine ⟨hsmall, hfits, fun m => ?_⟩
  obtain ⟨hiff, -⟩ := m.build_ok_iff_not_brims hsmall hfits
  exact hiff.mpr fun hbrims => absurd hbrims.lowest (by decide)

/-- One chunk lower all 27 chunks still lie in the coordinate range, but the scan leaves it. -/
theorem Mesher.build_faults_at_lowest_well :
    (well (-1073741823)).dims.volume < 8388608 ∧
    (well (-1073741823)).address.BlockFits (well (-1073741823)).dims ∧
    (Mesher.ofSettings Noise.still .empty .empty {}).build (well (-1073741823)) =
      .error .subOverflow := by
  refine ⟨by decide, blockFits_well (by decide) (by decide), ?_⟩
  rfl

end VoxelScene
