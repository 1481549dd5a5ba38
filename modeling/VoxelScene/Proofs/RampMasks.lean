import VoxelScene.Proofs.StoreSteps
import VoxelScene.Proofs.Version

/-!
Stored ramp masks.

A mask depends on which cells around a voxel occlude, and on no other mask. Whatever changes that
for a voxel of a chunk marks the chunk, so a chunk without the mark stores the masks that its
voxels should have. A pass over the marked chunks resolves each of them once and marks none anew.
-/

namespace VoxelScene

/-! ### What a mask depends on -/

namespace Query

variable {q r : Query} {types : VoxelCatalogue} {p : Pos} {v v' : Voxel}

/-- Both queries find a cell around `p`, or none, and the two cells occlude alike. -/
def SameShape (q r : Query) (p : Pos) : Prop :=
  ∀ s n, s.IsUnit → p.plus s = .ok n → ∃ x y, q.voxelAt n = .ok x ∧ r.voxelAt n = .ok y ∧
    x.map Voxel.occludes = y.map Voxel.occludes

theorem isOpenAt_congr (h : q.SameShape r p) {s : Pos} (hs : s.IsUnit) :
    (do q.isOpenAt (← p.plus s)) = (do r.isOpenAt (← p.plus s)) := by
  apply Checked.bind_congr_of_ok
  intro n hn
  obtain ⟨x, y, hx, hy, hxy⟩ := h s n hs hn
  have hopen (z : Option Voxel) :
      (z.any fun v => !v.occludes) = (z.map Voxel.occludes).any not := by
    cases z <;> rfl
  rw [isOpenAt, isOpenAt, hx, hy, Checked.ok_bind, Checked.ok_bind, hopen, hopen, hxy]

theorem isSlopable_congr (h : q.SameShape r p) (hkind : v'.kind = v.kind)
    (hocc : v'.occludes = v.occludes) : q.isSlopable types p v' = r.isSlopable types p v := by
  unfold isSlopable
  rw [hkind, hocc]
  split
  · rfl
  · apply Checked.bind_congr_of_ok
    intro n hn
    obtain ⟨x, y, hx, hy, hxy⟩ := h .up n (by simp [Pos.IsUnit, Pos.up]) hn
    have hopen (z : Option Voxel) :
        (z.all fun v => !v.occludes) = (z.map Voxel.occludes).all not := by
      cases z <;> rfl
    rw [hx, hy, Checked.ok_bind, Checked.ok_bind, hopen, hopen, hxy]

theorem openCorners_congr (h : q.SameShape r p) : q.openCorners p = r.openCorners p := by
  apply Checked.bind_congr_left
  apply Checked.select_congr
  intro c _
  apply Checked.any_congr
  intro s hs
  exact isOpenAt_congr h (TopCorner.isUnit_of_mem hs).1

theorem rampAt_congr (h : q.SameShape r p) (hkind : v'.kind = v.kind)
    (hocc : v'.occludes = v.occludes) : q.rampAt types p v' = r.rampAt types p v := by
  rw [rampAt, rampAt, isSlopable_congr h hkind hocc, openCorners_congr h]

end Query

namespace World

variable {types : VoxelCatalogue} {w w' : World} {a b : Address} {l : Local} {v v' : Voxel}

/-- The mask that a voxel at this cell should have. -/
def rampFor (types : VoxelCatalogue) (w : World) (a : Address) (l : Local) (v : Voxel) :
    Checked RampMask := do
  let origin ← a.origin w.dims
  w.query.rampAt types (← origin.plus l.toPos) v

/-- The same cells are present around the chunk at `a` in both worlds, and they occlude alike. -/
def SameShape (w w' : World) (a : Address) : Prop :=
  ∀ b l, w.dims.Holds l → Address.IsReader w.dims b l a →
    (w'.voxel? b l).map Voxel.occludes = (w.voxel? b l).map Voxel.occludes

theorem rampFor_congr (h : w.SameShape w' a) (hd : w.dims.Fits) (hdims : w'.dims = w.dims)
    (hw : w.Uniform) (hw' : w'.Uniform) (hl : w.dims.Holds l) (hkind : v'.kind = v.kind)
    (hocc : v'.occludes = v.occludes) : w'.rampFor types a l v' = w.rampFor types a l v := by
  unfold rampFor
  rw [hdims]
  apply Checked.bind_congr_of_ok
  intro origin ho
  apply Checked.bind_congr_of_ok
  intro p hp
  refine Query.rampAt_congr (fun s n hs hn => ?_) hkind hocc
  have hn' : n.Near origin w.dims := (Pos.inside_of_holds hl hp).near_plus hs hn
  have hfits : n.Fits := (Pos.plus_eq_ok_iff.mp hn).2
  refine ⟨_, _, voxelAt_of_fits hw' (hdims ▸ hd) hfits, voxelAt_of_fits hw hd hfits, ?_⟩
  rw [hdims]
  exact h _ _ (w.dims.holds_cellAt n) (Dims.isReader_cellAt hd ho hn')

/-- Every chunk without the ramp mark stores the masks that its voxels should have, and every
chunk with it asks for a mesh too. -/
structure RampsKept (types : VoxelCatalogue) (w : World) : Prop where
  exact : ∀ a c, w.chunk? a = some c → c.isDirty rampDirty = false → ∀ l, w.dims.Holds l →
    w.rampFor types a l (c.grid.voxel l) = .ok (c.grid.voxel l).ramp
  marked : ∀ a c, w.chunk? a = some c → c.isDirty rampDirty = true → c.isDirty meshDirty = true

/-! ### One step -/

theorem rampFor_applyRamps {c : Chunk} {origin : Pos} {masks : List RampMask} (hd : w.dims.Fits)
    (hw : w.Uniform) (hc : w.chunk? a = some c) (ho : a.origin w.dims = .ok origin)
    (hmasks : w.query.rampsOf types origin c.grid = .ok masks) (hl : w.dims.Holds l) :
    w.rampFor types a l ((c.applyRamps masks.toArray).2.grid.voxel l) =
      .ok ((c.applyRamps masks.toArray).2.grid.voxel l).ramp := by
  have hlc : c.grid.dims.Holds l := hw a c hc ▸ hl
  obtain ⟨m, hm, hramp⟩ := Checked.getElem?_mapM hmasks (Dims.getElem?_cells hlc)
  have hvoxel : (c.applyRamps masks.toArray).2.grid.voxel l =
      { c.grid.voxel l with ramp := m } := by
    rw [Grid.voxel, Chunk.voxel?_applyRamps, Grid.voxel?_of_holds hlc]
    simp [hm]
  have hsame : w.rampFor types a l { c.grid.voxel l with ramp := m } =
      w.rampFor types a l (c.grid.voxel l) :=
    rampFor_congr (fun _ _ _ _ => rfl) hd rfl hw hw hl rfl rfl
  rw [hvoxel, hsame, rampFor, ho, Checked.ok_bind]
  exact hramp

namespace Changes

variable {own : Option Chunk} {touched invalidated : List Address}

/-- A change at one chunk keeps the stored masks right if every other chunk that reads a cell
which came to occlude, or no longer does, is touched. -/
theorem rampsKept (h : Changes w w' b own touched invalidated) (hd : w.dims.Fits) (hw : w.Uniform)
    (hw' : w'.Uniform) (hr : w.RampsKept types)
    (hmarked : ∀ c₁, own = some c₁ → c₁.isDirty rampDirty = true → c₁.isDirty meshDirty = true)
    (hown : ∀ c₁, own = some c₁ → c₁.isDirty rampDirty = false → ∀ l, w.dims.Holds l →
      w.rampFor types b l (c₁.grid.voxel l) = .ok (c₁.grid.voxel l).ramp ∧
        (w'.voxel? b l).map Voxel.occludes = (w.voxel? b l).map Voxel.occludes)
    (hother : ∀ l a, w.dims.Holds l → Address.IsReader w.dims b l a → a ≠ b →
      (w'.voxel? b l).map Voxel.occludes ≠ (w.voxel? b l).map Voxel.occludes → a ∈ touched) :
    w'.RampsKept types := by
  constructor
  · intro a c' hc' hclean l hl
    rw [h.dims] at hl
    rw [h.chunk] at hc'
    by_cases hab : b = a
    · subst hab
      rw [if_pos rfl] at hc'
      obtain ⟨c₁, hc₁, rfl⟩ := Option.map_eq_some_iff.mp hc'
      have hclean₁ := (Chunk.rampDirty_asked hclean).2
      have hshape : w.SameShape w' b := by
        intro b' l' hl' _
        by_cases hbb : b = b'
        · subst hbb
          exact (hown c₁ hc₁ hclean₁ l' hl').2
        · rw [h.voxel?_eq, if_neg hbb]
          rfl
      rw [Chunk.grid_asked, rampFor_congr hshape hd h.dims hw hw' hl rfl rfl]
      exact (hown c₁ hc₁ hclean₁ l hl).1
    · rw [if_neg hab] at hc'
      obtain ⟨c, hc, rfl⟩ := Option.map_eq_some_iff.mp hc'
      obtain ⟨hcount, hclean₁⟩ := Chunk.rampDirty_asked hclean
      have hnot : a ∉ touched := List.count_eq_zero.mp hcount
      have hshape : w.SameShape w' a := by
        intro b' l' hl' hr'
        by_cases hbb : b = b'
        · subst hbb
          apply Decidable.byContradiction
          intro hne
          exact hnot (hother l' a hl' hr' (Ne.symm hab) hne)
        · rw [h.voxel?_eq, if_neg hbb]
          rfl
      rw [Chunk.grid_asked, rampFor_congr hshape hd h.dims hw hw' hl rfl rfl]
      exact hr.exact a c hc hclean₁ l hl
  · intro a c' hc'
    rw [h.chunk] at hc'
    obtain ⟨c, hc, rfl⟩ := Option.map_eq_some_iff.mp hc'
    apply Chunk.marked_asked
    split at hc
    · exact hmarked c hc
    · exact hr.marked a c hc

end Changes

theorem Step.rampsKept (hd : w.dims.Fits) (hw : w.WellKept) (hr : w.RampsKept types)
    (h : Step types w w') : w'.RampsKept types := by
  have hu := hw.uniform
  have hu' := ((h.advances hw).wellKept hw).uniform
  cases h with
  | load b c ns _ hmem _ h =>
    refine h.rampsKept hd hu hu' hr (fun c₁ hc₁ _ => ?_) (fun c₁ hc₁ hclean => ?_) ?_
    · obtain rfl := Option.some.inj hc₁
      exact Chunk.meshDirty_bump _ 1 (.inl rfl) (by omega)
    · obtain rfl := Option.some.inj hc₁
      have hdirty : (c.enter w.nextGeneration).isDirty rampDirty = true :=
        Chunk.rampDirty_bump_all _ 1 (by omega)
      rw [hdirty] at hclean
      cases hclean
    · exact fun l a _ hread hne _ => (hmem a).mpr (hread.isNeighbor hne)
  | unload b ns hmem _ h =>
    refine h.rampsKept hd hu hu' hr (fun c₁ hc₁ _ => by cases hc₁) (fun c₁ hc₁ _ => by cases hc₁) ?_
    exact fun l a _ hread hne _ => (hmem a).mpr (hread.isNeighbor hne)
  | setVoxel b c l v rest hc hmem _ h =>
    refine h.rampsKept hd hu hu' hr (fun c₁ hc₁ hramp => ?_) (fun c₁ hc₁ hclean l' hl' => ?_) ?_
    · obtain rfl := Option.some.inj hc₁
      exact (c.written_setVoxel l v).marked (.inl rfl) (hr.marked b c hc) hramp
    · obtain rfl := Option.some.inj hc₁
      have hnone := (c.written_setVoxel l v).eq_of_clean hclean
      rw [hnone] at hclean ⊢
      refine ⟨hr.exact b c hc hclean l' hl', ?_⟩
      rw [h.voxel?_eq, if_pos rfl, hnone, World.voxel?, hc]
    · intro l' a _ hread hne hdiff
      rw [h.voxel?_eq, if_pos rfl, World.voxel?, hc, Option.bind_some, Option.bind_some,
        Chunk.grid_setVoxel] at hdiff
      obtain rfl : l' = l := Decidable.byContradiction fun hl =>
        hdiff (congrArg _ (Grid.voxel?_setVoxel_ne v hl))
      exact List.mem_of_ne_of_mem hne ((hmem a).mpr hread)
  | setLiquid b c l x rest hc _ _ h =>
    have hvoxel (l' : Local) : w'.voxel? b l' = w.voxel? b l' := by
      rw [h.voxel?_eq, if_pos rfl, World.voxel?, hc, Option.bind_some, Option.bind_some,
        Chunk.grid_setLiquid]
      exact Grid.voxel?_setLiquid x
    refine h.rampsKept hd hu hu' hr (fun c₁ hc₁ hramp => ?_) (fun c₁ hc₁ hclean l' hl' => ?_) ?_
    · obtain rfl := Option.some.inj hc₁
      exact (c.written_setLiquid l x).marked (.inr rfl) (hr.marked b c hc) hramp
    · obtain rfl := Option.some.inj hc₁
      rw [(c.written_setLiquid l x).rampDirty_eq] at hclean
      have hgrid : ((c.setLiquid? l x).getD c).grid.voxel l' = c.grid.voxel l' := by
        rw [Chunk.grid_setLiquid, Grid.voxel, Grid.voxel?_setLiquid]
        rfl
      rw [hgrid, hvoxel]
      exact ⟨hr.exact b c hc hclean l' hl', rfl⟩
    · exact fun l' a _ _ _ hdiff => absurd (congrArg _ (hvoxel l')) hdiff
  | resolveRamps b c origin masks others hc ho hmasks _ _ h =>
    -- A pass changes masks only, so no cell comes to occlude or ceases to.
    have hshape (l : Local) :
        (w'.voxel? b l).map Voxel.occludes = (w.voxel? b l).map Voxel.occludes := by
      rw [h.voxel?_eq, if_pos rfl, World.voxel?, hc, Option.bind_some, Option.bind_some,
        Chunk.voxel?_applyRamps, Option.map_map]
      rfl
    refine h.rampsKept hd hu hu' hr (fun c₁ hc₁ hramp => ?_) (fun c₁ hc₁ _ l hl => ?_) ?_
    · obtain rfl := Option.some.inj hc₁
      rw [Chunk.rampDirty_applyRamps] at hramp
      cases hramp
    · obtain rfl := Option.some.inj hc₁
      exact ⟨rampFor_applyRamps hd hu hc ho hmasks hl, hshape l⟩
    · exact fun l a _ _ _ hdiff => absurd (hshape l) hdiff

theorem rampsKept_of_perform {e : Edit} (hd : w.dims.Fits) (hw : w.WellKept)
    (hr : w.RampsKept types) (h : w.perform types e = .ok w') : w'.RampsKept types := by
  refine (perform_rel
    (R := fun w w' => w.dims.Fits → w.WellKept → w.RampsKept types →
      w.Advances w' ∧ w'.RampsKept types)
    (fun w _ _ hr => ⟨.refl w, hr⟩) ?_
    (fun w w' hstep hd hw hr => ⟨hstep.advances hw, hstep.rampsKept hd hw hr⟩) h hd hw hr).2
  intro u v w huv hvw hd hu hr
  obtain ⟨hadv, hrv⟩ := huv hd hu hr
  obtain ⟨hadv', hrw⟩ := hvw (hadv.dims ▸ hd) (hadv.wellKept hu) hrv
  exact ⟨hadv.trans hadv', hrw⟩

/-! ### Runs -/

theorem RampsKept.unmark {c : Chunk} (hr : w.RampsKept types) (hd : w.dims.Fits)
    (hw : w.WellKept) (hc : w.chunk? a = some c) (hclean : c.isDirty rampDirty = false) :
    (w.unmark a).RampsKept types := by
  have hshape (b : Address) : w.SameShape (w.unmark a) b :=
    fun b' l _ _ => by rw [voxel?_unmark]
  constructor
  · intro b c' hc' hclean' l hl
    rw [rampFor_congr (hshape b) hd rfl hw.uniform (hw.unmark a).uniform hl rfl rfl]
    obtain ⟨c₀, hc₀, rfl⟩ := chunk?_unmark hc'
    split at hclean'
    · rw [Chunk.rampDirty_clear_mesh] at hclean'
      simp only [*, if_true]
      exact hr.exact b c₀ hc₀ hclean' l hl
    · simp only [*, if_false]
      exact hr.exact b c₀ hc₀ hclean' l hl
  · intro b c' hc' hramp
    obtain ⟨c₀, hc₀, rfl⟩ := chunk?_unmark hc'
    split at hramp
    · rename_i hab
      subst hab
      obtain rfl : c = c₀ := Option.some.inj (hc.symm.trans hc₀)
      rw [Chunk.rampDirty_clear_mesh, hclean] at hramp
      cases hramp
    · simp only [*, if_false]
      exact hr.marked b c₀ hc₀ hramp

theorem rampsKept_of_schedule {s : Store} {p : Pipeline} {y : Store.Pass} (hd : w.dims.Fits)
    (hw : w.WellKept) (hr : w.RampsKept types) (h : s.schedule w p = .ok y) :
    y.world.dims = w.dims ∧ y.world.WellKept ∧ y.world.RampsKept types := by
  refine Checked.foldlM_invariant
    (P := fun x : Store.Pass => x.world.dims = w.dims ∧ x.world.WellKept ∧ x.world.RampsKept types)
    (fun x a y hx hy => ?_) ⟨rfl, hw, hr⟩ h
  obtain ⟨hdims, hkept, hramps⟩ := hx
  obtain ⟨o, hreq, hworld⟩ := Store.visit_eq_ok hy
  rw [hworld]
  split
  · rename_i hsettles
    obtain ⟨c, hc, hclean⟩ := hreq.resolved_of_settles hsettles
    exact ⟨hdims, hkept.unmark a, hramps.unmark (hdims ▸ hd) hkept hc hclean⟩
  · exact ⟨hdims, hkept, hramps⟩

/-- Resolving every marked chunk leaves none marked. -/
theorem clean_of_resolve {as : List Address}
    (hmarked : ∀ a c, w.chunk? a = some c → c.isDirty rampDirty = true → a ∈ as)
    (h : as.foldlM (fun w a => w.perform types (.resolveRamps a)) w = .ok w') :
    ∀ a c, w'.chunk? a = some c → c.isDirty rampDirty = false := by
  -- The chunks still to be resolved are always among those left in the list.
  induction as generalizing w with
  | nil =>
    obtain rfl := Checked.pure_eq_ok_iff.mp h
    intro a c hc
    apply Bool.eq_false_iff.mpr
    intro hramp
    cases hmarked a c hc hramp
  | cons b as ih =>
    rw [List.foldlM_cons] at h
    obtain ⟨u, hu, h⟩ := Checked.bind_eq_ok_iff.mp h
    refine ih (fun a c hc hramp => ?_) h
    obtain ⟨hr, rfl⟩ | ⟨⟨report, v⟩, hr, rfl⟩ := after_eq_ok hu
    · have hnone := chunk?_of_resolveRamps hr
      refine List.mem_of_ne_of_mem (fun hab => ?_) (hmarked a c hc hramp)
      rw [hab] at hc
      cases hnone.symm.trans hc
    · obtain ⟨origin, c₀, masks, others, -, -, -, -, -, hchanges⟩ := resolveRamps_eq_some hr
      rw [hchanges.chunk] at hc
      obtain ⟨c₁, hc₁, rfl⟩ := Option.map_eq_some_iff.mp hc
      rw [List.count_nil, Chunk.rampDirty_asked_zero] at hramp
      split at hc₁
      · rw [← Option.some.inj hc₁, Chunk.rampDirty_applyRamps] at hramp
        cases hramp
      · rename_i hab
        exact List.mem_of_ne_of_mem (Ne.symm hab) (hmarked a c₁ hc₁ hramp)

/-- An operation on the world, or a pass over the chunks without a mesh by some store and
pipeline. -/
inductive Turn where
  | edit (e : Edit)
  | schedule (s : Store) (p : Pipeline)

def turn (types : VoxelCatalogue) (w : World) : Turn → Checked World
  | .edit e => w.perform types e
  | .schedule s p => do return (← s.schedule w p).world

theorem rampsKept_of_turns {d : Dims} {ts : List Turn} (hd : d.Fits)
    (h : ts.foldlM (turn types) (empty d) = .ok w) :
    w.dims = d ∧ w.WellKept ∧ w.RampsKept types := by
  have hempty : (empty d).RampsKept types := by
    have hnone (a : Address) : (empty d).chunk? a = none := by
      simp [empty, chunk?]
    constructor
    all_goals
      intro a c hc
      rw [hnone] at hc
      cases hc
  refine Checked.foldlM_invariant
    (P := fun w : World => w.dims = d ∧ w.WellKept ∧ w.RampsKept types)
    (fun u t v hu hv => ?_) ⟨rfl, wellKept_empty d, hempty⟩ h
  obtain ⟨hdims, hkept, hramps⟩ := hu
  have hfits : u.dims.Fits := hdims ▸ hd
  cases t with
  | edit e =>
    have hadv := advances_of_perform hkept hv
    exact ⟨hadv.dims.trans hdims, hadv.wellKept hkept, rampsKept_of_perform hfits hkept hramps hv⟩
  | schedule s p =>
    obtain ⟨y, hy, hv⟩ := Checked.bind_eq_ok_iff.mp hv
    obtain rfl := Checked.pure_eq_ok_iff.mp hv
    obtain ⟨hdims', hkept', hramps'⟩ := rampsKept_of_schedule hfits hkept hramps hy
    exact ⟨hdims'.trans hdims, hkept', hramps'⟩

/-- In every world that a run reaches, a chunk without the ramp mark stores at each voxel the mask
that the voxel should have there now, and a chunk with the mark also asks for a mesh. After a pass
over the marked chunks no chunk has the mark, so every stored mask is right. -/
theorem ramp_masks_exact {types : VoxelCatalogue} {d : Dims} {ts : List Turn} {w : World}
    (hd : d.Fits) (hw : ts.foldlM (turn types) (empty d) = .ok w) :
    (∀ a c, w.chunk? a = some c →
      (c.isDirty rampDirty = false → ∀ l, d.Holds l →
        w.rampFor types a l (c.grid.voxel l) = .ok (c.grid.voxel l).ramp) ∧
      (c.isDirty rampDirty = true → c.isDirty meshDirty = true)) ∧
    ∀ n w', w.resolveDirtyRamps types = .ok (n, w') → ∀ a c, w'.chunk? a = some c →
      c.isDirty rampDirty = false ∧ ∀ l, d.Holds l →
        w'.rampFor types a l (c.grid.voxel l) = .ok (c.grid.voxel l).ramp := by
  obtain ⟨rfl, hkept, hramps⟩ := rampsKept_of_turns hd hw
  refine ⟨fun a c hc => ⟨hramps.exact a c hc, hramps.marked a c hc⟩, fun n w' hsweep a c hc => ?_⟩
  obtain ⟨v, hv, hsweep'⟩ := Checked.bind_eq_ok_iff.mp hsweep
  obtain ⟨-, rfl⟩ := Prod.mk.inj (Checked.pure_eq_ok_iff.mp hsweep')
  have hperform : w.perform types .resolveDirtyRamps = .ok v := by
    rw [perform, hsweep]
    rfl
  have hdims := (advances_of_perform hkept hperform).dims
  have hramps' := rampsKept_of_perform hd hkept hramps hperform
  have hclean : c.isDirty rampDirty = false :=
    clean_of_resolve (fun a c hc hramp => mem_dirtyAddresses.mpr ⟨c, hc, hramp⟩) hv a c hc
  exact ⟨hclean, fun l hl => hramps'.exact a c hc hclean l (hdims ▸ hl)⟩

/-- A slope towards open space in the next chunk, after a ramp pass and a pass for meshes. -/
theorem ramp_masks_exact_at_border :
    ∃ w c, [.edit (.load ⟨0, 0, 0⟩ (.ofGrid (.filled (.cube 1) (.ofKind 1)))),
        .edit (.load ⟨1, 0, 0⟩ (.ofGrid (.blank (.cube 1)))), .edit .resolveDirtyRamps,
        .schedule .empty (.start 1 4 (.ofSettings Noise.still .empty .empty {}))].foldlM
          (turn ⟨#[Catalogued.reserved, ⟨"slope", true, .uniform 1, none⟩], ∅, 2⟩)
          (empty (.cube 1)) = .ok w ∧
      w.chunk? ⟨0, 0, 0⟩ = some c ∧ c.isDirty rampDirty = false ∧
      w.rampFor ⟨#[Catalogued.reserved, ⟨"slope", true, .uniform 1, none⟩], ∅, 2⟩ ⟨0, 0, 0⟩
        ⟨0, 0, 0⟩ (c.grid.voxel ⟨0, 0, 0⟩) = .ok ⟨10⟩ := by
  have hrun : (do
      let w ← [.edit (.load ⟨0, 0, 0⟩ (.ofGrid (.filled (.cube 1) (.ofKind 1)))),
        .edit (.load ⟨1, 0, 0⟩ (.ofGrid (.blank (.cube 1)))), .edit .resolveDirtyRamps,
        .schedule .empty (.start 1 4 (.ofSettings Noise.still .empty .empty {}))].foldlM
          (turn ⟨#[Catalogued.reserved, ⟨"slope", true, .uniform 1, none⟩], ∅, 2⟩) (empty (.cube 1))
      return (w.chunk? ⟨0, 0, 0⟩).map fun c =>
        (c.isDirty rampDirty, (c.grid.voxel ⟨0, 0, 0⟩).ramp)) =
      Except.ok (some (false, ⟨10⟩)) := by
    rfl
  obtain ⟨w, hw, hrun⟩ := Checked.bind_eq_ok_iff.mp hrun
  obtain ⟨c, hc, hstored⟩ := Option.map_eq_some_iff.mp (Checked.pure_eq_ok_iff.mp hrun)
  obtain ⟨hclean, hmask⟩ := Prod.mk.inj hstored
  have hexact := ((ramp_masks_exact (by decide) hw).1 _ c hc).1 hclean ⟨0, 0, 0⟩ (by decide)
  exact ⟨w, c, hw, hc, hclean, hmask ▸ hexact⟩

end World

end VoxelScene
