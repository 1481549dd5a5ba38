import Mathlib.Data.List.Perm.Basic
import VoxelScene.Proofs.RampMasks

/-!
The order of ramp passes.

A pass over a chunk reads the kinds of its voxels, which cells around them occlude and which chunks
are loaded. It writes masks, marks and versions, and none of these is read by another pass. So what
a pass will write is settled before any other pass, and as marks and versions add up, passes over
different chunks can change places. A second pass finds every mask in place and changes nothing.
-/

namespace VoxelScene

/-! ### What a pass reads -/

namespace Query

variable {q r : Query} {types : VoxelCatalogue}

/-- Whether a cell is present, and whether it occludes. -/
def outline (q : Query) (p : Pos) : Checked (Option Bool) := do
  return (← q.voxelAt p).map Voxel.occludes

theorem voxelAt_bind_of_outline {β : Type} (h : q.outline = r.outline) (k : Option Bool → β)
    (p : Pos) : (do return k ((← q.voxelAt p).map Voxel.occludes)) =
      (do return k ((← r.voxelAt p).map Voxel.occludes) : Checked β) := by
  have hp : q.outline p = r.outline p := congrFun h p
  have hmap (s : Query) : (do return k ((← s.voxelAt p).map Voxel.occludes) : Checked β) =
      (do return k (← s.outline p)) := by
    unfold outline
    cases s.voxelAt p <;> rfl
  rw [hmap, hmap, hp]

theorem isOpenAt_of_outline (h : q.outline = r.outline) : q.isOpenAt = r.isOpenAt := by
  have hopen (x : Option Voxel) :
      (x.any fun v => !v.occludes) = (x.map Voxel.occludes).any not := by
    cases x <;> rfl
  funext p
  simp only [isOpenAt, hopen]
  exact voxelAt_bind_of_outline h (fun x => x.any not) p

theorem isSlopable_of_outline (h : q.outline = r.outline) {v v' : Voxel} (hkind : v'.kind = v.kind)
    (hocc : v'.occludes = v.occludes) (p : Pos) :
    q.isSlopable types p v' = r.isSlopable types p v := by
  have hopen (x : Option Voxel) :
      (x.all fun v => !v.occludes) = (x.map Voxel.occludes).all not := by
    cases x <;> rfl
  simp only [isSlopable, hkind, hocc, hopen]
  split
  · rfl
  · apply Checked.bind_congr_of_ok
    intro n _
    exact voxelAt_bind_of_outline h (fun x => x.all not) n

theorem rampsOf_of_outline (h : q.outline = r.outline) {g g' : Grid} (hdims : g'.dims = g.dims)
    (hcells : ∀ l, (g'.voxel l).kind = (g.voxel l).kind ∧
      (g'.voxel l).occludes = (g.voxel l).occludes) (origin : Pos) :
    q.rampsOf types origin g' = r.rampsOf types origin g := by
  have hcorner : q.isCornerOpen = r.isCornerOpen := by
    funext p c
    simp only [isCornerOpen, isOpenAt_of_outline h]
  unfold rampsOf
  rw [hdims]
  apply Checked.mapM_congr
  intro l _
  apply Checked.bind_congr_of_ok
  intro p _
  rw [rampAt, rampAt, isSlopable_of_outline h (hcells l).1 (hcells l).2, openCorners, openCorners,
    hcorner]

end Query

/-! ### What a pass does to a chunk -/

namespace Grid

theorem changedRamps_withRamps (g : Grid) (masks : Array RampMask) :
    (g.withRamps masks).changedRamps masks = [] := by
  apply List.eq_nil_iff_forall_not_mem.mpr
  intro i hi
  obtain ⟨v, m, hv, hm, hne⟩ := mem_changedRamps.mp hi
  simp only [withRamps, Array.getElem?_mapIdx] at hv
  obtain ⟨u, -, rfl⟩ := Option.map_eq_some_iff.mp hv
  exact hne (by simp [hm])

end Grid

namespace Chunk

variable (c : Chunk) (masks : Array RampMask) (n : Nat)

theorem clear_mark_bits (b : UInt8) :
    (b ||| meshDirty) &&& ~~~ rampDirty = (b &&& ~~~ rampDirty) ||| meshDirty ∧
    (b &&& ~~~ rampDirty) &&& ~~~ rampDirty = b &&& ~~~ rampDirty := by
  obtain ⟨b⟩ := b
  revert b
  decide

theorem clear_bump :
    (c.bump meshDirty n).clearDirty rampDirty = (c.clearDirty rampDirty).bump meshDirty n := by
  unfold bump
  split
  · rfl
  · simp only [clearDirty, markDirty, (clear_mark_bits c.dirty).1]

theorem applyRamps_bump :
    ((c.bump meshDirty n).applyRamps masks).2 = (c.applyRamps masks).2.bump meshDirty n := by
  by_cases hnone : (c.grid.changedRamps masks).isEmpty = true
  · simp only [applyRamps, grid_bump, hnone, if_true, clear_bump]
  · have hwrite (m : Nat) : ({ c.bump meshDirty m with
        grid := c.grid.withRamps masks } : Chunk).invalidateMesh =
        ({ c with grid := c.grid.withRamps masks } : Chunk).bump meshDirty (m + 1) := by
      rw [← bump_bump]
      unfold bump
      split <;> rfl
    have hplain := hwrite 0
    rw [bump_zero] at hplain
    simp only [applyRamps, grid_bump, hnone, Bool.false_eq_true, if_false, hwrite, hplain,
      ← clear_bump, bump_bump, Nat.add_comm 1 n, Nat.zero_add]

theorem voxel_applyRamps (l : Local) :
    ((c.applyRamps masks).2.grid.voxel l).kind = (c.grid.voxel l).kind ∧
      ((c.applyRamps masks).2.grid.voxel l).occludes = (c.grid.voxel l).occludes := by
  rw [Grid.voxel, voxel?_applyRamps, Grid.voxel]
  cases c.grid.voxel? l with
  | none => exact ⟨rfl, rfl⟩
  | some v => exact ⟨rfl, rfl⟩

theorem dims_applyRamps : (c.applyRamps masks).2.grid.dims = c.grid.dims := by
  unfold applyRamps
  dsimp only
  split <;> rfl

theorem changedRamps_applyRamps : (c.applyRamps masks).2.grid.changedRamps masks = [] := by
  unfold applyRamps
  dsimp only
  split
  · exact List.isEmpty_iff.mp ‹_›
  · exact Grid.changedRamps_withRamps c.grid masks

theorem applyRamps_of_none (h : c.grid.changedRamps masks = []) :
    (c.applyRamps masks).2 = c.clearDirty rampDirty := by
  simp [applyRamps, h]

/-- A chunk that has the masks already only loses the ramp mark, and a pass has taken it off. -/
theorem applyRamps_again : (((c.applyRamps masks).2.bump meshDirty n).applyRamps masks).2 =
    (c.applyRamps masks).2.bump meshDirty n := by
  have hclear (d : Chunk) : (d.clearDirty rampDirty).clearDirty rampDirty =
      d.clearDirty rampDirty := by
    simp only [clearDirty, (clear_mark_bits d.dirty).2]
  rw [applyRamps_bump, applyRamps_of_none _ masks (changedRamps_applyRamps c masks)]
  congr 1
  exact hclear _

end Chunk

/-! ### What a pass does to a world -/

namespace World

variable {w w' : World} {types : VoxelCatalogue} {a b : Address}

/-- What a pass over a chunk will write: all masks of the chunk, of which some number is new, and
the other chunks whose meshes go out of date. -/
structure RampPlan where
  masks : Array RampMask
  changed : Nat
  others : List Address

def RampPlan.report (p : RampPlan) : RampReport := ⟨p.changed, p.others.length⟩

def rampPlan (w : World) (types : VoxelCatalogue) (a : Address) : Checked (Option RampPlan) := do
  let origin ← a.origin w.dims
  match w.chunk? a with
  | none => return none
  | some c =>
    let masks ← w.query.rampsOf types origin c.grid
    let changed := c.grid.changedRamps masks.toArray
    let readers ← changed.mapM fun i => return (← a.readers (w.dims.position i) w.dims).drop 1
    return some ⟨masks.toArray, changed.length, readers.flatten.eraseDups.filter w.isLoaded⟩

def carryOut (w : World) (a : Address) (p : RampPlan) : World :=
  (w.modifyChunk a fun c => (c.applyRamps p.masks).2).bumpAll meshDirty p.others

theorem resolveRamps_eq (w : World) (types : VoxelCatalogue) (a : Address) :
    w.resolveRamps types a = (do
      return (← w.rampPlan types a).map fun p => (p.report, w.carryOut a p)) := by
  unfold resolveRamps rampPlan
  cases a.origin w.dims with
  | error e => rfl
  | ok origin =>
    simp only [Checked.ok_bind]
    cases hc : w.chunk? a with
    | none => rfl
    | some c =>
      have hwrite (masks : Array RampMask) : (w.modifyChunk a fun _ => (c.applyRamps masks).2) =
          w.modifyChunk a fun c => (c.applyRamps masks).2 := by
        refine ext_chunk? rfl rfl fun b => ?_
        simp only [chunk?_modifyChunk]
        split
        · rename_i hab
          rw [← hab, hc]
          rfl
        · rfl
      dsimp only
      cases w.query.rampsOf types origin c.grid with
      | error e => rfl
      | ok masks =>
        show ((do
          let readers ← (c.grid.changedRamps masks.toArray).mapM fun i =>
            return (← a.readers (w.dims.position i) w.dims).drop 1
          let others := readers.flatten.eraseDups.filter w.isLoaded
          return some (⟨(c.grid.changedRamps masks.toArray).length, others.length⟩,
            (w.modifyChunk a fun _ => (c.applyRamps masks.toArray).2).bumpAll meshDirty others)) :
            Checked (Option (RampReport × World))) = _
        rw [hwrite, Checked.ok_bind]
        cases (c.grid.changedRamps masks.toArray).mapM fun i =>
          (do return (← a.readers (w.dims.position i) w.dims).drop 1 : Checked (List Address)) with
        | error e => rfl
        | ok readers => rfl

/-! ### Passes do not see each other -/

/-- What a pass over the chunk at `a` does to the chunk at `b`. -/
def RampPlan.effect (p : RampPlan) (a b : Address) (c : Chunk) : Chunk :=
  (if a = b then (c.applyRamps p.masks).2 else c).bump meshDirty (p.others.count b)

variable {p r : RampPlan}

theorem chunk?_carryOut (w : World) (a b : Address) (p : RampPlan) :
    (w.carryOut a p).chunk? b = (w.chunk? b).map (p.effect a b) := by
  rw [carryOut, chunk?_bumpAll, chunk?_modifyChunk]
  unfold RampPlan.effect
  split
  · rw [Option.map_map]
    rfl
  · rfl

theorem voxel_effect (p : RampPlan) (a b : Address) (c : Chunk) (l : Local) :
    ((p.effect a b c).grid.voxel l).kind = (c.grid.voxel l).kind ∧
      ((p.effect a b c).grid.voxel l).occludes = (c.grid.voxel l).occludes := by
  rw [RampPlan.effect, Chunk.grid_bump]
  split
  · exact c.voxel_applyRamps p.masks l
  · exact ⟨rfl, rfl⟩

theorem outline_carryOut (w : World) (a : Address) (p : RampPlan) :
    (w.carryOut a p).query.outline = w.query.outline := by
  have hdims : (w.carryOut a p).dims = w.dims := dims_bumpAll ..
  funext n
  show (do return (← (w.carryOut a p).voxelAt n).map Voxel.occludes) =
    (do return (← w.voxelAt n).map Voxel.occludes : Checked (Option Bool))
  unfold voxelAt locate
  rw [hdims]
  cases n.quotRem w.dims.extent with
  | error e => rfl
  | ok cell =>
    simp only [Checked.ok_bind, pure_bind, chunk?_carryOut, Option.map_map]
    congr 2
    funext c
    exact (voxel_effect p a _ c _).2

theorem isLoaded_carryOut (w : World) (a : Address) (p : RampPlan) :
    (w.carryOut a p).isLoaded = w.isLoaded := by
  funext b
  rw [isLoaded, isLoaded, chunk?_carryOut, Option.isSome_map]

/-- What a pass will write is the same after any pass over another chunk. -/
theorem rampPlan_carryOut (types : VoxelCatalogue) (hne : b ≠ a) :
    (w.carryOut b p).rampPlan types a = w.rampPlan types a := by
  have hdims : (w.carryOut b p).dims = w.dims := dims_bumpAll ..
  unfold rampPlan
  rw [hdims, isLoaded_carryOut, chunk?_carryOut]
  apply Checked.bind_congr_of_ok
  intro origin _
  cases w.chunk? a with
  | none => rfl
  | some c =>
    have hgrid : (p.effect b a c).grid = c.grid := by
      rw [RampPlan.effect, if_neg hne, Chunk.grid_bump]
    simp only [Option.map_some, hgrid]
    rw [Query.rampsOf_of_outline (outline_carryOut w b p) rfl fun _ => ⟨rfl, rfl⟩]

theorem carryOut_comm (w : World) (hne : a ≠ b) (p r : RampPlan) :
    (w.carryOut a p).carryOut b r = (w.carryOut b r).carryOut a p := by
  have hkeep (w : World) (a : Address) (p : RampPlan) : (w.carryOut a p).dims = w.dims ∧
      (w.carryOut a p).nextGeneration = w.nextGeneration :=
    ⟨dims_bumpAll .., nextGeneration_bumpAll ..⟩
  refine ext_chunk? (by simp only [hkeep]) (by simp only [hkeep]) fun n => ?_
  simp only [chunk?_carryOut, Option.map_map]
  congr 1
  funext c
  -- At most one of the two passes writes masks here; marks and versions add up.
  simp only [Function.comp_apply, RampPlan.effect]
  by_cases ha : a = n
  · have hb : b ≠ n := fun hb => hne (ha.trans hb.symm)
    simp only [ha, hb, if_true, if_false, Chunk.applyRamps_bump, Chunk.bump_bump, Nat.add_comm]
  · by_cases hb : b = n
    · simp only [ha, hb, if_true, if_false, Chunk.applyRamps_bump, Chunk.bump_bump, Nat.add_comm]
    · simp only [ha, hb, if_false, Chunk.bump_bump, Nat.add_comm]

/-- A second pass over the same chunk finds every mask in place. -/
theorem rampPlan_again (h : w.rampPlan types a = .ok (some p)) :
    (w.carryOut a p).rampPlan types a = .ok (some ⟨p.masks, 0, []⟩) := by
  have hdims : (w.carryOut a p).dims = w.dims := dims_bumpAll ..
  unfold rampPlan at h ⊢
  obtain ⟨origin, ho, h⟩ := Checked.bind_eq_ok_iff.mp h
  cases hc : w.chunk? a with
  | none => simp [hc, pure, Except.pure] at h
  | some c =>
    simp only [hc] at h
    obtain ⟨masks, hmasks, h⟩ := Checked.bind_eq_ok_iff.mp h
    obtain ⟨readers, -, h⟩ := Checked.bind_eq_ok_iff.mp h
    have hp : p.masks = masks.toArray := by
      rw [← Option.some.inj (Checked.pure_eq_ok_iff.mp h)]
    have hgrid : (p.effect a a c).grid = (c.applyRamps p.masks).2.grid := by
      rw [RampPlan.effect, if_pos rfl, Chunk.grid_bump]
    have hsame : (w.carryOut a p).query.rampsOf types origin (p.effect a a c).grid =
        .ok masks := by
      rw [← hmasks, hgrid]
      exact Query.rampsOf_of_outline (outline_carryOut w a p) (c.dims_applyRamps p.masks)
        (c.voxel_applyRamps p.masks) origin
    have hnone : (p.effect a a c).grid.changedRamps masks.toArray = [] := by
      rw [hgrid, hp]
      exact c.changedRamps_applyRamps masks.toArray
    rw [hdims, ho, Checked.ok_bind, chunk?_carryOut, hc, Option.map_some]
    simp only [hsame, Checked.ok_bind, hnone, hp]
    rfl

theorem carryOut_again (w : World) (a : Address) (p : RampPlan) :
    (w.carryOut a p).carryOut a ⟨p.masks, 0, []⟩ = w.carryOut a p := by
  refine ext_chunk? rfl rfl fun b => ?_
  rw [chunk?_carryOut, chunk?_carryOut, Option.map_map]
  congr 1
  funext c
  simp only [Function.comp_apply, RampPlan.effect, List.count_nil, Chunk.bump_zero]
  split
  · exact c.applyRamps_again p.masks _
  · rfl

/-! ### Runs of passes -/

/-- The world after a pass; a chunk that is not loaded has no plan, and nothing happens. -/
def enact (w : World) (a : Address) (plan : Option RampPlan) : World := plan.elim w (w.carryOut a)

theorem rampPlan_enact (w : World) (types : VoxelCatalogue) (hne : b ≠ a)
    (plan : Option RampPlan) : (w.enact b plan).rampPlan types a = w.rampPlan types a := by
  cases plan with
  | none => rfl
  | some p => exact rampPlan_carryOut types hne

theorem enact_comm (w : World) (hne : a ≠ b) (plan plan' : Option RampPlan) :
    (w.enact a plan).enact b plan' = (w.enact b plan').enact a plan := by
  cases plan with
  | none => rfl
  | some p =>
    cases plan' with
    | none => rfl
    | some r => exact carryOut_comm w hne p r

theorem resolveRamps_eq_ok_iff {outcome : Option (RampReport × World)} :
    w.resolveRamps types a = .ok outcome ↔ ∃ plan, w.rampPlan types a = .ok plan ∧
      (plan.map fun p => (p.report, w.carryOut a p)) = outcome := by
  simp only [resolveRamps_eq, Checked.bind_eq_ok_iff, Checked.pure_eq_ok_iff]

theorem world_of_plan (w : World) (a : Address) (plan : Option RampPlan) :
    ((plan.map fun p => (p.report, w.carryOut a p)).map (·.2)).getD w = w.enact a plan := by
  cases plan <;> rfl

theorem perform_resolveRamps_eq_ok_iff : w.perform types (.resolveRamps a) = .ok w' ↔
    ∃ plan, w.rampPlan types a = .ok plan ∧ w.enact a plan = w' := by
  simp only [perform, after, resolveRamps_eq, bind_assoc, pure_bind, world_of_plan,
    Checked.bind_eq_ok_iff, Checked.pure_eq_ok_iff]

/-- Two passes, one after the other: their reports, and the world after both. -/
def resolvePair (types : VoxelCatalogue) (w : World) (a b : Address) :
    Checked (Option RampReport × Option RampReport × World) := do
  let first ← w.resolveRamps types a
  let v := (first.map (·.2)).getD w
  let second ← v.resolveRamps types b
  return (first.map (·.1), second.map (·.1), (second.map (·.2)).getD v)

theorem resolvePair_eq_ok_iff (hne : a ≠ b) {ra rb : Option RampReport} :
    w.resolvePair types a b = .ok (ra, rb, w') ↔ ∃ plan plan',
      w.rampPlan types a = .ok plan ∧ w.rampPlan types b = .ok plan' ∧
        ra = plan.map RampPlan.report ∧ rb = plan'.map RampPlan.report ∧
        w' = (w.enact a plan).enact b plan' := by
  have hreport (w : World) (a : Address) (plan : Option RampPlan) :
      (plan.map fun p => (p.report, w.carryOut a p)).map (·.1) = plan.map RampPlan.report := by
    cases plan <;> rfl
  simp only [resolvePair, resolveRamps_eq, bind_assoc, pure_bind, world_of_plan, hreport,
    rampPlan_enact w types hne, Checked.bind_eq_ok_iff, Checked.pure_eq_ok_iff, Prod.mk.injEq]
  constructor
  · rintro ⟨plan, hplan, plan', hplan', rfl, rfl, rfl⟩
    exact ⟨plan, plan', hplan, hplan', rfl, rfl, rfl⟩
  · rintro ⟨plan, plan', hplan, hplan', rfl, rfl, rfl⟩
    exact ⟨plan, hplan, plan', hplan', rfl, rfl, rfl⟩

theorem resolvePair_swap (hne : a ≠ b) {ra rb : Option RampReport}
    (h : w.resolvePair types a b = .ok (ra, rb, w')) :
    w.resolvePair types b a = .ok (rb, ra, w') := by
  obtain ⟨plan, plan', hplan, hplan', rfl, rfl, rfl⟩ := (resolvePair_eq_ok_iff hne).mp h
  exact (resolvePair_eq_ok_iff hne.symm).mpr
    ⟨plan', plan, hplan', hplan, rfl, rfl, enact_comm w hne plan plan'⟩

theorem perform_swap {v : World} (ha : w.perform types (.resolveRamps a) = .ok v)
    (hb : v.perform types (.resolveRamps b) = .ok w') :
    ∃ u, w.perform types (.resolveRamps b) = .ok u ∧
      u.perform types (.resolveRamps a) = .ok w' := by
  by_cases hab : a = b
  · subst hab
    exact ⟨v, ha, hb⟩
  · obtain ⟨plan, hplan, rfl⟩ := perform_resolveRamps_eq_ok_iff.mp ha
    obtain ⟨plan', hplan', rfl⟩ := perform_resolveRamps_eq_ok_iff.mp hb
    rw [rampPlan_enact w types hab] at hplan'
    refine ⟨w.enact b plan', perform_resolveRamps_eq_ok_iff.mpr ⟨plan', hplan', rfl⟩,
      perform_resolveRamps_eq_ok_iff.mpr ⟨plan, ?_, enact_comm w (Ne.symm hab) plan' plan⟩⟩
    rw [rampPlan_enact w types (Ne.symm hab)]
    exact hplan

/-- The world after passes over the listed chunks, in that order. -/
def resolveEach (types : VoxelCatalogue) (w : World) (as : List Address) : Checked World :=
  as.foldlM (fun w a => w.perform types (.resolveRamps a)) w

theorem resolveEach_perm {as bs : List Address} (h : as.Perm bs) :
    w.resolveEach types as = .ok w' → w.resolveEach types bs = .ok w' := by
  unfold resolveEach
  induction h generalizing w with
  | nil => exact id
  | cons a _ ih =>
    intro hrun
    obtain ⟨v, hv, hrun⟩ := Checked.bind_eq_ok_iff.mp hrun
    exact Checked.bind_eq_ok_iff.mpr ⟨v, hv, ih hrun⟩
  | swap a b as =>
    intro hrun
    obtain ⟨v, hv, hrun⟩ := Checked.bind_eq_ok_iff.mp hrun
    obtain ⟨v', hv', hrun⟩ := Checked.bind_eq_ok_iff.mp hrun
    obtain ⟨u, hu, hu'⟩ := perform_swap hv hv'
    exact Checked.bind_eq_ok_iff.mpr ⟨u, hu, Checked.bind_eq_ok_iff.mpr ⟨v', hu', hrun⟩⟩
  | trans _ _ ih ih' => exact fun hrun => ih' (ih hrun)

theorem resolveDirtyRamps_eq_ok_iff {n : Nat} : w.resolveDirtyRamps types = .ok (n, w') ↔
    n = (w.dirtyAddresses rampDirty).length ∧
      w.resolveEach types (w.dirtyAddresses rampDirty) = .ok w' := by
  constructor
  · intro h
    obtain ⟨v, hv, h⟩ := Checked.bind_eq_ok_iff.mp h
    obtain ⟨rfl, rfl⟩ := Prod.mk.inj (Checked.pure_eq_ok_iff.mp h)
    exact ⟨rfl, hv⟩
  · rintro ⟨rfl, h⟩
    exact Checked.bind_eq_ok_iff.mpr ⟨w', h, rfl⟩

theorem dirtyAddresses_of_resolveEach
    (h : w.resolveEach types (w.dirtyAddresses rampDirty) = .ok w') :
    w'.dirtyAddresses rampDirty = [] := by
  apply List.eq_nil_iff_forall_not_mem.mpr
  intro a ha
  obtain ⟨c, hc, hdirty⟩ := mem_dirtyAddresses.mp ha
  have hclean := clean_of_resolve
    (fun a c hc hramp => mem_dirtyAddresses.mpr ⟨c, hc, hramp⟩) h a c hc
  rw [hclean] at hdirty
  cases hdirty

/-- Passes over two chunks give the same two reports and the same world in either order; where one
order ends in a fault, so does the other. Hence the pass over all marked chunks gives the same world
in whatever order it takes them. It leaves no chunk marked, so that it does nothing when it is run
again; nor does a second pass over a single chunk. -/
theorem ramp_passes_commute (types : VoxelCatalogue) (w : World) :
    (∀ a b, a ≠ b → ∀ ra rb w', w.resolvePair types a b = .ok (ra, rb, w') ↔
      w.resolvePair types b a = .ok (rb, ra, w')) ∧
    (∀ order, order.Perm (w.dirtyAddresses rampDirty) → ∀ w',
      w.resolveEach types order = .ok w' ↔
        w.resolveDirtyRamps types = .ok (order.length, w')) ∧
    (∀ n w', w.resolveDirtyRamps types = .ok (n, w') →
      w'.resolveDirtyRamps types = .ok (0, w')) ∧
    ∀ a report w', w.resolveRamps types a = .ok (some (report, w')) →
      w'.resolveRamps types a = .ok (some (⟨0, 0⟩, w')) := by
  refine ⟨fun a b hne ra rb w' => ⟨resolvePair_swap hne, resolvePair_swap hne.symm⟩,
    fun order hperm w' => ?_, fun n w' h => ?_, fun a report w' h => ?_⟩
  · rw [resolveDirtyRamps_eq_ok_iff]
    exact ⟨fun h => ⟨hperm.length_eq, resolveEach_perm hperm h⟩,
      fun h => resolveEach_perm hperm.symm h.2⟩
  · have hnone := dirtyAddresses_of_resolveEach (resolveDirtyRamps_eq_ok_iff.mp h).2
    rw [resolveDirtyRamps_eq_ok_iff, hnone]
    exact ⟨rfl, rfl⟩
  · obtain ⟨plan, hplan, h⟩ := resolveRamps_eq_ok_iff.mp h
    obtain ⟨p, rfl, hp⟩ := Option.map_eq_some_iff.mp h
    obtain ⟨-, rfl⟩ := Prod.mk.inj hp
    refine resolveRamps_eq_ok_iff.mpr ⟨_, rampPlan_again hplan, ?_⟩
    rw [Option.map_some, carryOut_again]
    rfl

/-- Four chunks of one cell in a row; the two in the middle are solid and slope to either side. -/
def ridgeTypes : VoxelCatalogue := ⟨#[Catalogued.reserved, ⟨"slope", true, .uniform 1, none⟩], ∅, 2⟩

def ridge : Checked World :=
  (empty (.cube 1)).replay ([(-1, 0), (0, 1), (1, 1), (2, 0)].map fun (x, kind) =>
    (ridgeTypes, .load ⟨x, 0, 0⟩ (.ofGrid (.filled (.cube 1)
      (if kind = 0 then .empty else .ofKind kind)))))

/-- On the ridge each pass asks for the mesh of the other chunk, before or after that chunk's own
pass. -/
theorem ramp_passes_commute_ridge :
    ∃ w u v, ridge = .ok w ∧
      w.resolvePair ridgeTypes ⟨0, 0, 0⟩ ⟨1, 0, 0⟩ = .ok (some ⟨1, 2⟩, some ⟨1, 2⟩, u) ∧
      w.resolvePair ridgeTypes ⟨1, 0, 0⟩ ⟨0, 0, 0⟩ = .ok (some ⟨1, 2⟩, some ⟨1, 2⟩, u) ∧
      w.resolveEach ridgeTypes [⟨1, 0, 0⟩, ⟨-1, 0, 0⟩, ⟨2, 0, 0⟩, ⟨0, 0, 0⟩] = .ok v ∧
      w.resolveDirtyRamps ridgeTypes = .ok (4, v) ∧
      v.resolveDirtyRamps ridgeTypes = .ok (0, v) := by
  have hrun : (do
      let w ← ridge
      let pair ← w.resolvePair ridgeTypes ⟨0, 0, 0⟩ ⟨1, 0, 0⟩
      let each ← w.resolveEach ridgeTypes [⟨1, 0, 0⟩, ⟨-1, 0, 0⟩, ⟨2, 0, 0⟩, ⟨0, 0, 0⟩]
      return (pair.1, pair.2.1, w.dirtyAddresses rampDirty, each.dims)) =
      Except.ok (some ⟨1, 2⟩, some ⟨1, 2⟩, [⟨-1, 0, 0⟩, ⟨0, 0, 0⟩, ⟨1, 0, 0⟩, ⟨2, 0, 0⟩],
        .cube 1) := by
    decide +kernel
  obtain ⟨w, hw, hrun⟩ := Checked.bind_eq_ok_iff.mp hrun
  obtain ⟨⟨ra, rb, u⟩, hpair, hrun⟩ := Checked.bind_eq_ok_iff.mp hrun
  obtain ⟨v, heach, hrun⟩ := Checked.bind_eq_ok_iff.mp hrun
  simp only [Checked.pure_eq_ok_iff, Prod.mk.injEq] at hrun
  obtain ⟨rfl, rfl, hdirty, -⟩ := hrun
  obtain ⟨hswap, horder, hagain, -⟩ := ramp_passes_commute ridgeTypes w
  have hall := (horder _ (by rw [hdirty]; decide) v).mp heach
  exact ⟨w, u, v, hw, hpair, (hswap _ _ (by decide) _ _ _).mp hpair, heach, hall, hagain _ _ hall⟩

end World

end VoxelScene
