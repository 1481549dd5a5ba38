import VoxelScene.Proofs.WideChunks

/-!
No mesh update is lost.

A chunk without a mesh mark is either shown at its current version or has a build of that version on
its way: the mark is only taken off such a chunk, whatever changes a chunk marks it, and a build is
turned away only where a later one is shown. So when no chunk is marked and no build is on its way,
every loaded chunk is shown as it is.
-/

namespace VoxelScene

variable {m : Mesher} {w : World} {s s' : Store} {bs bs' : List Build} {log : List BuildResult}
  {a : Address} {c : Chunk}

namespace Settled

theorem of_subset (h : Settled s bs a c) (hsub : bs ⊆ bs') : Settled s bs' a c := by
  rcases h with hshown | ⟨b, hb, hof⟩
  · exact .inl hshown
  · exact .inr ⟨b, hsub hb, hof⟩

/-- Entries of the present load may change, but not the version that they say is shown. -/
theorem restate (h : Settled s bs a c)
    (hst : ∀ st, s.state? a = some st → st.generation = c.generation →
      ∃ st', s'.state? a = some st' ∧ st'.generation = st.generation ∧
        st'.meshedVersion = st.meshedVersion) : Settled s' bs a c := by
  rcases h with ⟨st, hold, hgen, hver⟩ | hbuild
  · obtain ⟨st', hnew, hgen', hver'⟩ := hst st hold hgen
    exact .inl ⟨st', hnew, hgen'.trans hgen, hver'.trans hver⟩
  · exact .inr hbuild

/-- Forgetting an entry of a load that is over changes nothing for the present one. -/
theorem forget {b : Address} (h : Settled s bs a c) (hc : w.chunk? a = some c)
    (hover : s.IsOver w b) : Settled (s.forget b) bs a c := by
  refine h.restate fun st hst hgen => ⟨st, ?_, rfl, rfl⟩
  rw [Store.state?_forget, if_neg]
  · exact hst
  · rintro rfl
    exact hover st c hst hc hgen

end Settled

namespace Moment

/-- What is on show is what the labels say, and no chunk is waiting without a mark. -/
structure Delivered (m : Mesher) (x : Moment) : Prop extends Labelled m x where
  settled : ∀ a c, x.world.chunk? a = some c → c.isDirty meshDirty = false →
    Settled x.store x.builds a c

namespace Delivered

/-- An operation on the world marks what it changes. -/
theorem settled_of_advances {w' : World} (h : Delivered m ⟨w, s, bs, log⟩) (hw : w.Advances w')
    (hc : w'.chunk? a = some c) (hclean : c.isDirty meshDirty = false) : Settled s bs a c := by
  rcases hw.chunk a c hc with hnew | ⟨c₀, hc₀, hlater, -⟩
  · rw [hnew.marked] at hclean
    cases hclean
  · have hver : c.version = c₀.version := by
      apply Decidable.byContradiction
      intro hne
      have hle := hlater.version
      rw [hlater.marked (by omega)] at hclean
      cases hclean
    rw [Settled, hlater.generation, hver]
    exact h.settled a c₀ hc₀ ((hlater.kept hver).2 ▸ hclean)

/-- A result is stored where an unmarked chunk waits for it, or else a newer one is shown already.
-/
theorem settled_of_published {r : BuildResult} {stored : Bool}
    (h : Delivered m ⟨w, s, r.done :: bs, log⟩) (fate : s.Published w r stored s')
    (hc : w.chunk? a = some c) (hclean : c.isDirty meshDirty = false) : Settled s' bs a c := by
  have hhead : r.done ∈ r.done :: bs := List.mem_cons_self ..
  have hbefore : Settled s (r.done :: bs) a c := h.settled a c hc hclean
  -- Unless the chunk waits for this very result, it is settled without it.
  have hrest (hother : ¬ (r.address = a ∧ r.generation = c.generation ∧ r.version = c.version)) :
      Settled s bs a c := by
    rcases hbefore with hshown | ⟨b, hb, hof⟩
    · exact .inl hshown
    · rcases List.mem_cons.mp hb with rfl | hb
      · exact absurd hof hother
      · exact .inr ⟨b, hb, hof⟩
  -- A result of a load that is over is none that a loaded chunk waits for.
  have hgone (hgone : ¬ Store.IsCurrentResult w r) : Settled s bs a c :=
    hrest fun hof => hgone ⟨c, hof.1 ▸ hc, hof.2.1.symm⟩
  cases fate with
  | stored st current entry newest =>
    by_cases hab : r.address = a
    · subst hab
      obtain ⟨c', hc', hgen⟩ := current
      obtain rfl : c = c' := Option.some.inj (hc.symm.trans hc')
      have hload := (h.entry_generation hhead ⟨c, hc, hgen⟩ entry).trans hgen.symm
      have hstate : r.version = c.version → Settled ((s.put r.address
          { st with meshedVersion := r.version, inFlight := false }).display r.address r.meshes)
          bs r.address c := by
        intro hver
        refine .inl ⟨⟨r.version, st.generation, false⟩, ?_, hload, hver⟩
        rw [Store.state?_display, Store.state?_put, if_pos rfl]
      rcases hbefore with ⟨st₀, hst₀, -, hver⟩ | ⟨b, hb, hof⟩
      · obtain rfl : st₀ = st := by
          rw [hst₀] at entry
          exact entry
        have hle := (h.truthful r.done hhead c ⟨hc, hgen⟩).1
        exact hstate (Nat.le_antisymm hle (hver ▸ newest))
      · rcases List.mem_cons.mp hb with rfl | hb
        · exact hstate hof.2.2
        · exact .inr ⟨b, hb, hof⟩
    · refine (hrest fun hof => hab hof.1).restate fun st' hst' _ => ⟨st', ?_, rfl, rfl⟩
      rw [Store.state?_display, Store.state?_put, if_neg hab]
      exact hst'
  | outdated st current entry newer =>
    have hst := Store.state?_of_newer entry newer
    have hother : ¬ (r.address = a ∧ r.generation = c.generation ∧ r.version = c.version) := by
      rintro ⟨rfl, hgen, hver⟩
      have hload := h.entry_generation hhead current entry
      have hle := (h.shown r.address c st hc hst (hload.trans hgen)).1
      omega
    refine (hrest hother).restate fun st' hst' _ => ?_
    rw [Store.state?_put]
    split
    · rename_i hab
      obtain rfl : st = st' := Option.some.inj (hst.symm.trans (hab ▸ hst'))
      exact ⟨_, rfl, rfl, rfl⟩
    · exact ⟨st', hst', rfl, rfl⟩
  | ended st gone entry load => exact (hgone gone).forget hc (Store.isOver_of_gone gone entry load)
  | foreign gone other => exact hgone gone

theorem next {x y : Moment} (h : Delivered m x) (hn : Next m x y) : Delivered m y := by
  refine ⟨h.toLabelled.next hn, ?_⟩
  cases hn with
  | edit types e done =>
    intro a c hc hclean
    exact h.settled_of_advances (World.advances_of_perform h.kept done) hc hclean
  | @enter w s bs log a c loaded =>
    intro b c' hc' hclean
    refine (h.settled b c' hc' hclean).restate fun st hst hgen => ⟨st, ?_, rfl, rfl⟩
    rcases s.enter_cases a c.generation with ⟨_, -, -, heq⟩ | ⟨hother, -, hstate, -⟩
    · rw [heq]
      exact hst
    · -- A fresh entry replaces one of another load, which settles nothing.
      rw [hstate, if_neg]
      · exact hst
      · rintro rfl
        obtain rfl : c = c' := Option.some.inj (loaded.symm.trans hc')
        exact hother st hst hgen
  | @launch w s bs log a c st snapshot loaded entry load idle captured =>
    intro b c' hc' hclean
    refine ((h.settled b c' hc' hclean).of_subset (List.subset_cons_self ..)).restate
      fun st' hst' _ => ?_
    rw [Store.state?_put]
    split
    · rename_i hab
      obtain rfl : st = st' := Option.some.inj (entry.symm.trans (hab ▸ hst'))
      exact ⟨_, rfl, rfl, rfl⟩
    · exact ⟨st', hst', rfl, rfl⟩
  | @unmark w s bs log a c loaded settled =>
    intro b c' hc' hclean
    obtain ⟨c₀, hc₀, rfl⟩ := World.chunk?_unmark hc'
    by_cases hab : a = b
    · subst hab
      obtain rfl : c = c₀ := Option.some.inj (loaded.symm.trans hc₀)
      rw [if_pos rfl]
      exact settled
    · rw [if_neg hab] at hclean ⊢
      exact h.settled b c₀ hc₀ hclean
  | publish r stored fate =>
    intro a c hc hclean
    exact h.settled_of_published fate hc hclean
  | drop b ended =>
    intro a c hc hclean
    exact (h.settled a c hc hclean).forget hc ended
  | reorder perm =>
    intro a c hc hclean
    exact (h.settled a c hc hclean).of_subset perm.subset

end Delivered

end Moment

namespace Scene

open Mesher (pillarMesher)

theorem delivered_start {d : Dims} (hd : d.Fits) (workers budget : Nat) (m : Mesher) :
    ((start d workers budget m).moment m []).Delivered m where
  toLabelled := labelled_start hd workers budget m
  settled a c hc := by simp [moment, start, World.empty, World.chunk?] at hc

/-- From an empty scene, let the world change, builds be asked for, tasks be finished in any order
and results be published, in any way. Whenever no loaded chunk is marked and no build is on its
way, every loaded chunk has a published mesh, and it is the mesh that a snapshot taken now would
give. -/
theorem no_mesh_update_lost {d : Dims} (hd : d.Fits) {workers budget : Nat} {m : Mesher}
    {actions : List Action} {s : Scene}
    (hrun : actions.foldlM Scene.perform (start d workers budget m) = .ok s)
    (hclean : ∀ a c, s.world.chunk? a = some c → c.isDirty meshDirty = false)
    (hidle : s.store.inFlightCount = 0) :
    ∀ a c, s.world.chunk? a = some c →
      ∃ ms, s.store.mesh? a = some ms ∧ s.world.meshOf m a = .ok (some ms) := by
  obtain ⟨_, hdelivered, hflagged⟩ := keeps_of_run
    (P := fun x : Moment => x.Delivered m ∧ x.Flagged) (fun _ _ h hn => ⟨h.1.next hn, h.2.next hn⟩)
    rfl ⟨delivered_start hd workers budget m, flagged_start d workers budget m⟩ hrun
  intro a c hc
  rcases hdelivered.settled a c hc (hclean a c hc) with ⟨st, hst, hgen, hver⟩ | ⟨b, hb, rfl, hof⟩
  · exact (hdelivered.shown a c st hc hst hgen).2 hver
  · -- A build of the present load would be flagged.
    obtain ⟨st, hst, -, hflag⟩ := hflagged.flagged b hb c ⟨hc, hof.1.symm⟩
    rw [Store.inFlightCount_eq_zero hidle hst] at hflag
    cases hflag

/-- A voxel is written to an empty chunk while the first build of it is on its way. -/
def overtakenBuild : List Action :=
  [.edit pillarMesher.voxelTypes (.load ⟨0, 0, 0⟩ (.ofGrid (.blank (.cube 1)))),
    .edit pillarMesher.voxelTypes .resolveDirtyRamps, .schedule, .receive,
    .edit pillarMesher.voxelTypes (.setVoxel ⟨0, 0, 0⟩ (.ofKind 1)), .handIn 0, .release, .collect]

def secondBuild : List Action :=
  [.edit pillarMesher.voxelTypes .resolveDirtyRamps, .schedule, .receive, .handIn 0, .drain,
    .publish 0]

/-- The first build brings a mesh without the voxel, the second one its six faces. -/
theorem no_mesh_update_lost_midway : ∃ s t ms ms',
    overtakenBuild.foldlM Scene.perform (start (.cube 1) 2 4 pillarMesher) = .ok s ∧
      s.store.mesh? ⟨0, 0, 0⟩ = some ms ∧ ms.quadCount = 0 ∧
      secondBuild.foldlM Scene.perform s = .ok t ∧ t.world.dirtyAddresses meshDirty = [] ∧
      t.store.inFlightCount = 0 ∧ t.store.mesh? ⟨0, 0, 0⟩ = some ms' ∧ ms'.quadCount = 6 ∧
      t.world.meshOf pillarMesher ⟨0, 0, 0⟩ = .ok (some ms') := by
  obtain ⟨s, hfirst, hnone⟩ := Checked.exists_of_passes
    (x := overtakenBuild.foldlM Scene.perform (start (.cube 1) 2 4 pillarMesher))
    (f := fun s => (s.store.mesh? ⟨0, 0, 0⟩).any fun ms => ms.quadCount = 0) (by decide +kernel)
  obtain ⟨t, hrun, hend⟩ := Checked.exists_of_passes
    (x := (overtakenBuild ++ secondBuild).foldlM Scene.perform
      (start (.cube 1) 2 4 pillarMesher))
    (f := fun t => (t.world.dirtyAddresses meshDirty).isEmpty && t.store.inFlightCount == 0 &&
      (t.world.chunk? ⟨0, 0, 0⟩).isSome &&
      (t.store.mesh? ⟨0, 0, 0⟩).any fun ms => ms.quadCount = 6) (by decide +kernel)
  have hsecond := hrun
  rw [List.foldlM_append, hfirst, Checked.ok_bind] at hsecond
  obtain ⟨ms, hms, hnone⟩ := (Option.any_eq_true _ _).mp hnone
  simp only [Bool.and_eq_true, List.isEmpty_iff, beq_iff_eq] at hend
  obtain ⟨⟨⟨hdirty, hidle⟩, hloaded⟩, hsix⟩ := hend
  obtain ⟨c, hc⟩ := Option.isSome_iff_exists.mp hloaded
  obtain ⟨ms', hms', hsix⟩ := (Option.any_eq_true _ _).mp hsix
  have hclean (a : Address) (c : Chunk) (hc : t.world.chunk? a = some c) :
      c.isDirty meshDirty = false := by
    apply Bool.eq_false_iff.mpr
    intro hmark
    have hmem := World.mem_dirtyAddresses.mpr ⟨c, hc, hmark⟩
    rw [hdirty] at hmem
    cases hmem
  obtain ⟨shown, hshown, hmesh⟩ := no_mesh_update_lost (by decide) hrun hclean hidle _ c hc
  obtain rfl : ms' = shown := Option.some.inj (hms'.symm.trans hshown)
  exact ⟨s, t, ms, ms', hfirst, hms, of_decide_eq_true hnone, hsecond, hdirty, hidle, hms',
    of_decide_eq_true hsix, hmesh⟩

/-- In wide chunks the border between the chunks at 0 and 1 is not where it is looked for: a mesh
update is lost. -/
theorem mesh_update_lost_in_wide_chunks : ∃ s c ms ms',
    (borderWrite ++ settling).foldlM Scene.perform (start .wide 1 1 .pillarMesher) = .ok s ∧
      (∀ a c, s.world.chunk? a = some c → c.isDirty meshDirty = false) ∧
      s.store.inFlightCount = 0 ∧ s.world.chunk? ⟨0, 0, 0⟩ = some c ∧
      s.store.mesh? ⟨0, 0, 0⟩ = some ms ∧
      s.world.meshOf .pillarMesher ⟨0, 0, 0⟩ = .ok (some ms') ∧ ms' ≠ ms := by
  obtain ⟨mesh, hwrite, hnone⟩ := run_borderWrite
  obtain ⟨ms, hsettle⟩ := run_settling ⟨.whole mesh, []⟩
  obtain ⟨ms', hmesh', hne⟩ := exists_newer_mesh hnone 0 0 3 3
  have hrun : (borderWrite ++ settling).foldlM Scene.perform (start .wide 1 1 .pillarMesher) = _ :=
    List.foldlM_append
  rw [hwrite, Checked.ok_bind, hsettle] at hrun
  refine ⟨_, _, ⟨.whole mesh, []⟩, ms', hrun, ?_, rfl, rfl, rfl, hmesh', hne⟩
  exact fun _ _ => World.forall_pair (P := fun c => c.isDirty meshDirty = false) rfl rfl

end Scene

end VoxelScene
