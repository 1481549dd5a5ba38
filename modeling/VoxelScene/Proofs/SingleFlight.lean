import Mathlib.Data.List.Nodup
import VoxelScene.Proofs.SceneSteps

/-!
Single flight.

The store flags a chunk while a build of it is on its way. As long as nothing is forgotten, flags
and builds answer to each other: a flag has one build, and a build of the load that the world holds
has its flag. A chunk is never built twice at a time, and a flag falls when its build arrives.
-/

namespace VoxelScene

theorem Store.Published.idle {s s' : Store} {w : World} {r : BuildResult} {stored : Bool}
    {st : BuildState} (h : s.Published w r stored s') (hst : s'.state? r.address = some st)
    (hgen : st.generation = r.generation) : st.inFlight = false := by
  cases h with
  | stored st₀ current entry newest =>
    rw [state?_display, state?_put, if_pos rfl] at hst
    obtain rfl := Option.some.inj hst
    rfl
  | outdated st₀ current entry newer =>
    rw [state?_put, if_pos rfl] at hst
    obtain rfl := Option.some.inj hst
    rfl
  | ended st₀ gone entry load =>
    rw [state?_forget, if_pos rfl] at hst
    cases hst
  | foreign gone other => exact absurd hgen (other st hst)

namespace Moment

variable {m : Mesher} {x y : Moment}

/-- Every flag in the store has a build on its way. -/
def Backed (x : Moment) : Prop :=
  ∀ a st, x.store.state? a = some st → st.inFlight = true →
    (a, st.generation) ∈ x.builds.map Build.label

theorem Backed.next (h : x.Backed) (hn : Next m x y) : y.Backed := by
  cases hn with
  | edit types e done => exact h
  | @enter w s bs log a c loaded =>
    rcases s.enter_cases a c.generation with ⟨st, -, -, heq⟩ | ⟨-, -, hstate, -⟩
    · rw [heq]
      exact h
    · intro b st hst hflag
      rw [hstate] at hst
      split at hst
      · obtain rfl := Option.some.inj hst
        cases hflag
      · exact h b st hst hflag
  | @launch w s bs log a c st snapshot loaded entry load idle captured =>
    intro b st' hst' hflag
    rw [Store.state?_put] at hst'
    split at hst'
    · rename_i hab
      obtain rfl := Option.some.inj hst'
      have hlabel : (b, st.generation) = (a, c.generation) := by rw [hab, load]
      exact List.mem_cons.mpr (.inl hlabel)
    · exact List.mem_cons_of_mem _ (h b st' hst' hflag)
  | unmark a => exact h
  | @publish w s s' bs log r stored fate =>
    -- A flag that is still up has another build than the one that arrived.
    have hrest {b : Address} {st : BuildState} (hst : s.state? b = some st)
        (hflag : st.inFlight = true) (hne : r.address = b → st.generation ≠ r.generation) :
        (b, st.generation) ∈ bs.map Build.label := by
      rcases List.mem_cons.mp (h b st hst hflag) with heq | hmem
      · obtain ⟨haddr, hgen⟩ := Prod.mk.inj heq
        exact absurd hgen (hne haddr.symm)
      · exact hmem
    intro b st' hst' hflag
    cases fate with
    | stored st current entry newest =>
      rw [Store.state?_display, Store.state?_put] at hst'
      split at hst'
      · obtain rfl := Option.some.inj hst'
        cases hflag
      · exact hrest hst' hflag fun haddr => by contradiction
    | outdated st current entry newer =>
      rw [Store.state?_put] at hst'
      split at hst'
      · obtain rfl := Option.some.inj hst'
        cases hflag
      · exact hrest hst' hflag fun haddr => by contradiction
    | ended st gone entry load =>
      rw [Store.state?_forget] at hst'
      split at hst'
      · cases hst'
      · exact hrest hst' hflag fun haddr => by contradiction
    | foreign gone other =>
      exact hrest hst' hflag fun haddr => other st' (haddr ▸ hst')
  | drop a ended =>
    intro b st hst hflag
    rw [Store.state?_forget] at hst
    split at hst
    · cases hst
    · exact h b st hst hflag
  | reorder perm =>
    intro b st hst hflag
    exact (perm.map Build.label).mem_iff.mp (h b st hst hflag)

end Moment

namespace Scene

/-- How many builds of this load of a chunk are queued, being worked on, or finished and not
published. -/
def outstanding (s : Scene) (a : Address) (g : Nat) : Nat :=
  (s.pipeline.queued ++ s.pipeline.running).countP (fun t => t.address = a ∧ t.generation = g) +
    (s.pipeline.finished ++ s.taken).countP (fun r => r.address = a ∧ r.generation = g)

theorem outstanding_eq_count (m : Mesher) (s : Scene) (a : Address) (g : Nat) :
    s.outstanding a g = ((buildsOf m s.pipeline s.taken).map Build.label).count (a, g) := by
  have hlabel (b : Build) : (b.label == (a, g)) = decide (b.address = a ∧ b.generation = g) := by
    rw [Bool.eq_iff_iff]
    simp [Build.label]
  simp only [outstanding, buildsOf, List.map_append, List.count, List.countP_append,
    List.countP_map, Function.comp_def, hlabel]
  rfl

theorem nodup_running {m : Mesher} {p : Pipeline} {taken : List BuildResult}
    (h : ((buildsOf m p taken).map Build.label).Nodup) :
    (p.running.map fun t => (t.address, t.generation)).Nodup := by
  rw [buildsOf, List.map_append] at h
  have htasks := h.of_append_left
  rw [List.map_map, List.map_append] at htasks
  exact htasks.of_append_right

theorem inFlightCount_of_backed {s : Scene} (hback : ∀ a st, s.store.state? a = some st →
    st.inFlight = true → s.outstanding a st.generation = 1)
    (hnone : ∀ a g, s.outstanding a g = 0) : s.store.inFlightCount = 0 := by
  apply List.countP_eq_zero.mpr
  rintro ⟨a, st⟩ hmem hflag
  have hst : s.store.state? a = some st := Std.ExtTreeMap.mem_toList_iff_getElem?_eq_some.mp hmem
  have hone := hback a st hst hflag
  rw [hnone] at hone
  cases hone

theorem backed_start (d : Dims) (workers budget : Nat) (m : Mesher) :
    ((start d workers budget m).moment m []).Backed := by
  intro a st hst
  simp [moment, start, Store.empty, Store.state?] at hst

/-- In every run without forgetting, each load of a chunk has at most one build outstanding, each
flag in the store has exactly one, and one is outstanding for the load that the world holds exactly
when the store flags that load. So no two workers ever build the same load, a flag falls when its
build is published, and none is up when no build is outstanding. -/
theorem single_flight {d : Dims} {workers budget : Nat} {m : Mesher} {actions : List Action}
    {s : Scene} (hrun : actions.foldlM Scene.perform (start d workers budget m) = .ok s) :
    (∀ a g, s.outstanding a g ≤ 1) ∧
    (∀ a st, s.store.state? a = some st → st.inFlight = true →
      s.outstanding a st.generation = 1) ∧
    (∀ a c, s.world.chunk? a = some c → (0 < s.outstanding a c.generation ↔
      ∃ st, s.store.state? a = some st ∧ st.generation = c.generation ∧ st.inFlight = true)) ∧
    (s.pipeline.running.map fun t => (t.address, t.generation)).Nodup ∧
    (∀ r ∈ s.taken, ∀ st, (s.store.publish s.world r).2.state? r.address = some st →
      st.generation = r.generation → st.inFlight = false) ∧
    ((∀ a g, s.outstanding a g = 0) → s.store.inFlightCount = 0) := by
  obtain ⟨_, hflagged, hbacked⟩ := keeps_of_run
    (P := fun x : Moment => x.Flagged ∧ x.Backed) (fun _ _ h hn => ⟨h.1.next hn, h.2.next hn⟩)
    rfl ⟨flagged_start d workers budget m, backed_start d workers budget m⟩ hrun
  have hmost (a : Address) (g : Nat) : s.outstanding a g ≤ 1 := by
    rw [outstanding_eq_count m]
    exact List.nodup_iff_count_le_one.mp hflagged.single (a, g)
  have hone (a : Address) (st : BuildState) (hst : s.store.state? a = some st)
      (hflag : st.inFlight = true) : s.outstanding a st.generation = 1 := by
    have hle := hmost a st.generation
    have hpos : 0 < s.outstanding a st.generation := by
      rw [outstanding_eq_count m]
      exact List.count_pos_iff.mpr (hbacked a st hst hflag)
    omega
  refine ⟨hmost, hone, fun a c hc => ⟨fun hpos => ?_, ?_⟩, nodup_running hflagged.single,
    fun r _ st hst hgen => (s.store.published s.world r).idle hst hgen,
    inFlightCount_of_backed hone⟩
  · rw [outstanding_eq_count m, List.count_pos_iff] at hpos
    obtain ⟨b, hb, hlabel⟩ := List.mem_map.mp hpos
    obtain ⟨rfl, hgen⟩ := Prod.mk.inj hlabel
    exact hflagged.flagged b hb c ⟨hc, hgen.symm⟩
  · rintro ⟨st, hst, hgen, hflag⟩
    rw [← hgen, hone a st hst hflag]
    exact Nat.one_pos

/-- A chunk is loaded anew while it is being built, and asked for again: each of the two loads has
its own build, and the flag is that of the second. -/
theorem single_flight_reloaded :
    ∃ s st, [.edit .empty (.load ⟨0, 0, 0⟩ (.ofGrid (.blank (.cube 1)))),
        .edit .empty .resolveDirtyRamps, .schedule, .receive,
        .edit .empty (.load ⟨0, 0, 0⟩ (.ofGrid (.blank (.cube 1)))),
        .edit .empty .resolveDirtyRamps, .schedule].foldlM
          Scene.perform (start (.cube 1) 2 4 (.ofSettings Noise.still .empty .empty {})) = .ok s ∧
      s.store.state? ⟨0, 0, 0⟩ = some st ∧ st.generation = 2 ∧ st.inFlight = true ∧
      s.outstanding ⟨0, 0, 0⟩ st.generation = 1 ∧ s.outstanding ⟨0, 0, 0⟩ 1 ≤ 1 ∧
      0 < s.outstanding ⟨0, 0, 0⟩ 1 := by
  obtain ⟨s, hrun, hfacts⟩ := Checked.exists_of_passes
    (x := [.edit .empty (.load ⟨0, 0, 0⟩ (.ofGrid (.blank (.cube 1)))),
        .edit .empty .resolveDirtyRamps, .schedule, .receive,
        .edit .empty (.load ⟨0, 0, 0⟩ (.ofGrid (.blank (.cube 1)))),
        .edit .empty .resolveDirtyRamps, .schedule].foldlM
          Scene.perform (start (.cube 1) 2 4 (.ofSettings Noise.still .empty .empty {})))
    (f := fun s => (s.store.state? ⟨0, 0, 0⟩).any (fun st => st.generation = 2 && st.inFlight) &&
      0 < s.outstanding ⟨0, 0, 0⟩ 1)
    (by decide +kernel)
  simp only [Option.any_eq_true, Bool.and_eq_true, decide_eq_true_eq] at hfacts
  obtain ⟨⟨st, hst, hgen, hflag⟩, hold⟩ := hfacts
  obtain ⟨hmost, hone, -⟩ := single_flight hrun
  exact ⟨s, st, hrun, hst, hgen, hflag, hone _ st hst hflag, hmost _ 1, hold⟩

end Scene

end VoxelScene
