import VoxelScene.Proofs.SceneSteps

/-!
Results for a chunk that was loaded anew.

Versions of two loads of a chunk cannot be compared. A request drops the entry of an earlier load,
but a result that is published is judged by the entry that it finds, so all hangs on the load that
the entry is of. The entry that a result of the pipeline finds is of the result's own load. A result
that was built on the spot may find the entry of an earlier load. Then it is turned away for the
versions of that load, or it is stored under that load and dropped by the next request.
-/

namespace VoxelScene

namespace Store

variable {s s' : Store} {w : World} {p p' : Pipeline} {a : Address} {r : BuildResult} {c : Chunk}
  {st st' : BuildState}

/-! ### The entry that a result is judged by -/

/-- Each entry is of the load that it was of before, or of the load that the world holds. -/
def KeepsLoads (s s' : Store) (w : World) : Prop :=
  ∀ b st', s'.state? b = some st' → (∃ st, s.state? b = some st ∧ st.generation = st'.generation) ∨
    ∃ c, w.chunk? b = some c ∧ st'.generation = c.generation

theorem keepsLoads_put (hcur : IsCurrentResult w r)
    (hentry : (s.state? r.address).getD (.fresh r.generation) = st)
    (hload : st'.generation = st.generation) : s.KeepsLoads (s.put r.address st') w := by
  intro b st'' hst''
  rw [state?_put] at hst''
  split at hst''
  · rename_i hab
    subst hab
    obtain rfl := Option.some.inj hst''
    rcases entry_cases hentry with hst | ⟨-, rfl⟩
    · exact .inl ⟨st, hst, hload.symm⟩
    · obtain ⟨c, hc, hgen⟩ := hcur
      exact .inr ⟨c, hc, hload.trans hgen.symm⟩
  · exact .inl ⟨st'', hst'', rfl⟩

theorem Published.keepsLoads {stored : Bool} (h : s.Published w r stored s') :
    s.KeepsLoads s' w := by
  cases h with
  | stored st current entry newest => exact keepsLoads_put current entry rfl
  | outdated st current entry newer => exact keepsLoads_put current entry rfl
  | ended st gone entry load =>
    intro b st' hst'
    rw [state?_forget] at hst'
    split at hst'
    · cases hst'
    · exact .inl ⟨st', hst', rfl⟩
  | foreign gone other => exact fun b st' hst' => .inl ⟨st', hst', rfl⟩

/-- An entry judges every result for its chunk, and stays of the load that it is of. -/
theorem Published.judged_by_entry {stored : Bool} (h : s.Published w r stored s')
    (hcur : IsCurrentResult w r) (hst : s.state? r.address = some st) :
    (stored = true ↔ st.meshedVersion ≤ r.version) ∧
      ∃ st', s'.state? r.address = some st' ∧ st'.generation = st.generation := by
  cases stored with
  | true =>
    obtain ⟨st₀, -, hentry, hnewest, hstate, -⟩ := h.on_show
    rw [hst, Option.getD_some] at hentry
    subst hentry
    exact ⟨iff_of_true rfl hnewest, _, hstate, rfl⟩
  | false =>
    obtain ⟨st₀, hst₀, hnewer, hstate⟩ := h.outdated_of_current hcur
    obtain rfl : st = st₀ := Option.some.inj (hst.symm.trans hst₀)
    exact ⟨iff_of_false Bool.false_ne_true (Nat.not_le_of_lt hnewer), _, hstate, rfl⟩

/-! ### Requests after that -/

/-- What is on show for another load does not outlive a request. -/
theorem Requested.drops_foreign {o : RequestOutcome} (h : s.Requested w p a o s' p')
    (hc : w.chunk? a = some c) (hclean : c.isDirty rampDirty = false) (hver : 0 < c.version)
    (hst : s.state? a = some st) (hother : st.generation ≠ c.generation) :
    o ≠ .upToDate ∧ s'.mesh? a = none := by
  have hforeign : ∀ st', s.state? a = some st' → st'.generation ≠ c.generation := by
    intro st' hst'
    obtain rfl : st = st' := Option.some.inj (hst.symm.trans hst')
    exact hother
  have hmesh : (s.enter a c.generation).2.mesh? a = none := by
    rw [mesh?_enter_self hforeign, hst]
    rfl
  have hfresh : (s.enter a c.generation).1 = .fresh c.generation := by
    rcases s.enter_cases a c.generation with ⟨st', hst', hgen, -⟩ | ⟨-, hfresh, -⟩
    · exact absurd hgen (hforeign st' hst')
    · exact hfresh
  cases h with
  | notLoaded hnone => cases hc.symm.trans hnone
  | rampsPending c' hc' hpending =>
    obtain rfl : c = c' := Option.some.inj (hc.symm.trans hc')
    cases hclean.symm.trans hpending
  | alreadyInFlight c' hc' =>
    obtain rfl : c = c' := Option.some.inj (hc.symm.trans hc')
    exact ⟨by simp, hmesh⟩
  | upToDate c' hc' _ _ hshown =>
    obtain rfl : c = c' := Option.some.inj (hc.symm.trans hc')
    rw [hfresh] at hshown
    exact absurd hshown (Nat.ne_of_lt hver)
  | budgetExhausted c' hc' =>
    obtain rfl : c = c' := Option.some.inj (hc.symm.trans hc')
    exact ⟨by simp, hmesh⟩
  | submitted c' snapshot p' hc' =>
    obtain rfl : c = c' := Option.some.inj (hc.symm.trans hc')
    exact ⟨by simp, hmesh⟩

end Store

namespace Moment

variable {m : Mesher} {x y : Moment} {w w' : World} {s s' : Store} {bs bs' : List Build}
  {log log' : List BuildResult} {a : Address} {r : BuildResult}

/-! ### Results from anywhere -/

theorem Ordered.judged (h : Ordered ⟨w, s, bs, log⟩) (hs : s.KeepsLoads s' w) :
    Ordered ⟨w, s', bs, log'⟩ where
  kept := h.kept
  older b st' hst' := by
    rcases hs b st' hst' with ⟨st, hst, hgen⟩ | ⟨c, hc, hgen⟩
    · rw [← hgen]
      exact h.older b st hst
    · rw [hgen]
      exact h.kept.generation b c hc
  unborn := h.unborn
  matching b hb c hof st' hst' := by
    rcases hs b.address st' hst' with ⟨st, hst, hgen⟩ | ⟨c', hc', hgen⟩
    · rw [← hgen]
      exact h.matching b hb c hof st hst
    · obtain rfl : c = c' := Option.some.inj (hof.1.symm.trans hc')
      exact hgen

/-- The version in the entry for a present load is that of a result which was stored for this
load. -/
structure Vouched (x : Moment) : Prop extends Ordered x where
  voucher : ∀ a c st, x.world.chunk? a = some c → x.store.state? a = some st →
    st.generation = c.generation → st.meshedVersion = 0 ∨ ∃ r ∈ x.displayed, r.address = a ∧
      r.generation = st.generation ∧ r.version = st.meshedVersion

namespace Vouched

theorem carry (h : Vouched ⟨w, s, bs, log⟩) (hw : w.Carries w') : Vouched ⟨w', s, bs, log⟩ where
  toOrdered := h.toOrdered.carry hw
  voucher a c' st hc' hst hgen' := by
    obtain ⟨c, hc, hgen, -⟩ := hw.load a c' hc' (hgen' ▸ h.older a st hst)
    exact h.voucher a c st hc hst (hgen'.trans hgen)

/-- Each entry may stay but for its flag, go, or start anew. -/
theorem restate (h : Vouched ⟨w, s, bs, log⟩) (ho : Ordered ⟨w, s', bs', log'⟩)
    (hs : ∀ b st', s'.state? b = some st' → st'.meshedVersion = 0 ∨ ∃ st, s.state? b = some st ∧
      st.generation = st'.generation ∧ st.meshedVersion = st'.meshedVersion)
    (hlog : ∀ b st' r, s'.state? b = some st' → r ∈ log → r.address = b → r ∈ log') :
    Vouched ⟨w, s', bs', log'⟩ where
  toOrdered := ho
  voucher b c st' hc hst' hgen' := by
    rcases hs b st' hst' with hzero | ⟨st, hst, hgen, hver⟩
    · exact .inl hzero
    · rw [← hgen, ← hver]
      refine (h.voucher b c st hc hst (hgen.trans hgen')).imp_right ?_
      rintro ⟨r, hr, haddr, hlabels⟩
      exact ⟨r, hlog b st' r hst' hr haddr, haddr, hlabels⟩

theorem reflag {st : BuildState} {flag : Bool} (h : Vouched ⟨w, s, bs, log⟩)
    (hst : s.state? a = some st)
    (ho : Ordered ⟨w, s.put a { st with inFlight := flag }, bs', log⟩) :
    Vouched ⟨w, s.put a { st with inFlight := flag }, bs', log⟩ := by
  refine h.restate ho (fun b st' hst' => .inr ?_) (fun _ _ _ _ hr _ => hr)
  rw [Store.state?_put] at hst'
  split at hst'
  · rename_i hab
    obtain rfl := Option.some.inj hst'
    exact ⟨st, hab ▸ hst, rfl, rfl⟩
  · exact ⟨st', hst', rfl, rfl⟩

theorem forget (h : Vouched ⟨w, s, bs, log⟩) (a : Address)
    (hlog : ∀ r ∈ log, r.address ≠ a → r ∈ log') : Vouched ⟨w, s.forget a, bs, log'⟩ := by
  have hordered : Ordered ⟨w, s.forget a, bs, log'⟩ :=
    (h.toOrdered.forget a).restate (fun _ _ => .inl) (List.Subset.refl _)
  refine h.restate hordered (fun b st' hst' => .inr ?_) (fun b st' r hst' hr haddr => ?_)
  all_goals
    rw [Store.state?_forget] at hst'
    split at hst'
  · cases hst'
  · exact ⟨st', hst', rfl, rfl⟩
  · cases hst'
  · rename_i hab
    refine hlog r hr fun ha => hab ?_
    rw [← ha, haddr]

/-- A result may be stored under the entry of another load, of which nothing is claimed. -/
theorem judged {stored : Bool} (h : Vouched ⟨w, s, bs, log⟩) (hfate : s.Published w r stored s')
    (ho : Ordered ⟨w, s', bs', if stored then r :: log else log⟩) :
    Vouched ⟨w, s', bs', if stored then r :: log else log⟩ := by
  cases hfate with
  | stored st current entry newest =>
    refine ⟨ho, fun b c st' hc hst' hgen' => ?_⟩
    by_cases hab : r.address = b
    · subst hab
      have hst' : some _ = some st' := (if_pos rfl).symm.trans ((Store.state?_put ..).symm.trans hst')
      obtain rfl := Option.some.inj hst'
      obtain ⟨c', hc', hload⟩ := current
      obtain rfl : c = c' := Option.some.inj (hc.symm.trans hc')
      exact .inr ⟨r, List.mem_cons_self .., rfl, hload.symm.trans hgen'.symm, rfl⟩
    · have hst : s.state? b = some st' :=
        (if_neg hab).symm.trans ((Store.state?_put ..).symm.trans hst')
      refine (h.voucher b c st' hc hst hgen').imp_right ?_
      rintro ⟨r', hr', hlabels⟩
      exact ⟨r', List.mem_cons_of_mem _ hr', hlabels⟩
  | outdated st current entry newer => exact h.reflag (Store.state?_of_newer entry newer) ho
  | ended st gone entry load =>
    have hforget : Vouched ⟨w, s.forget r.address, bs, log⟩ := h.forget r.address fun _ hr _ => hr
    exact hforget.restate ho (fun _ st' hst' => .inr ⟨st', hst', rfl, rfl⟩) fun _ _ _ _ hr _ => hr
  | foreign gone other =>
    exact h.restate ho (fun _ st' hst' => .inr ⟨st', hst', rfl, rfl⟩) fun _ _ _ _ hr _ => hr

theorem next (h : Vouched x) (hn : Next m x y) : Vouched y := by
  have hordered := h.toOrdered.next hn
  cases hn with
  | edit types e done => exact h.carry ((World.advances_of_perform h.kept done).carries h.kept)
  | @enter w s bs log a c loaded =>
    rcases s.enter_cases a c.generation with ⟨st, -, -, heq⟩ | ⟨-, -, hstate, -⟩
    · rw [heq]
      exact h
    · refine h.restate hordered (fun b st' hst' => ?_) (fun _ _ _ _ hr _ => hr)
      rw [hstate] at hst'
      split at hst'
      · obtain rfl := Option.some.inj hst'
        exact .inl rfl
      · exact .inr ⟨st', hst', rfl, rfl⟩
  | launch a c st snapshot loaded entry load idle captured => exact h.reflag entry hordered
  | unmark a => exact h.carry (h.kept.carries_unmark a)
  | publish r stored fate => exact h.judged fate hordered
  | drop a ended => exact h.forget a fun _ hr _ => hr
  | reorder perm =>
    exact h.restate hordered (fun _ st' hst' => .inr ⟨st', hst', rfl, rfl⟩) fun _ _ _ _ hr _ => hr

/-- Where the entry is of the result's own load, only a newer result of this load stands in the
way. -/
theorem newer_of_turned_away (h : Vouched ⟨w, s, bs, log⟩) (hcur : Store.IsCurrentResult w r)
    (hown : ∀ st, s.state? r.address = some st → st.generation = r.generation)
    (hfate : s.Published w r false s') : ∃ r' ∈ log, r'.address = r.address ∧
      r'.generation = r.generation ∧ r.version < r'.version := by
  obtain ⟨st, hst, hnewer, -⟩ := hfate.outdated_of_current hcur
  obtain ⟨c, hc, hload⟩ := hcur
  have hgen := hown st hst
  rcases h.voucher r.address c st hc hst (hgen.trans hload.symm) with hzero | hsource
  · rw [hzero] at hnewer
    exact absurd hnewer (Nat.not_lt_zero _)
  · obtain ⟨r', hr', haddr, hlabel, hver⟩ := hsource
    exact ⟨r', hr', haddr, hlabel.trans hgen, by omega⟩

end Vouched

end Moment

namespace Scene

/-! ### Scenes with results from anywhere -/

/-- What can happen where chunks may be forgotten at any time, and where results may come from
outside the pipeline. -/
inductive Deed where
  | act (action : Action)
  | forget (a : Address)
  | publish (r : BuildResult)

/-- The scene after a deed, with the results that were stored since their chunk was last
forgotten. -/
def proceed (x : Scene × List BuildResult) : Deed → Checked (Scene × List BuildResult)
  | .act action => do return (← x.1.perform action, x.1.stored action ++ x.2)
  | .forget a =>
    return ({ x.1 with store := x.1.store.forget a }, x.2.filter fun r => r.address ≠ a)
  | .publish r =>
    let (stored, store) := x.1.store.publish x.1.world r
    return ({ x.1 with store := store }, if stored then r :: x.2 else x.2)

variable {d : Dims} {workers budget : Nat} {m : Mesher} {s s' : Scene}
  {log log' : List BuildResult} {a : Address}

theorem vouched_start (d : Dims) (workers budget : Nat) (m : Mesher) :
    ((start d workers budget m).moment m []).Vouched where
  toOrdered := ordered_start d workers budget m
  voucher a c st hc hst := by simp [moment, start, Store.empty, Store.state?] at hst

theorem vouched_of_proceed {deed : Deed} (hm : s.pipeline.mesher = m)
    (h : (s.moment m log).Vouched) (hdeed : proceed (s, log) deed = .ok (s', log')) :
    s'.pipeline.mesher = m ∧ (s'.moment m log').Vouched := by
  cases deed with
  | act action =>
    obtain ⟨t, ht, hdeed⟩ := Checked.bind_eq_ok_iff.mp hdeed
    obtain ⟨rfl, rfl⟩ := Prod.mk.inj (Checked.pure_eq_ok_iff.mp hdeed)
    obtain ⟨hmesher, hchain⟩ := chain_of_perform log hm ht
    exact ⟨hmesher, Moment.keeps_of_chain (fun _ _ h hn => h.next hn) hchain h⟩
  | forget b =>
    obtain ⟨rfl, rfl⟩ := Prod.mk.inj (Checked.pure_eq_ok_iff.mp hdeed)
    refine ⟨hm, Moment.Vouched.forget h b fun r hr hne => ?_⟩
    exact List.mem_filter.mpr ⟨hr, by simpa using hne⟩
  | publish r =>
    obtain ⟨rfl, rfl⟩ := Prod.mk.inj (Checked.pure_eq_ok_iff.mp hdeed)
    have hfate := s.store.published s.world r
    exact ⟨hm, Moment.Vouched.judged h hfate (h.toOrdered.judged hfate.keepsLoads)⟩

theorem vouched_of_run {deeds : List Deed}
    (hrun : deeds.foldlM proceed (start d workers budget m, []) = .ok (s, log)) :
    (s.moment m log).Vouched := by
  have hall : s.pipeline.mesher = m ∧ (s.moment m log).Vouched :=
    Checked.foldlM_invariant
      (P := fun x : Scene × List BuildResult =>
        x.1.pipeline.mesher = m ∧ (x.1.moment m x.2).Vouched)
      (fun _ _ _ hx hdeed => vouched_of_proceed hx.1 hx.2 hdeed)
      ⟨rfl, vouched_start d workers budget m⟩ hrun
  exact hall.2

/-- Let a result be of the load that the world holds, after any history in which chunks are
forgotten and results from anywhere are published. If the result is the pipeline's, the entry for
its chunk is of its own load or missing. If that is so, it is turned away only where a newer result
of this load was stored since the chunk was last forgotten; and once stored it has an entry of its
load, so that at the current version the next request finds the mesh up to date. An entry of another
load is not put aside: the result is judged by the version in it and goes under its generation, and
the next request drops the mesh. -/
theorem result_judged_by_entry {deeds : List Deed} {shown : List BuildResult}
    (hrun : deeds.foldlM proceed (start d workers budget m, []) = .ok (s, shown))
    {r : BuildResult} {c : Chunk} (hc : s.world.chunk? r.address = some c)
    (hgen : c.generation = r.generation) :
    (r ∈ s.pipeline.finished ++ s.taken →
      ∀ st, s.store.state? r.address = some st → st.generation = r.generation) ∧
    ((∀ st, s.store.state? r.address = some st → st.generation = r.generation) →
      ((s.store.publish s.world r).1 = false → ∃ r' ∈ shown, r'.address = r.address ∧
        r'.generation = r.generation ∧ r.version < r'.version) ∧
      ((s.store.publish s.world r).1 = true →
        (s.store.publish s.world r).2.state? r.address =
          some ⟨r.version, r.generation, false⟩ ∧
        (s.store.publish s.world r).2.mesh? r.address = some r.meshes ∧
        (r.version = c.version → c.isDirty rampDirty = false → ∀ p : Pipeline,
          (s.store.publish s.world r).2.request s.world p r.address =
            .ok (.upToDate, (s.store.publish s.world r).2, p)))) ∧
    ∀ st, s.store.state? r.address = some st → st.generation ≠ r.generation →
      ((s.store.publish s.world r).1 = true ↔ st.meshedVersion ≤ r.version) ∧
      (∃ st', (s.store.publish s.world r).2.state? r.address = some st' ∧
        st'.generation = st.generation) ∧
      (c.isDirty rampDirty = false → ∀ (p p' : Pipeline) o store,
        (s.store.publish s.world r).2.request s.world p r.address = .ok (o, store, p') →
          o ≠ .upToDate ∧ store.mesh? r.address = none) := by
  have hvouched := vouched_of_run hrun
  have hcur : Store.IsCurrentResult s.world r := ⟨c, hc, hgen⟩
  have hfate := s.store.published s.world r
  refine ⟨fun hr st hst => ?_, fun hown => ⟨fun hno => ?_, fun hyes => ?_⟩, fun st hst hother => ?_⟩
  · have hdone : r.done ∈ buildsOf m s.pipeline s.taken :=
      List.mem_append_right _ (List.mem_map_of_mem hr)
    exact (hvouched.matching r.done hdone c ⟨hc, hgen⟩ st hst).trans hgen
  · rw [hno] at hfate
    exact hvouched.newer_of_turned_away hcur hown hfate
  · rw [hyes] at hfate
    obtain ⟨st, -, hentry, -, hstate, hmesh⟩ := hfate.on_show
    have hload := Store.generation_of_entry hown hentry
    rw [hload] at hstate
    refine ⟨hstate, hmesh, fun hver hclean p => Store.request_of_shown hc hclean ?_⟩
    rw [hstate, hver, hgen]
  · obtain ⟨hiff, st', hst', hload⟩ := hfate.judged_by_entry hcur hst
    refine ⟨hiff, ⟨st', hst', hload⟩, fun hclean p p' o store hreq => ?_⟩
    have hother' : st'.generation ≠ c.generation := by
      rw [hload, hgen]
      exact hother
    have hver := hvouched.kept.version r.address c hc
    exact (Store.requested_of_request hreq).drops_foreign hc hclean hver hst' hother'

/-- A chunk is built and shown, loaded anew, and built by the pipeline once more. -/
def rebuilt : List Deed :=
  [.act (.edit .empty (.load ⟨0, 0, 0⟩ (.ofGrid (.blank (.cube 1))))),
    .act (.edit .empty .resolveDirtyRamps), .act .schedule, .act .receive, .act (.handIn 0),
    .act .release, .act .collect, .act (.edit .empty (.load ⟨0, 0, 0⟩ (.ofGrid (.blank (.cube 1))))),
    .act (.edit .empty .resolveDirtyRamps), .act .schedule, .act .receive, .act (.handIn 0),
    .act .drain]

/-- The result for the second load is stored, and the next request finds it up to date. -/
theorem result_judged_by_entry_rebuilt :
    ∃ s shown r c, rebuilt.foldlM proceed
        (start (.cube 1) 2 4 (.ofSettings Noise.still .empty .empty {}), []) = .ok (s, shown) ∧
      r ∈ s.pipeline.finished ++ s.taken ∧ s.world.chunk? r.address = some c ∧
      c.generation = r.generation ∧ shown.map BuildResult.generation = [1] ∧ r.generation = 2 ∧
      (s.store.publish s.world r).1 = true ∧ ∀ p : Pipeline,
        (s.store.publish s.world r).2.request s.world p r.address =
          .ok (.upToDate, (s.store.publish s.world r).2, p) := by
  obtain ⟨⟨s, shown⟩, hrun, hfacts⟩ := Checked.exists_of_passes
    (x := rebuilt.foldlM proceed
      (start (.cube 1) 2 4 (.ofSettings Noise.still .empty .empty {}), []))
    (f := fun x => x.2.map BuildResult.generation = [1] && x.1.taken.any fun r =>
      r.generation = 2 && (x.1.store.publish x.1.world r).1 &&
        (x.1.world.chunk? r.address).any fun c => c.generation = r.generation &&
          r.version = c.version && !c.isDirty rampDirty)
    (by decide +kernel)
  simp only [Bool.and_eq_true, decide_eq_true_eq, List.any_eq_true, Option.any_eq_true,
    Bool.not_eq_true'] at hfacts
  obtain ⟨hshown, r, hr, ⟨hsecond, hyes⟩, c, hc, ⟨hgen, hver⟩, hclean⟩ := hfacts
  have hr := List.mem_append_right s.pipeline.finished hr
  obtain ⟨hown, hkept, -⟩ := result_judged_by_entry hrun hc hgen
  have hnext := ((hkept (hown hr)).2 hyes).2.2 hver hclean
  exact ⟨s, shown, r, c, hrun, hr, hc, hgen, hshown, hsecond, hyes, hnext⟩

/-- The loaded chunk is meshed on the spot, from a snapshot taken now and under its labels. -/
def buildNow (s : Scene) (a : Address) : Checked (Option BuildResult) :=
  match s.world.chunk? a with
  | none => return none
  | some c => do
    match ← Snapshot.capture s.world a with
    | none => return none
    | some snapshot =>
      return some (← BuildTask.run ⟨a, snapshot, c.version, c.generation⟩ s.pipeline.mesher)

/-- A chunk is loaded and changed. -/
def changed : List Deed :=
  [.act (.edit .empty (.load ⟨0, 0, 0⟩ (.ofGrid (.blank (.cube 1))))),
    .act (.edit .empty (.setVoxel ⟨0, 0, 0⟩ .empty)), .act (.edit .empty .resolveDirtyRamps)]

/-- A result is published, and then its chunk is loaded anew. -/
def reloaded (r : BuildResult) : List Deed :=
  [.publish r, .act (.edit .empty (.load ⟨0, 0, 0⟩ (.ofGrid (.blank (.cube 1))))),
    .act (.edit .empty .resolveDirtyRamps)]

/-- A result that was just built of the present load, at its current version and with its ramp masks
up to date, is turned away although no result of this load was ever stored. -/
theorem result_turned_away_for_earlier_load :
    ∃ s early r t shown r' c, changed.foldlM proceed
        (start (.cube 1) 2 4 (.ofSettings Noise.still .empty .empty {}), []) = .ok (s, early) ∧
      s.buildNow ⟨0, 0, 0⟩ = .ok (some r) ∧
      (reloaded r).foldlM proceed (s, early) = .ok (t, shown) ∧
      t.buildNow ⟨0, 0, 0⟩ = .ok (some r') ∧ t.world.chunk? ⟨0, 0, 0⟩ = some c ∧
      c.generation = r'.generation ∧ c.version = r'.version ∧ c.isDirty rampDirty = false ∧
      (∀ x ∈ shown, x.generation ≠ r'.generation) ∧ (t.store.publish t.world r').1 = false := by
  obtain ⟨⟨s, early⟩, hbefore, hrest⟩ := Checked.exists_of_passes
    (x := changed.foldlM proceed
      (start (.cube 1) 2 4 (.ofSettings Noise.still .empty .empty {}), []))
    (f := fun x => Checked.passes (x.1.buildNow ⟨0, 0, 0⟩) fun r? => r?.any fun r =>
      Checked.passes ((reloaded r).foldlM proceed x) fun y =>
        Checked.passes (y.1.buildNow ⟨0, 0, 0⟩) fun r? => r?.any fun r' =>
          ((y.1.world.chunk? ⟨0, 0, 0⟩).any fun c => c.generation = r'.generation &&
            c.version = r'.version && !c.isDirty rampDirty) &&
          (y.2.all fun x => x.generation ≠ r'.generation) &&
          !(y.1.store.publish y.1.world r').1)
    (by decide +kernel)
  obtain ⟨r?, hfirst, hrest⟩ := Checked.exists_of_passes hrest
  obtain ⟨r, rfl, hrest⟩ := (Option.any_eq_true _ _).mp hrest
  obtain ⟨⟨t, shown⟩, hafter, hrest⟩ := Checked.exists_of_passes hrest
  obtain ⟨r?, hsecond, hrest⟩ := Checked.exists_of_passes hrest
  obtain ⟨r', rfl, hfacts⟩ := (Option.any_eq_true _ _).mp hrest
  simp only [Bool.and_eq_true, decide_eq_true_eq, List.all_eq_true, Option.any_eq_true,
    Bool.not_eq_true'] at hfacts
  obtain ⟨⟨⟨c, hc, ⟨hgen, hver⟩, hclean⟩, hnone⟩, hno⟩ := hfacts
  exact ⟨s, early, r, t, shown, r', c, hbefore, hfirst, hafter, hsecond, hc, hgen, hver, hclean,
    hnone, hno⟩

end Scene

end VoxelScene
