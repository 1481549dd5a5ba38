import VoxelScene.Proofs.WideChunks

/-!
Forgetting chunks while builds are on their way.

The store may be told at any time to forget a chunk. The builds of it go on, so several of one load
may be outstanding at once, and their results land in any order in entries that were made anew. The
labels stay true all the same: an entry speaks of the build whose mesh is on show, and a request
that finds the mesh up to date is right. What forgetting does not do is to turn results away: one
that arrives later is stored as if nothing had been forgotten, as long as its load is still there.
-/

namespace VoxelScene

namespace Moment

variable {m : Mesher} {x y : Moment} {w : World} {s s' : Store} {bs : List Build}
  {log : List BuildResult} {a : Address}

/-! ### Where a mesh comes from -/

/-- Every mesh on show has an entry, and the entry has the labels of the result that the mesh was
last taken from. -/
def Sourced (x : Moment) : Prop :=
  ∀ a ms, x.store.mesh? a = some ms → ∃ st r, x.store.state? a = some st ∧
    x.displayed.find? (fun r => r.address = a) = some r ∧ r.meshes = ms ∧
    st.generation = r.generation ∧ st.meshedVersion = r.version

theorem Sourced.forget (h : Sourced ⟨w, s, bs, log⟩) (a : Address) :
    Sourced ⟨w, s.forget a, bs, log⟩ := by
  intro b ms hms
  rw [Store.mesh?_forget] at hms
  split at hms
  · cases hms
  · rename_i hab
    rw [Store.state?_forget, if_neg hab]
    exact h b ms hms

theorem Sourced.reflag {st : BuildState} {flag : Bool} (h : Sourced ⟨w, s, bs, log⟩)
    (hst : s.state? a = some st) : Sourced ⟨w, s.put a { st with inFlight := flag }, bs, log⟩ := by
  intro b ms hms
  obtain ⟨st', r, hst', hrest⟩ := h b ms hms
  rw [Store.state?_put]
  split
  · rename_i hab
    subst hab
    obtain rfl : st = st' := Option.some.inj (hst.symm.trans hst')
    exact ⟨_, r, rfl, hrest⟩
  · exact ⟨st', r, hst', hrest⟩

theorem Sourced.next (h : x.Sourced) (ho : x.Ordered) (hn : Next m x y) : y.Sourced := by
  cases hn with
  | edit types e done => exact h
  | @enter w s bs log a c loaded =>
    rcases s.enter_cases a c.generation with ⟨st, -, -, heq⟩ | ⟨hother, -, hstate, hmesh⟩
    · rw [heq]
      exact h
    · intro b ms hms
      by_cases hab : a = b
      · -- Without an entry there is no mesh, so no mesh is left under the fresh entry.
        subst hab
        rw [Store.mesh?_enter_self hother] at hms
        split at hms
        · cases hms
        · rename_i hnone
          obtain ⟨st, r, hst, -⟩ := h a ms hms
          exact absurd (Option.isSome_iff_exists.mpr ⟨st, hst⟩) hnone
      · rw [hmesh b hab] at hms
        rw [hstate, if_neg hab]
        exact h b ms hms
  | launch a c st snapshot loaded entry load idle captured => exact h.reflag entry
  | unmark a => exact h
  | @publish w s s' bs log r stored fate =>
    cases fate with
    | stored st current entry newest =>
      have hgen := ho.entry_generation (List.mem_cons_self ..) current entry
      intro b ms hms
      rw [Store.mesh?_display] at hms
      by_cases hab : r.address = b
      · rw [if_pos hab] at hms
        refine ⟨{ st with meshedVersion := r.version, inFlight := false }, r, ?_, ?_,
          Option.some.inj hms, hgen, rfl⟩
        · rw [Store.state?_display, Store.state?_put, if_pos hab]
        · exact List.find?_cons_of_pos (by simp [hab])
      · rw [if_neg hab] at hms
        obtain ⟨st', r', hst', hfind, hrest⟩ := h b ms hms
        refine ⟨st', r', ?_, ?_, hrest⟩
        · rw [Store.state?_display, Store.state?_put, if_neg hab]
          exact hst'
        · exact (List.find?_cons_of_neg (by simp [hab])).trans hfind
    | outdated st current entry newer =>
      exact h.reflag (Store.state?_of_newer entry newer)
    | ended st gone entry load => exact h.forget r.address
    | foreign gone other => exact h
  | drop a ended => exact h.forget a
  | reorder perm => exact h

theorem Labelled.upToDate {p p' : Pipeline} (h : Labelled m ⟨w, s, bs, log⟩)
    (hreq : s.Requested w p a .upToDate s' p') :
    ∃ ms, s'.mesh? a = some ms ∧ w.meshOf m a = .ok (some ms) := by
  cases hreq with
  | upToDate c hc _ _ hver =>
    have hentered := h.next (.enter a c hc)
    exact (hentered.shown a c _ hc (s.state?_enter a c.generation)
      (s.generation_enter a c.generation)).2 hver

theorem Ordered.brings_back {r : BuildResult} (h : Ordered ⟨w, s, bs, log⟩) (hr : r.done ∈ bs)
    (hfate : s.Published w r true s') : s'.mesh? r.address = some r.meshes ∧
      s'.state? r.address = some ⟨r.version, r.generation, false⟩ := by
  obtain ⟨st, hcur, hentry, -, hstate, hmesh⟩ := hfate.on_show
  rw [h.entry_generation hr hcur hentry] at hstate
  exact ⟨hmesh, hstate⟩

/-! ### What an entry remembers -/

/-- The entry for `a` has the version of a result that was put on show, and of the results for the
present load it has the highest version. -/
structure Recalls (a : Address) (x : Moment) : Prop extends Ordered x where
  recorded : ∀ st, x.store.state? a = some st → st.meshedVersion = 0 ∨
    ∃ r ∈ x.displayed, r.address = a ∧ r.generation = st.generation ∧ r.version = st.meshedVersion
  earlier : ∀ r ∈ x.displayed, r.address = a → r.generation < x.world.nextGeneration
  highest : ∀ r ∈ x.displayed, r.address = a → ∀ c, x.world.chunk? a = some c →
    c.generation = r.generation →
      ∃ st, x.store.state? a = some st ∧ st.generation = r.generation ∧ r.version ≤ st.meshedVersion

namespace Recalls

/-- Nothing is recalled right after the chunk was forgotten. -/
theorem of_forget (h : Ordered ⟨w, s, bs, log⟩) (a : Address) :
    Recalls a ⟨w, s.forget a, bs, []⟩ where
  toOrdered := (h.forget a).restate (fun _ _ => .inl) (List.Subset.refl _)
  recorded st hst := by
    rw [Store.state?_forget, if_pos rfl] at hst
    cases hst
  earlier r hr := by cases hr
  highest r hr := by cases hr

theorem carry {w' : World} (h : Recalls a ⟨w, s, bs, log⟩) (hw : w.Carries w') :
    Recalls a ⟨w', s, bs, log⟩ where
  toOrdered := h.toOrdered.carry hw
  recorded := h.recorded
  earlier r hr haddr := Nat.lt_of_lt_of_le (h.earlier r hr haddr) hw.nextGeneration
  highest r hr haddr c' hc' hgen' := by
    obtain ⟨c, hc, hgen, -⟩ := hw.load a c' hc' (hgen' ▸ h.earlier r hr haddr)
    exact h.highest r hr haddr c hc (hgen.symm.trans hgen')

/-- An entry for the chunk may change its flag, and all other entries may change. -/
theorem restate (h : Recalls a ⟨w, s, bs, log⟩) {bs' : List Build}
    (ho : Ordered ⟨w, s', bs', log⟩)
    (hst : ∀ st', s'.state? a = some st' → ∃ st, s.state? a = some st ∧
      st.generation = st'.generation ∧ st.meshedVersion = st'.meshedVersion)
    (hkept : ∀ c st, w.chunk? a = some c → s.state? a = some st → st.generation = c.generation →
      ∃ st', s'.state? a = some st') : Recalls a ⟨w, s', bs', log⟩ where
  toOrdered := ho
  recorded st' hst' := by
    obtain ⟨st, hst, hgen, hver⟩ := hst st' hst'
    rw [← hgen, ← hver]
    exact h.recorded st hst
  earlier := h.earlier
  highest r hr haddr c hc hgen := by
    obtain ⟨st, hold, hload, hle⟩ := h.highest r hr haddr c hc hgen
    obtain ⟨st', hst'⟩ := hkept c st hc hold (hload.trans hgen.symm)
    obtain ⟨st₀, hst₀, hload', hver⟩ := hst st' hst'
    obtain rfl : st = st₀ := Option.some.inj (hold.symm.trans hst₀)
    exact ⟨st', hst', hload'.symm.trans hload, hver ▸ hle⟩

theorem reorder {bs' : List Build} (h : Recalls a ⟨w, s, bs, log⟩)
    (ho : Ordered ⟨w, s, bs', log⟩) : Recalls a ⟨w, s, bs', log⟩ :=
  h.restate ho (fun st hst => ⟨st, hst, rfl, rfl⟩) (fun _ st _ hst _ => ⟨st, hst⟩)

theorem reflag {b : Address} {st : BuildState} {flag : Bool} {bs' : List Build}
    (h : Recalls a ⟨w, s, bs, log⟩) (hst : s.state? b = some st)
    (ho : Ordered ⟨w, s.put b { st with inFlight := flag }, bs', log⟩) :
    Recalls a ⟨w, s.put b { st with inFlight := flag }, bs', log⟩ := by
  refine h.restate ho (fun st' hst' => ?_) (fun _ st' _ hst' _ => ?_)
  · rw [Store.state?_put] at hst'
    split at hst'
    · rename_i hba
      obtain rfl := Option.some.inj hst'
      exact ⟨st, hba ▸ hst, rfl, rfl⟩
    · exact ⟨st', hst', rfl, rfl⟩
  · rw [Store.state?_put]
    split
    · exact ⟨_, rfl⟩
    · exact ⟨st', hst'⟩

theorem forget (h : Recalls a ⟨w, s, bs, log⟩) {b : Address} (hb : b = a → s.IsOver w a) :
    Recalls a ⟨w, s.forget b, bs, log⟩ := by
  refine h.restate (h.toOrdered.forget b) (fun st hst => ?_) (fun c st hc hst hgen => ⟨st, ?_⟩)
  · rw [Store.state?_forget] at hst
    split at hst
    · cases hst
    · exact ⟨st, hst, rfl, rfl⟩
  · rw [Store.state?_forget, if_neg]
    · exact hst
    · intro hba
      exact hb hba st c hst hc hgen

theorem skip {r : BuildResult} (h : Recalls a ⟨w, s, bs, log⟩) (hr : r.address ≠ a) :
    Recalls a ⟨w, s, bs, r :: log⟩ where
  toOrdered := h.toOrdered.restate (fun _ _ => .inl) (List.Subset.refl _)
  recorded st hst := by
    refine (h.recorded st hst).imp_right ?_
    rintro ⟨r', hr', hrest⟩
    exact ⟨r', List.mem_cons_of_mem _ hr', hrest⟩
  earlier r' hr' haddr := by
    rcases List.mem_cons.mp hr' with rfl | hr'
    · exact absurd haddr hr
    · exact h.earlier r' hr' haddr
  highest r' hr' haddr := by
    rcases List.mem_cons.mp hr' with rfl | hr'
    · exact absurd haddr hr
    · exact h.highest r' hr' haddr

/-- The entry that a result is judged by is as new as all that was put on show for its load. -/
theorem version_le {r : BuildResult} {c : Chunk} {st : BuildState} {g : Nat}
    (h : Recalls a ⟨w, s, bs, log⟩) (hr : r ∈ log) (haddr : r.address = a)
    (hc : w.chunk? a = some c) (hgen : c.generation = r.generation)
    (hst : (s.state? a).getD (.fresh g) = st) : r.version ≤ st.meshedVersion := by
  obtain ⟨st', hst', -, hle⟩ := h.highest r hr haddr c hc hgen
  have hst' : s.state? a = some st' := hst'
  rw [hst'] at hst
  obtain rfl : st' = st := hst
  exact hle

/-- A result that is stored is of the present load and as new as all that were. -/
theorem store {r : BuildResult} {st : BuildState} (h : Recalls r.address ⟨w, s, bs, log⟩)
    (hr : r.done ∈ bs) (hcur : Store.IsCurrentResult w r)
    (hst : (s.state? r.address).getD (.fresh r.generation) = st)
    (hnewest : st.meshedVersion ≤ r.version)
    (hs : s'.state? r.address = some { st with meshedVersion := r.version, inFlight := false })
    {bs' : List Build} (ho : Ordered ⟨w, s', bs', r :: log⟩) :
    Recalls r.address ⟨w, s', bs', r :: log⟩ := by
  have hgen := h.entry_generation hr hcur hst
  obtain ⟨c, hc, hload⟩ := hcur
  refine ⟨ho, fun st' hst' => .inr ⟨r, List.mem_cons_self .., rfl, ?_⟩, fun r' hr' haddr => ?_,
    fun r' hr' haddr c' hc' hgen' => ?_⟩
  · obtain rfl := Option.some.inj (hs.symm.trans hst')
    exact ⟨hgen.symm, rfl⟩
  · rcases List.mem_cons.mp hr' with rfl | hr'
    · exact h.unborn r'.done hr
    · exact h.earlier r' hr' haddr
  · obtain rfl : c = c' := Option.some.inj (hc.symm.trans hc')
    refine ⟨_, hs, hgen.trans (hload.symm.trans hgen'), ?_⟩
    rcases List.mem_cons.mp hr' with rfl | hr'
    · exact Nat.le_refl _
    · exact Nat.le_trans (h.version_le hr' haddr hc hgen' hst) hnewest

theorem next (h : Recalls a x) (hn : Next m x y) : Recalls a y := by
  have hordered := h.toOrdered.next hn
  cases hn with
  | edit types e done => exact h.carry ((World.advances_of_perform h.kept done).carries h.kept)
  | @enter w s bs log b c loaded =>
    rcases s.enter_cases b c.generation with ⟨st, -, -, heq⟩ | ⟨hother, -, hstate, -⟩
    · rw [heq]
      exact h
    · by_cases hba : b = a
      · -- Nothing was put on show for the load that gets a fresh entry.
        subst hba
        refine ⟨hordered, fun st hst => .inl ?_, h.earlier, fun r hr haddr c' hc' hgen => ?_⟩
        · have hst : (s.enter b c.generation).2.state? b = some st := hst
          rw [hstate, if_pos rfl] at hst
          rw [← Option.some.inj hst]
          rfl
        · obtain rfl : c = c' := Option.some.inj (loaded.symm.trans hc')
          obtain ⟨st, hst, hload, -⟩ := h.highest r hr haddr c hc' hgen
          exact absurd (hload.trans hgen.symm) (hother st hst)
      · have hsame := (hstate a).trans (if_neg hba)
        refine h.restate hordered (fun st hst => ⟨st, ?_, rfl, rfl⟩) (fun _ st _ hst _ => ⟨st, ?_⟩)
        · rwa [hsame] at hst
        · rwa [hsame]
  | @launch w s bs log b c st snapshot loaded entry load idle captured =>
    exact h.reflag entry hordered
  | unmark b => exact h.carry (h.kept.carries_unmark b)
  | @publish w s s' bs log r stored fate =>
    cases fate with
    | stored st current entry newest =>
      by_cases hra : r.address = a
      · subst hra
        refine h.store (List.mem_cons_self ..) current entry newest ?_ hordered
        rw [Store.state?_display, Store.state?_put, if_pos rfl]
      · have hsame := (s.state?_put r.address a
          { st with meshedVersion := r.version, inFlight := false }).trans (if_neg hra)
        refine (h.skip hra).restate hordered (fun st' hst' => ⟨st', ?_, rfl, rfl⟩)
          (fun _ st' _ hst' _ => ⟨st', ?_⟩)
        · rwa [Store.state?_display, hsame] at hst'
        · rwa [Store.state?_display, hsame]
    | outdated st current entry newer =>
      exact h.reflag (Store.state?_of_newer entry newer) hordered
    | ended st gone entry load =>
      have hover := Store.isOver_of_gone gone entry load
      exact (h.forget fun hra => hra ▸ hover).reorder hordered
    | foreign gone other => exact h.reorder hordered
  | drop b ended => exact h.forget fun hba => hba ▸ ended
  | reorder perm => exact h.reorder hordered

/-- A result is stored exactly if it is of the present load and nothing newer of that load was put
on show. -/
theorem stored_iff {r : BuildResult} {stored : Bool} (h : Recalls r.address ⟨w, s, bs, log⟩)
    (hr : r.done ∈ bs) (hfate : s.Published w r stored s') :
    stored = true ↔ Store.IsCurrentResult w r ∧ ∀ r' ∈ log, r'.address = r.address →
      r'.generation = r.generation → r'.version ≤ r.version := by
  cases hfate with
  | stored st current entry newest =>
    refine iff_of_true rfl ⟨current, fun r' hr' haddr hgen => ?_⟩
    obtain ⟨c, hc, hload⟩ := current
    have hle := h.version_le hr' haddr hc (hload.trans hgen.symm) entry
    exact Nat.le_trans hle newest
  | outdated st current entry newer =>
    refine iff_of_false Bool.false_ne_true fun ⟨_, hall⟩ => ?_
    have hload := h.entry_generation hr current entry
    have hst := Store.state?_of_newer entry newer
    rcases h.recorded st hst with hzero | ⟨r', hr', haddr, hgen, hver⟩
    · rw [hzero] at newer
      exact Nat.not_lt_zero _ newer
    · have hle := hall r' hr' haddr (hgen.trans hload)
      omega
  | ended st gone entry load => exact iff_of_false Bool.false_ne_true fun hyes => gone hyes.1
  | foreign gone other => exact iff_of_false Bool.false_ne_true fun hyes => gone hyes.1

end Recalls

end Moment

/-- Nothing is stored because of a result that is turned away; a flag may fall. -/
theorem Store.Published.nothing_stored {s s' : Store} {w : World} {r : BuildResult}
    (h : s.Published w r false s') (b : Address) :
    (∀ ms, s'.mesh? b = some ms → s.mesh? b = some ms) ∧
      ∀ st, s'.state? b = some st → ∃ flag, s.state? b = some { st with inFlight := flag } := by
  cases h with
  | outdated st current entry newer =>
    refine ⟨fun _ => id, fun st' hst' => ?_⟩
    rw [state?_put] at hst'
    split at hst'
    · rename_i hab
      obtain rfl := Option.some.inj hst'
      exact ⟨st.inFlight, hab ▸ state?_of_newer entry newer⟩
    · exact ⟨st'.inFlight, hst'⟩
  | ended st gone entry load =>
    rw [mesh?_forget, state?_forget]
    split
    · refine ⟨fun _ hms => ?_, fun _ hst => ?_⟩
      · cases hms
      · cases hst
    · exact ⟨fun _ => id, fun st' hst' => ⟨st'.inFlight, hst'⟩⟩
  | foreign gone other => exact ⟨fun _ => id, fun st' hst' => ⟨st'.inFlight, hst'⟩⟩

namespace Scene

/-- What can happen where chunks may be forgotten at any time. -/
inductive Move where
  | act (action : Action)
  | forget (a : Address)

/-- The scene after a move, with the results whose meshes were put on show so far. -/
def follow (x : Scene × List BuildResult) : Move → Checked (Scene × List BuildResult)
  | .act action => do return (← x.1.perform action, x.1.stored action ++ x.2)
  | .forget a => return ({ x.1 with store := x.1.store.forget a }, x.2)

/-- A request for the chunk is made: by itself, or when its turn comes in a pass. -/
inductive Asks (s : Scene) : Store → World → Pipeline → Address → Prop where
  | alone (a : Address) : Asks s s.store s.world s.pipeline a
  | inPass (a : Address) (done rest : List Address) (pass : Store.Pass)
      (order : s.world.dirtyAddresses meshDirty = done ++ a :: rest)
      (reached : done.foldlM Store.Pass.visit ⟨{}, s.store, s.world, s.pipeline⟩ = .ok pass) :
      Asks s pass.store pass.world pass.pipeline a

variable {d : Dims} {workers budget : Nat} {m : Mesher} {s s' : Scene}
  {log log' : List BuildResult} {a : Address}

theorem keeps_of_moves {P : Moment → Prop} (step : ∀ x y, P x → Moment.Next m x y → P y)
    {moves : List Move} (forget : ∀ a, .forget a ∈ moves → ∀ w store bs log,
      P ⟨w, store, bs, log⟩ → P ⟨w, store.forget a, bs, log⟩)
    (hm : s.pipeline.mesher = m) (hs : P (s.moment m log))
    (hrun : moves.foldlM follow (s, log) = .ok (s', log')) :
    s'.pipeline.mesher = m ∧ P (s'.moment m log') := by
  induction moves generalizing s log with
  | nil =>
    obtain ⟨rfl, rfl⟩ := Prod.mk.inj (Checked.pure_eq_ok_iff.mp hrun)
    exact ⟨hm, hs⟩
  | cons move moves ih =>
    rw [List.foldlM_cons] at hrun
    obtain ⟨⟨t, tlog⟩, hmove, hrest⟩ := Checked.bind_eq_ok_iff.mp hrun
    have hlater := fun a ha => forget a (List.mem_cons_of_mem move ha)
    cases move with
    | act action =>
      obtain ⟨t', ht', hmove⟩ := Checked.bind_eq_ok_iff.mp hmove
      obtain ⟨rfl, rfl⟩ := Prod.mk.inj (Checked.pure_eq_ok_iff.mp hmove)
      obtain ⟨hmesher, hchain⟩ := chain_of_perform log hm ht'
      exact ih hlater hmesher (Moment.keeps_of_chain step hchain hs) hrest
    | forget b =>
      obtain ⟨rfl, rfl⟩ := Prod.mk.inj (Checked.pure_eq_ok_iff.mp hmove)
      exact @ih { s with store := s.store.forget b } log hlater hm
        (forget b (List.mem_cons_self ..) _ _ _ _ hs) hrest

theorem chain_of_asks {store : Store} {w : World} {p : Pipeline} (log : List BuildResult)
    (h : s.Asks store w p a) : Relation.ReflTransGen (Moment.Next m) (s.moment m log)
      ⟨w, store, buildsOf m p s.taken, log⟩ := by
  cases h with
  | alone => exact .refl
  | inPass _ done rest pass order reached => exact (chain_of_visits s.taken log reached).2

/-- Where chunks may be forgotten at any time, so that builds of one load race: a request that finds
the mesh up to date is right, and the entry of a chunk on show has the generation and version of the
result whose mesh is shown. -/
theorem upToDate_truthful (hd : d.Fits) {moves : List Move}
    (hrun : moves.foldlM follow (start d workers budget m, []) = .ok (s, log)) :
    (∀ store w p a store' p', s.Asks store w p a →
      store.request w p a = .ok (.upToDate, store', p') →
        ∃ ms, store'.mesh? a = some ms ∧ w.meshOf m a = .ok (some ms)) ∧
    ∀ a ms, s.store.mesh? a = some ms → ∃ st r, s.store.state? a = some st ∧
      log.find? (fun r => r.address = a) = some r ∧ r.meshes = ms ∧
      st.generation = r.generation ∧ st.meshedVersion = r.version := by
  have hstart : ((start d workers budget m).moment m []).Sourced := by
    intro a ms hms
    simp [moment, start, Store.empty, Store.mesh?] at hms
  obtain ⟨-, hlabelled, hsourced⟩ := keeps_of_moves (P := fun x => x.Labelled m ∧ x.Sourced)
    (fun _ _ h hn => ⟨h.1.next hn, h.2.next h.1.toOrdered hn⟩)
    (fun a _ _ _ _ _ h => ⟨h.1.forget a, h.2.forget a⟩) rfl
    ⟨labelled_start hd workers budget m, hstart⟩ hrun
  refine ⟨fun store w p a store' p' hask hreq => ?_, hsourced⟩
  have hthen : Moment.Labelled m ⟨w, store, buildsOf m p s.taken, log⟩ :=
    Moment.keeps_of_chain (fun _ _ h hn => h.next hn) (chain_of_asks log hask) hlabelled
  exact hthen.upToDate (Store.requested_of_request hreq)

/-- A chunk is loaded and asked for. -/
def asked : List Move :=
  [.act (.edit .empty (.load ⟨0, 0, 0⟩ (.ofGrid (.blank (.cube 1))))),
    .act (.edit .empty .resolveDirtyRamps), .act .schedule]

/-- The cell of the chunk is written and the chunk is asked for again; the second build comes in and
is published, and then the first comes in. -/
def race (v : Voxel) : List Move :=
  [.act (.edit .empty (.setVoxel ⟨0, 0, 0⟩ v)), .act (.edit .empty .resolveDirtyRamps),
    .act .schedule, .act .receive, .act .receive, .act (.handIn 1), .act .drain, .act (.publish 0),
    .act (.handIn 0), .act .drain]

def overtaking : List Move := race .empty

/-- A chunk is forgotten while it is being built, a voxel is written to it, and the older of two
builds is published last. It brings a mesh without the voxel; the mesh on show has its six faces.
-/
theorem upToDate_truthful_raced :
    ∃ t early s log store p ms st r,
      (asked ++ [Move.forget ⟨0, 0, 0⟩] ++ race (.ofKind 1)).foldlM follow
        (start (.cube 1) 2 4 .pillarMesher, []) = .ok (t, early) ∧
      t.taken.map (fun r => r.meshes.quadCount) = [0] ∧
      [Move.act (.publish 0)].foldlM follow (t, early) = .ok (s, log) ∧
      s.store.request s.world s.pipeline ⟨0, 0, 0⟩ = .ok (.upToDate, store, p) ∧
      store.mesh? ⟨0, 0, 0⟩ = some ms ∧ ms.quadCount = 6 ∧
      s.world.meshOf .pillarMesher ⟨0, 0, 0⟩ = .ok (some ms) ∧
      s.store.state? ⟨0, 0, 0⟩ = some st ∧ st.generation = r.generation ∧
      st.meshedVersion = r.version ∧
      log.find? (fun r => r.address = (⟨0, 0, 0⟩ : Address)) = some r := by
  obtain ⟨⟨t, early⟩, hrace, hold⟩ := Checked.exists_of_passes
    (x := (asked ++ [Move.forget ⟨0, 0, 0⟩] ++ race (.ofKind 1)).foldlM follow
      (start (.cube 1) 2 4 .pillarMesher, []))
    (f := fun y => y.1.taken.map (fun r => r.meshes.quadCount) == [0]) (by decide +kernel)
  obtain ⟨⟨s, log⟩, hrun, hend⟩ := Checked.exists_of_passes
    (x := (asked ++ [Move.forget ⟨0, 0, 0⟩] ++ race (.ofKind 1) ++ [Move.act (.publish 0)]).foldlM
      follow (start (.cube 1) 2 4 .pillarMesher, []))
    (f := fun y => (y.1.store.mesh? ⟨0, 0, 0⟩).isSome &&
      Checked.passes (y.1.store.request y.1.world y.1.pipeline ⟨0, 0, 0⟩) fun z =>
        z.1 = .upToDate && (z.2.1.mesh? ⟨0, 0, 0⟩).any fun ms => ms.quadCount = 6)
    (by decide +kernel)
  have hlast := hrun
  rw [List.foldlM_append, hrace, Checked.ok_bind] at hlast
  obtain ⟨hshown, hasked⟩ := (Bool.and_eq_true _ _).mp hend
  obtain ⟨shown, hshown⟩ := Option.isSome_iff_exists.mp hshown
  obtain ⟨⟨o, store, p⟩, hreq, hasked⟩ := Checked.exists_of_passes hasked
  obtain ⟨ho, hsix⟩ := (Bool.and_eq_true _ _).mp hasked
  obtain rfl : o = .upToDate := of_decide_eq_true ho
  obtain ⟨ms', hms', hsix⟩ := (Option.any_eq_true _ _).mp hsix
  obtain ⟨htrue, hsource⟩ := upToDate_truthful (by decide) hrun
  obtain ⟨ms, hms, hmesh⟩ := htrue _ _ _ _ _ _ (.alone _) hreq
  obtain rfl : ms' = ms := Option.some.inj (hms'.symm.trans hms)
  obtain ⟨st, r, hst, hfind, -, hgen, hver⟩ := hsource _ shown hshown
  exact ⟨t, early, s, log, store, p, ms', st, r, hrace, eq_of_beq hold, hlast, hreq, hms,
    of_decide_eq_true hsix, hmesh, hst, hgen, hver, hfind⟩

theorem exists_follow {actions : List Action} {s s' : Scene}
    (h : actions.foldlM Scene.perform s = .ok s') (log : List BuildResult) :
    ∃ log', (actions.map Move.act).foldlM follow (s, log) = .ok (s', log') := by
  induction actions generalizing s log with
  | nil =>
    obtain rfl := Checked.pure_eq_ok_iff.mp h
    exact ⟨log, rfl⟩
  | cons action actions ih =>
    rw [List.foldlM_cons] at h
    obtain ⟨t, ht, h⟩ := Checked.bind_eq_ok_iff.mp h
    obtain ⟨log', hlog'⟩ := ih h (s.stored action ++ log)
    refine ⟨log', ?_⟩
    rw [List.map_cons, List.foldlM_cons, follow, ht]
    exact hlog'

/-- In wide chunks a request may find a mesh up to date that is not: the voxel whose left face is to
be drawn is in the chunk at 0, and the write that uncovers the face asks for the chunks at 1 and 2.
-/
theorem upToDate_untrue_in_wide_chunks : ∃ s log store p ms ms',
    (borderWrite.map Move.act).foldlM follow (start .wide 1 1 .pillarMesher, []) = .ok (s, log) ∧
      s.store.request s.world s.pipeline ⟨0, 0, 0⟩ = .ok (.upToDate, store, p) ∧
      store.mesh? ⟨0, 0, 0⟩ = some ms ∧
      s.world.meshOf .pillarMesher ⟨0, 0, 0⟩ = .ok (some ms') ∧ ms' ≠ ms := by
  obtain ⟨mesh, hwrite, hnone⟩ := run_borderWrite
  obtain ⟨log, hrun⟩ := exists_follow hwrite []
  obtain ⟨ms', hmesh', hne⟩ := exists_newer_mesh hnone meshDirty (meshDirty ||| rampDirty) 3 3
  exact ⟨_, log, _, _, ⟨.whole mesh, []⟩, ms', hrun, Store.request_of_shown rfl rfl rfl, rfl,
    hmesh', hne⟩

/-- After a chunk is forgotten, a result for it that arrives is stored exactly if it is of the load
that the world holds and no newer one of that load was stored since; that the build set out before
does not matter. A stored result brings back mesh and entry, and one that is turned away adds
nothing. -/
theorem forgotten_build_stored_iff {before after : List Move} {early : List BuildResult}
    (hbefore : before.foldlM follow (start d workers budget m, []) = .ok (s, early))
    (hafter : after.foldlM follow ({ s with store := s.store.forget a }, []) = .ok (s', log))
    (hlast : .forget a ∉ after) {r : BuildResult} (hr : r ∈ s'.pipeline.finished ++ s'.taken)
    (haddr : r.address = a) :
    ((s'.store.publish s'.world r).1 = true ↔ Store.IsCurrentResult s'.world r ∧
      ∀ r' ∈ log, r'.address = a → r'.generation = r.generation → r'.version ≤ r.version) ∧
    ((s'.store.publish s'.world r).1 = true →
      (s'.store.publish s'.world r).2.mesh? a = some r.meshes ∧
      (s'.store.publish s'.world r).2.state? a = some ⟨r.version, r.generation, false⟩) ∧
    ((s'.store.publish s'.world r).1 = false → ∀ b,
      (∀ ms, (s'.store.publish s'.world r).2.mesh? b = some ms → s'.store.mesh? b = some ms) ∧
      ∀ st, (s'.store.publish s'.world r).2.state? b = some st →
        ∃ flag, s'.store.state? b = some { st with inFlight := flag }) := by
  subst haddr
  obtain ⟨hmesher, hordered⟩ := keeps_of_moves (m := m) (P := Moment.Ordered)
    (fun _ _ h hn => h.next hn) (fun a _ _ _ _ _ h => h.forget a) rfl
    (ordered_start d workers budget m) hbefore
  obtain ⟨-, hrecalls⟩ := keeps_of_moves (m := m) (P := Moment.Recalls r.address)
    (s := { s with store := s.store.forget r.address }) (fun _ _ h hn => h.next hn)
    (fun b hb _ _ _ _ h => h.forget fun hba => absurd (hba ▸ hb) hlast) hmesher
    (Moment.Recalls.of_forget hordered r.address) hafter
  have hdone : r.done ∈ buildsOf m s'.pipeline s'.taken :=
    List.mem_append_right _ (List.mem_map_of_mem hr)
  have hfate := s'.store.published s'.world r
  refine ⟨hrecalls.stored_iff hdone hfate, fun hyes => ?_, fun hno => ?_⟩
  · rw [hyes] at hfate
    exact hrecalls.brings_back hdone hfate
  · rw [hno] at hfate
    exact hfate.nothing_stored

/-- The older of two builds arrives when the newer is on show, and is turned away. -/
theorem forgotten_build_stored_iff_overtaken :
    ∃ s early t log r, asked.foldlM follow
        (start (.cube 1) 2 4 (.ofSettings Noise.still .empty .empty {}), []) = .ok (s, early) ∧
      overtaking.foldlM follow ({ s with store := s.store.forget ⟨0, 0, 0⟩ }, []) = .ok (t, log) ∧
      .forget ⟨0, 0, 0⟩ ∉ overtaking ∧ r ∈ t.pipeline.finished ++ t.taken ∧
      r.address = ⟨0, 0, 0⟩ ∧ ¬ (t.store.publish t.world r).1 = true := by
  obtain ⟨⟨s, early⟩, hbefore, hrest⟩ := Checked.exists_of_passes
    (x := asked.foldlM follow (start (.cube 1) 2 4 (.ofSettings Noise.still .empty .empty {}), []))
    (f := fun y => Checked.passes
      (overtaking.foldlM follow ({ y.1 with store := y.1.store.forget ⟨0, 0, 0⟩ }, []))
      fun z => z.1.taken.any fun r => r.address = ⟨0, 0, 0⟩ && z.2.any fun r' =>
        r'.address = ⟨0, 0, 0⟩ && r'.generation = r.generation && r.version < r'.version)
    (by decide +kernel)
  obtain ⟨⟨t, log⟩, hafter, hnewer⟩ := Checked.exists_of_passes hrest
  simp only [List.any_eq_true, Bool.and_eq_true, decide_eq_true_eq] at hnewer
  obtain ⟨r, hr, haddr, r', hr', ⟨haddr', hgen⟩, hnewer⟩ := hnewer
  have hlast : .forget ⟨0, 0, 0⟩ ∉ overtaking := by simp [overtaking, race]
  have hr := List.mem_append_right t.pipeline.finished hr
  have hiff := (forgotten_build_stored_iff hbefore hafter hlast hr haddr).1
  refine ⟨s, early, t, log, r, hbefore, hafter, hlast, hr, haddr, fun hstored => ?_⟩
  exact absurd ((hiff.mp hstored).2 r' hr' haddr' hgen) (Nat.not_le_of_lt hnewer)

/-- A build that is on its way when its chunk is forgotten is not discarded: its result is stored
when it arrives. -/
theorem forgotten_build_comes_back :
    ∃ s early t log r, asked.foldlM follow
        (start (.cube 1) 2 4 (.ofSettings Noise.still .empty .empty {}), []) = .ok (s, early) ∧
      s.pipeline.queued.map (fun task => (task.address, task.generation)) = [(⟨0, 0, 0⟩, 1)] ∧
      [.act .receive, .act (.handIn 0), .act .drain].foldlM follow
        ({ s with store := s.store.forget ⟨0, 0, 0⟩ }, []) = .ok (t, log) ∧
      r ∈ t.taken ∧ r.address = ⟨0, 0, 0⟩ ∧ (t.store.publish t.world r).1 = true ∧
      ((t.store.publish t.world r).2.mesh? ⟨0, 0, 0⟩).isSome = true := by
  obtain ⟨⟨s, early⟩, hbefore, hrest⟩ := Checked.exists_of_passes
    (x := asked.foldlM follow (start (.cube 1) 2 4 (.ofSettings Noise.still .empty .empty {}), []))
    (f := fun y =>
      y.1.pipeline.queued.map (fun task => (task.address, task.generation)) = [(⟨0, 0, 0⟩, 1)] &&
      Checked.passes ([.act .receive, .act (.handIn 0), .act .drain].foldlM follow
        ({ y.1 with store := y.1.store.forget ⟨0, 0, 0⟩ }, []))
      fun z => z.1.taken.any fun r => r.address = ⟨0, 0, 0⟩ &&
        (z.1.store.publish z.1.world r).1 &&
        ((z.1.store.publish z.1.world r).2.mesh? ⟨0, 0, 0⟩).isSome)
    (by decide +kernel)
  obtain ⟨hqueued, hrest⟩ := (Bool.and_eq_true _ _).mp hrest
  obtain ⟨⟨t, log⟩, hafter, hstored⟩ := Checked.exists_of_passes hrest
  simp only [List.any_eq_true, Bool.and_eq_true, decide_eq_true_eq] at hstored
  obtain ⟨r, hr, ⟨haddr, hstored⟩, hmesh⟩ := hstored
  exact ⟨s, early, t, log, r, hbefore, of_decide_eq_true hqueued, hafter, hr, haddr, hstored, hmesh⟩

end Scene

end VoxelScene
