import VoxelScene.Build.Store
import VoxelScene.Proofs.WorldChunks

/-!
What the operations of a mesh store do.

Each operation is given by what can be looked up afterwards. A request has six outcomes, each with
its condition and its effect; publishing a result changes the entry at its address only; pruning
drops entries of loads that are over, and no others.
-/

namespace VoxelScene

namespace Store

variable {s s' : Store} {w : World} {p p' : Pipeline} {a b : Address}

/-! ### Entries -/

/-- The entry for a load is the one that is there, or a fresh one. -/
theorem enter_cases (s : Store) (a : Address) (g : Nat) :
    (∃ st, s.state? a = some st ∧ st.generation = g ∧ s.enter a g = (st, s)) ∨
      (∀ st, s.state? a = some st → st.generation ≠ g) ∧ (s.enter a g).1 = .fresh g ∧
        (∀ b, (s.enter a g).2.state? b = if a = b then some (.fresh g) else s.state? b) ∧
        ∀ b, a ≠ b → (s.enter a g).2.mesh? b = s.mesh? b := by
  unfold enter
  cases hst : s.state? a with
  | none =>
    refine .inr ⟨by simp, rfl, fun b => ?_, fun b _ => rfl⟩
    simp only [state?, Std.ExtTreeMap.getElem?_insert, Std.LawfulEqOrd.compare_eq_iff_eq]
  | some st =>
    by_cases hg : st.generation = g
    · exact .inl ⟨st, rfl, hg, by simp [hg]⟩
    · refine .inr ⟨fun st' h => Option.some.inj h ▸ hg, by simp [hg], fun b => ?_, fun b hb => ?_⟩
      · simp only [hg, ite_false, state?, Std.ExtTreeMap.getElem?_insert,
          Std.LawfulEqOrd.compare_eq_iff_eq]
      · simp only [hg, ite_false, mesh?, Std.ExtTreeMap.getElem?_erase,
          Std.LawfulEqOrd.compare_eq_iff_eq, hb]

theorem generation_enter (s : Store) (a : Address) (g : Nat) :
    (s.enter a g).1.generation = g := by
  rcases s.enter_cases a g with ⟨st, -, hg, h⟩ | ⟨-, h, -⟩
  · rw [h]
    exact hg
  · rw [h]
    rfl

theorem state?_enter (s : Store) (a : Address) (g : Nat) :
    (s.enter a g).2.state? a = some (s.enter a g).1 := by
  rcases s.enter_cases a g with ⟨st, hst, -, h⟩ | ⟨-, hfst, h, -⟩
  · rw [h]
    exact hst
  · rw [h, if_pos rfl, hfst]

theorem state?_forget (s : Store) (a b : Address) :
    (s.forget a).state? b = if a = b then none else s.state? b := by
  simp only [forget, state?, Std.ExtTreeMap.getElem?_erase, Std.LawfulEqOrd.compare_eq_iff_eq]

theorem mesh?_forget (s : Store) (a b : Address) :
    (s.forget a).mesh? b = if a = b then none else s.mesh? b := by
  simp only [forget, mesh?, Std.ExtTreeMap.getElem?_erase, Std.LawfulEqOrd.compare_eq_iff_eq]

/-- A fresh entry in place of another takes the mesh of that other load with it. -/
theorem mesh?_enter_self {g : Nat} (h : ∀ st, s.state? a = some st → st.generation ≠ g) :
    (s.enter a g).2.mesh? a = if (s.state? a).isSome then none else s.mesh? a := by
  unfold enter
  cases hst : s.state? a with
  | none => rfl
  | some st => simp [h st hst, mesh?]

/-- The store with this entry at an address. -/
def put (s : Store) (a : Address) (st : BuildState) : Store :=
  { s with states := s.states.insert a st }

@[simp] theorem state?_put (s : Store) (a b : Address) (st : BuildState) :
    (s.put a st).state? b = if a = b then some st else s.state? b := by
  simp only [put, state?, Std.ExtTreeMap.getElem?_insert, Std.LawfulEqOrd.compare_eq_iff_eq]

@[simp] theorem mesh?_put (s : Store) (a b : Address) (st : BuildState) :
    (s.put a st).mesh? b = s.mesh? b := rfl

/-- The store with these meshes on show at an address. -/
def display (s : Store) (a : Address) (ms : MeshSet) : Store :=
  { s with meshes := s.meshes.insert a ms }

@[simp] theorem state?_display (s : Store) (a b : Address) (ms : MeshSet) :
    (s.display a ms).state? b = s.state? b := rfl

@[simp] theorem mesh?_display (s : Store) (a b : Address) (ms : MeshSet) :
    (s.display a ms).mesh? b = if a = b then some ms else s.mesh? b := by
  simp only [display, mesh?, Std.ExtTreeMap.getElem?_insert, Std.LawfulEqOrd.compare_eq_iff_eq]

theorem inFlightCount_eq_zero (h : s.inFlightCount = 0) {st : BuildState}
    (hst : s.state? a = some st) : st.inFlight = false := by
  have hmem : (a, st) ∈ s.states.toList := Std.ExtTreeMap.mem_toList_iff_getElem?_eq_some.mpr hst
  simpa using List.countP_eq_zero.mp h _ hmem

/-! ### Requests -/

/-- The store with a build of this chunk on its way. -/
def launched (s : Store) (a : Address) (g : Nat) : Store :=
  { (s.enter a g).2 with
    states := (s.enter a g).2.states.insert a { (s.enter a g).1 with inFlight := true } }

/-- The outcomes of a request, each with its condition and the store and pipeline that it leaves.
-/
inductive Requested (s : Store) (w : World) (p : Pipeline) (a : Address) :
    RequestOutcome → Store → Pipeline → Prop where
  | notLoaded (none : w.chunk? a = none) : Requested s w p a .notLoaded s p
  | rampsPending (c : Chunk) (loaded : w.chunk? a = some c) (pending : c.isDirty rampDirty = true) :
      Requested s w p a .rampsPending s p
  | alreadyInFlight (c : Chunk) (loaded : w.chunk? a = some c)
      (resolved : c.isDirty rampDirty = false)
      (busy : (s.enter a c.generation).1.inFlight = true) :
      Requested s w p a .alreadyInFlight (s.enter a c.generation).2 p
  | upToDate (c : Chunk) (loaded : w.chunk? a = some c) (resolved : c.isDirty rampDirty = false)
      (idle : (s.enter a c.generation).1.inFlight = false)
      (shown : (s.enter a c.generation).1.meshedVersion = c.version) :
      Requested s w p a .upToDate (s.enter a c.generation).2 p
  | budgetExhausted (c : Chunk) (loaded : w.chunk? a = some c)
      (resolved : c.isDirty rampDirty = false)
      (idle : (s.enter a c.generation).1.inFlight = false) :
      Requested s w p a .budgetExhausted (s.enter a c.generation).2 p
  | submitted (c : Chunk) (snapshot : Snapshot) (p' : Pipeline) (loaded : w.chunk? a = some c)
      (resolved : c.isDirty rampDirty = false)
      (idle : (s.enter a c.generation).1.inFlight = false)
      (stale : (s.enter a c.generation).1.meshedVersion ≠ c.version)
      (captured : Snapshot.capture w a = .ok (some snapshot))
      (accepted : p.submit? ⟨a, snapshot, c.version, c.generation⟩ = some p') :
      Requested s w p a .submitted (s.launched a c.generation) p'

theorem requested_of_request {o : RequestOutcome} (h : s.request w p a = .ok (o, s', p')) :
    Requested s w p a o s' p' := by
  unfold request at h
  split at h
  · rename_i hnone
    obtain ⟨rfl, rfl, rfl⟩ : .notLoaded = o ∧ s = s' ∧ p = p' := by
      simpa using Checked.pure_eq_ok_iff.mp h
    exact .notLoaded hnone
  · rename_i c hc
    split at h
    · rename_i hramp
      obtain ⟨rfl, rfl, rfl⟩ : .rampsPending = o ∧ s = s' ∧ p = p' := by
        simpa using Checked.pure_eq_ok_iff.mp h
      exact .rampsPending c hc hramp
    · rename_i hramp
      have hclean : c.isDirty rampDirty = false := by simpa using hramp
      dsimp only at h
      split at h
      · rename_i hbusy
        obtain ⟨rfl, rfl, rfl⟩ := by simpa using Checked.pure_eq_ok_iff.mp h
        exact .alreadyInFlight c hc hclean hbusy
      · rename_i hbusy
        have hidle : (s.enter a c.generation).1.inFlight = false := by simpa using hbusy
        split at h
        · rename_i hshown
          obtain ⟨rfl, rfl, rfl⟩ := by simpa using Checked.pure_eq_ok_iff.mp h
          exact .upToDate c hc hclean hidle (by simpa [BuildState.isStale] using hshown)
        · rename_i hstale
          obtain ⟨snapshot?, hcapture, h⟩ := Checked.bind_eq_ok_iff.mp h
          cases snapshot? with
          | none =>
            simp only [Snapshot.capture, hc] at hcapture
            obtain ⟨ns, -, hsome⟩ := Checked.bind_eq_ok_iff.mp hcapture
            cases Checked.pure_eq_ok_iff.mp hsome
          | some snapshot =>
            dsimp only at h
            split at h
            · obtain ⟨rfl, rfl, rfl⟩ := by simpa using Checked.pure_eq_ok_iff.mp h
              exact .budgetExhausted c hc hclean hidle
            · rename_i p₁ haccept
              obtain ⟨rfl, rfl, rfl⟩ := by simpa using Checked.pure_eq_ok_iff.mp h
              exact .submitted c snapshot p₁ hc hclean hidle
                (by simpa [BuildState.isStale] using hstale) hcapture haccept

theorem request_of_shown {c : Chunk} (hc : w.chunk? a = some c)
    (hclean : c.isDirty rampDirty = false)
    (hst : s.state? a = some ⟨c.version, c.generation, false⟩) :
    s.request w p a = .ok (.upToDate, s, p) := by
  have henter : s.enter a c.generation = (⟨c.version, c.generation, false⟩, s) := by
    simp [enter, hst]
  simp [request, hc, hclean, henter, BuildState.isStale, pure, Except.pure]

theorem Requested.resolved_of_settles {o : RequestOutcome} (h : Requested s w p a o s' p')
    (hs : o.settles = true) : ∃ c, w.chunk? a = some c ∧ c.isDirty rampDirty = false := by
  cases h with
  | upToDate c hc hclean => exact ⟨c, hc, hclean⟩
  | submitted c _ _ hc hclean => exact ⟨c, hc, hclean⟩
  | notLoaded | rampsPending | alreadyInFlight | budgetExhausted => cases hs

/-- One visit of a pass: a request, after which the chunk's mesh mark is cleared if it is settled.
-/
theorem visit_eq_ok {x y : Pass} (h : x.visit a = .ok y) :
    ∃ o, Requested x.store x.world x.pipeline a o y.store y.pipeline ∧
      y.world = if o.settles then x.world.unmark a else x.world := by
  obtain ⟨⟨o, s, p⟩, hreq, h⟩ := Checked.bind_eq_ok_iff.mp h
  obtain rfl := Checked.pure_eq_ok_iff.mp h
  exact ⟨o, requested_of_request hreq, rfl⟩

/-! ### Fates of a result -/

def IsCurrentResult (w : World) (r : BuildResult) : Prop :=
  ∃ c, w.chunk? r.address = some c ∧ c.generation = r.generation

/-- The fates of a result, each with its condition and the store that it leaves. -/
inductive Published (s : Store) (w : World) (r : BuildResult) : Bool → Store → Prop where
  | stored (st : BuildState) (current : IsCurrentResult w r)
      (entry : (s.state? r.address).getD (.fresh r.generation) = st)
      (newest : st.meshedVersion ≤ r.version) :
      Published s w r true ((s.put r.address
        { st with meshedVersion := r.version, inFlight := false }).display r.address r.meshes)
  | outdated (st : BuildState) (current : IsCurrentResult w r)
      (entry : (s.state? r.address).getD (.fresh r.generation) = st)
      (newer : r.version < st.meshedVersion) :
      Published s w r false (s.put r.address { st with inFlight := false })
  | ended (st : BuildState) (gone : ¬ IsCurrentResult w r) (entry : s.state? r.address = some st)
      (load : st.generation = r.generation) : Published s w r false (s.forget r.address)
  | foreign (gone : ¬ IsCurrentResult w r)
      (other : ∀ st, s.state? r.address = some st → st.generation ≠ r.generation) :
      Published s w r false s

theorem published (s : Store) (w : World) (r : BuildResult) :
    Published s w r (s.publish w r).1 (s.publish w r).2 := by
  unfold publish
  split
  · rename_i hany
    obtain ⟨c, hc, hgen⟩ := (Option.any_eq_true _ _).mp hany
    have hcur : IsCurrentResult w r := ⟨c, hc, by simpa using hgen⟩
    dsimp only
    split
    · rename_i hnewer
      exact .outdated _ hcur rfl hnewer
    · rename_i hnewest
      exact .stored _ hcur rfl (by omega)
  · rename_i hany
    have hgone : ¬ IsCurrentResult w r := by
      rintro ⟨c, hc, hgen⟩
      exact hany ((Option.any_eq_true _ _).mpr ⟨c, hc, by simp [hgen]⟩)
    split
    · rename_i hsame
      obtain ⟨st, hst, hgen⟩ := (Option.any_eq_true _ _).mp hsame
      exact .ended st hgone hst (by simpa using hgen)
    · rename_i hsame
      refine .foreign hgone fun st hst hgen => hsame ?_
      exact (Option.any_eq_true _ _).mpr ⟨st, hst, by simp [hgen]⟩

theorem entry_cases {g : Nat} {st : BuildState} (h : (s.state? a).getD (.fresh g) = st) :
    s.state? a = some st ∨ s.state? a = none ∧ st = .fresh g := by
  cases hentry : s.state? a with
  | none =>
    rw [hentry] at h
    exact .inr ⟨rfl, h.symm⟩
  | some st₀ =>
    rw [hentry] at h
    exact .inl (congrArg some h)

theorem generation_of_entry {g : Nat} {st : BuildState}
    (hown : ∀ st, s.state? a = some st → st.generation = g)
    (h : (s.state? a).getD (.fresh g) = st) : st.generation = g := by
  rcases entry_cases h with hst | ⟨-, rfl⟩
  · exact hown st hst
  · rfl

/-- Only an entry that is there can be newer than a result. -/
theorem state?_of_newer {r : BuildResult} {st : BuildState}
    (hst : (s.state? r.address).getD (.fresh r.generation) = st)
    (hnewer : r.version < st.meshedVersion) : s.state? r.address = some st := by
  rcases entry_cases hst with hentry | ⟨-, rfl⟩
  · exact hentry
  · exact absurd hnewer (Nat.not_lt_zero _)

theorem Published.on_show {r : BuildResult} (h : s.Published w r true s') :
    ∃ st, IsCurrentResult w r ∧ (s.state? r.address).getD (.fresh r.generation) = st ∧
      st.meshedVersion ≤ r.version ∧
      s'.state? r.address = some ⟨r.version, st.generation, false⟩ ∧
      s'.mesh? r.address = some r.meshes := by
  cases h with
  | stored st current entry newest =>
    refine ⟨st, current, entry, newest, ?_, ?_⟩
    · rw [state?_display, state?_put, if_pos rfl]
    · rw [mesh?_display, if_pos rfl]

/-- A result of the present load is turned away for one reason only. -/
theorem Published.outdated_of_current {r : BuildResult} (h : s.Published w r false s')
    (hcur : IsCurrentResult w r) : ∃ st, s.state? r.address = some st ∧
      r.version < st.meshedVersion ∧ s'.state? r.address = some { st with inFlight := false } := by
  cases h with
  | outdated st current entry newer =>
    refine ⟨st, state?_of_newer entry newer, newer, ?_⟩
    rw [state?_put, if_pos rfl]
  | ended st gone entry load => exact absurd hcur gone
  | foreign gone other => exact absurd hcur gone

/-! ### Pruning -/

/-- What the store knows of the chunk is about a load that is over. -/
def IsOver (s : Store) (w : World) (a : Address) : Prop :=
  ∀ st c, s.state? a = some st → w.chunk? a = some c → st.generation ≠ c.generation

/-- Forgetting leaves it true of the other entries that their loads are over. -/
theorem IsOver.forget (h : s.IsOver w a) (b : Address) : (s.forget b).IsOver w a := by
  intro st c hst hc
  rw [state?_forget] at hst
  split at hst
  · cases hst
  · exact h st c hst hc

theorem isOver_of_gone {r : BuildResult} {st : BuildState} (hgone : ¬ IsCurrentResult w r)
    (hst : s.state? r.address = some st) (hload : st.generation = r.generation) :
    s.IsOver w r.address := by
  intro st' c hst' hc hgen
  obtain rfl : st = st' := Option.some.inj (hst.symm.trans hst')
  exact hgone ⟨c, hc, hgen.symm.trans hload⟩

theorem prune_eq (s : Store) (w : World) :
    ∃ as : List Address, (s.prune w).2 = as.foldl Store.forget s ∧ ∀ a ∈ as, s.IsOver w a := by
  refine ⟨_, rfl, fun a ha st c hst hc hgen => ?_⟩
  obtain ⟨⟨a', st'⟩, hmem, rfl⟩ := List.mem_map.mp ha
  obtain ⟨hin, hover⟩ := List.mem_filter.mp hmem
  have hst' := Std.ExtTreeMap.mem_toList_iff_getElem?_eq_some.mp hin
  obtain rfl : st' = st := Option.some.inj (hst'.symm.trans hst)
  simp [isCurrent, hc, hgen] at hover

end Store

end VoxelScene
