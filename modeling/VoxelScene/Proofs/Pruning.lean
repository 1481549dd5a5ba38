import VoxelScene.Proofs.PublishOrder

/-!
Pruning.

Pruning goes through the entries of the store only, yet it leaves no mesh behind: a mesh is put on
show together with an entry for its chunk, and wherever an entry goes, its mesh goes with it. This
holds whatever the store is asked to do, and with whatever worlds. So pruning keeps exactly what is
known of the loads that the world holds.
-/

namespace VoxelScene

namespace Store

variable {s s' : Store} {w : World} {p p' : Pipeline} {a b : Address} {r : BuildResult}

/-! ### Calls -/

/-- What a store can be asked for. Each call brings its own world and pipeline, so that nothing is
said on what happened to them since the call before. -/
inductive Call where
  | request (w : World) (p : Pipeline) (a : Address)
  | schedule (w : World) (p : Pipeline)
  | publish (w : World) (r : BuildResult)
  | collect (w : World) (p : Pipeline)
  | forget (a : Address)
  | prune (w : World)

/-- The store after a call. -/
def serve (s : Store) : Call → Checked Store
  | .request w p a => do return (← s.request w p a).2.1
  | .schedule w p => do return (← s.schedule w p).store
  | .publish w r => return (s.publish w r).2
  | .collect w p => return (s.collect w p).2.1
  | .forget a => return s.forget a
  | .prune w => return (s.prune w).2

/-! ### Meshes have entries -/

/-- Every mesh on show has an entry. -/
def Tracked (s : Store) : Prop := ∀ a, (s.mesh? a).isSome = true → (s.state? a).isSome = true

theorem tracked_empty : empty.Tracked := fun a h => by simp [mesh?, empty] at h

namespace Tracked

theorem put (h : s.Tracked) (a : Address) (st : BuildState) : (s.put a st).Tracked := by
  intro b hb
  rw [state?_put]
  split
  · rfl
  · exact h b hb

theorem display (h : s.Tracked) (ha : (s.state? a).isSome = true) (ms : MeshSet) :
    (s.display a ms).Tracked := by
  intro b hb
  rw [state?_display]
  by_cases hab : a = b
  · exact hab ▸ ha
  · rw [mesh?_display, if_neg hab] at hb
    exact h b hb

theorem forget (h : s.Tracked) (a : Address) : (s.forget a).Tracked := by
  intro b hb
  rw [mesh?_forget] at hb
  rw [state?_forget]
  split at hb
  · cases hb
  · rename_i hab
    rw [if_neg hab]
    exact h b hb

theorem enter (h : s.Tracked) (a : Address) (g : Nat) : (s.enter a g).2.Tracked := by
  rcases s.enter_cases a g with ⟨st, -, -, hsame⟩ | ⟨-, -, hstate, hmesh⟩
  · rw [hsame]
    exact h
  · intro b hb
    rw [hstate]
    split
    · rfl
    · rename_i hab
      rw [hmesh b hab] at hb
      exact h b hb

theorem requested {o : RequestOutcome} (h : s.Tracked) (hreq : s.Requested w p a o s' p') :
    s'.Tracked := by
  cases hreq with
  | notLoaded _ | rampsPending _ _ _ => exact h
  | alreadyInFlight c _ _ _ | upToDate c _ _ _ _ | budgetExhausted c _ _ _ =>
    exact h.enter a c.generation
  | submitted c _ _ _ _ _ _ _ _ => exact (h.enter a c.generation).put a _

theorem published {stored : Bool} (h : s.Tracked) (hfate : s.Published w r stored s') :
    s'.Tracked := by
  cases hfate with
  | stored st _ _ _ =>
    refine (h.put r.address _).display ?_ r.meshes
    rw [state?_put, if_pos rfl]
    rfl
  | outdated st _ _ _ => exact h.put r.address _
  | ended st _ _ _ => exact h.forget r.address
  | foreign _ _ => exact h

theorem publishAll (h : s.Tracked) (w : World) (rs : List BuildResult) :
    (s.publishAll w rs).2.Tracked := by
  induction rs generalizing s with
  | nil => exact h
  | cons r rs ih =>
    rw [store_publishAll_cons]
    exact ih (h.published (s.published w r))

theorem forgetAll (h : s.Tracked) (as : List Address) : (as.foldl Store.forget s).Tracked := by
  induction as generalizing s with
  | nil => exact h
  | cons a as ih => exact ih (h.forget a)

theorem schedule {x : Pass} (h : s.Tracked) (hpass : s.schedule w p = .ok x) : x.store.Tracked :=
  Checked.foldlM_invariant (P := fun x => x.store.Tracked)
    (fun _ _ _ hx hvisit => by
      obtain ⟨o, hreq, -⟩ := visit_eq_ok hvisit
      exact hx.requested hreq)
    h hpass

theorem serve {call : Call} (h : s.Tracked) (hcall : s.serve call = .ok s') : s'.Tracked := by
  cases call with
  | request w p a =>
    obtain ⟨⟨o, s₁, p₁⟩, hreq, hcall⟩ := Checked.bind_eq_ok_iff.mp hcall
    obtain rfl := Checked.pure_eq_ok_iff.mp hcall
    exact h.requested (requested_of_request hreq)
  | schedule w p =>
    obtain ⟨x, hpass, hcall⟩ := Checked.bind_eq_ok_iff.mp hcall
    obtain rfl := Checked.pure_eq_ok_iff.mp hcall
    exact h.schedule hpass
  | publish w r =>
    obtain rfl := Checked.pure_eq_ok_iff.mp hcall
    exact h.published (s.published w r)
  | collect w p =>
    obtain rfl := Checked.pure_eq_ok_iff.mp hcall
    exact h.publishAll w p.finished
  | forget a =>
    obtain rfl := Checked.pure_eq_ok_iff.mp hcall
    exact h.forget a
  | prune w =>
    obtain rfl := Checked.pure_eq_ok_iff.mp hcall
    exact h.forgetAll _

theorem of_calls {calls : List Call} (h : calls.foldlM Store.serve .empty = .ok s) : s.Tracked :=
  Checked.foldlM_invariant (fun _ _ _ hs hcall => hs.serve hcall) tracked_empty h

end Tracked

/-! ### What pruning leaves -/

theorem isCurrent_iff {st : BuildState} :
    isCurrent w a st = true ↔ ∃ c, w.chunk? a = some c ∧ c.generation = st.generation := by
  simp [isCurrent, Option.any_eq_true]

theorem lookup_forgetAll (as : List Address) (b : Address) :
    (as.foldl forget s).state? b = (if b ∈ as then none else s.state? b) ∧
      (as.foldl forget s).mesh? b = if b ∈ as then none else s.mesh? b := by
  induction as generalizing s with
  | nil => exact ⟨rfl, rfl⟩
  | cons a as ih =>
    rw [List.foldl_cons, ih.1, ih.2, state?_forget, mesh?_forget]
    by_cases hab : a = b
    · subst hab
      simp
    · simp [hab, Ne.symm hab]

/-- The addresses with an entry of a load that the world does not hold. -/
def outlived (s : Store) (w : World) : List Address :=
  (s.states.toList.filter fun e => !isCurrent w e.1 e.2).map (·.1)

theorem mem_outlived :
    a ∈ s.outlived w ↔ ∃ st, s.state? a = some st ∧ isCurrent w a st = false := by
  simp only [outlived, List.mem_map, List.mem_filter, Prod.exists, Bool.not_eq_true']
  constructor
  · rintro ⟨a', st, ⟨hin, hover⟩, rfl⟩
    exact ⟨st, Std.ExtTreeMap.mem_toList_iff_getElem?_eq_some.mp hin, hover⟩
  · rintro ⟨st, hst, hover⟩
    exact ⟨a, st, ⟨Std.ExtTreeMap.mem_toList_iff_getElem?_eq_some.mpr hst, hover⟩, rfl⟩

theorem state?_prune (s : Store) (w : World) (a : Address) :
    (s.prune w).2.state? a = (s.state? a).filter (isCurrent w a) := by
  have hlookup : (s.prune w).2.state? a = if a ∈ s.outlived w then none else s.state? a :=
    (lookup_forgetAll _ a).1
  rw [hlookup]
  cases hst : s.state? a with
  | none => simp
  | some st =>
    cases hcur : isCurrent w a st <;> simp [mem_outlived, hst, hcur, Option.filter_some]

/-- A mesh stays on show unless its entry goes. -/
theorem mesh?_prune (s : Store) (w : World) (a : Address) :
    (s.prune w).2.mesh? a = if (s.state? a).all (isCurrent w a) then s.mesh? a else none := by
  have hlookup : (s.prune w).2.mesh? a = if a ∈ s.outlived w then none else s.mesh? a :=
    (lookup_forgetAll _ a).2
  rw [hlookup]
  cases hst : s.state? a with
  | none => simp [mem_outlived, hst]
  | some st => cases hcur : isCurrent w a st <;> simp [mem_outlived, hst, hcur]

theorem states_prune (s : Store) (w : World) :
    (s.prune w).2.states = s.states.filter (isCurrent w) := by
  apply Std.ExtTreeMap.ext_getElem?
  intro a
  rw [Std.ExtTreeMap.getElem?_filter']
  exact s.state?_prune w a

/-- The entries that pruning counts and those that it keeps are all there were. -/
theorem count_prune (s : Store) (w : World) :
    (s.prune w).1 + (s.prune w).2.states.size = s.states.size := by
  have hcount : (s.prune w).1 = (s.states.toList.filter fun e => !isCurrent w e.1 e.2).length :=
    List.length_map ..
  have hsplit := List.length_eq_length_filter_add (l := s.states.toList)
    fun e : Address × BuildState => isCurrent w e.1 e.2
  rw [hcount, states_prune, ← Std.ExtTreeMap.length_toList, Std.ExtTreeMap.toList_filter,
    ← Std.ExtTreeMap.length_toList]
  omega

theorem prune_of_current (h : ∀ a st, s.state? a = some st → isCurrent w a st = true) :
    s.prune w = (0, s) := by
  have hnone : s.outlived w = [] := by
    rw [List.eq_nil_iff_forall_not_mem]
    intro a ha
    obtain ⟨st, hst, hover⟩ := mem_outlived.mp ha
    exact Bool.false_ne_true (hover.symm.trans (h a st hst))
  show ((s.outlived w).length, (s.outlived w).foldl forget s) = (0, s)
  rw [hnone]
  rfl

/-! ### Every store -/

/-- In every store that calls can lead to, each mesh on show has an entry for its chunk. Pruning by
any world leaves entries and meshes of loads that the world holds and of no others, leaves what was
known of those loads as it was, returns the number of entries that went, and finds nothing to do the
second time. -/
theorem prune_keeps_exactly_current {calls : List Call}
    (h : calls.foldlM serve .empty = .ok s) (w : World) :
    (∀ a, (s.mesh? a).isSome = true → (s.state? a).isSome = true) ∧
    (∀ a st, (s.prune w).2.state? a = some st →
      ∃ c, w.chunk? a = some c ∧ c.generation = st.generation) ∧
    (∀ a, ((s.prune w).2.mesh? a).isSome = true → ∃ st c, (s.prune w).2.state? a = some st ∧
      w.chunk? a = some c ∧ c.generation = st.generation) ∧
    (∀ a st c, s.state? a = some st → w.chunk? a = some c → c.generation = st.generation →
      (s.prune w).2.state? a = some st ∧ (s.prune w).2.mesh? a = s.mesh? a) ∧
    (s.prune w).1 + (s.prune w).2.states.size = s.states.size ∧
    (s.prune w).2.prune w = (0, (s.prune w).2) := by
  have htracked := Tracked.of_calls h
  have hpruned : (s.prune w).2.Tracked := htracked.forgetAll _
  have hcurrent : ∀ a st, (s.prune w).2.state? a = some st → isCurrent w a st = true := by
    intro a st hst
    rw [state?_prune] at hst
    exact (Option.filter_eq_some_iff.mp hst).2
  refine ⟨htracked, fun a st hst => isCurrent_iff.mp (hcurrent a st hst), fun a ha => ?_,
    fun a st c hst hc hgen => ?_, s.count_prune w, prune_of_current hcurrent⟩
  · obtain ⟨st, hst⟩ := Option.isSome_iff_exists.mp (hpruned a ha)
    obtain ⟨c, hc, hgen⟩ := isCurrent_iff.mp (hcurrent a st hst)
    exact ⟨st, c, hst, hc, hgen⟩
  · have hcur : isCurrent w a st = true := isCurrent_iff.mpr ⟨c, hc, hgen⟩
    rw [state?_prune, mesh?_prune, hst]
    simp [hcur]

/-- Two chunks of one cell, the first in its first load. -/
def twoLoaded : World :=
  ⟨.cube 1, ((∅ : Std.ExtTreeMap Address Chunk).insert ⟨0, 0, 0⟩ ⟨.blank (.cube 1), 0, 2, 1⟩).insert
    ⟨1, 0, 0⟩ ⟨.blank (.cube 1), 0, 2, 2⟩, 3⟩

/-- The first of the two chunks was loaded anew. -/
def oneReloaded : World :=
  ⟨.cube 1, ((∅ : Std.ExtTreeMap Address Chunk).insert ⟨0, 0, 0⟩ ⟨.blank (.cube 1), 0, 2, 3⟩).insert
    ⟨1, 0, 0⟩ ⟨.blank (.cube 1), 0, 3, 2⟩, 4⟩

/-- Both chunks are shown before the first is loaded anew, which drops one of two meshes. -/
theorem prune_keeps_exactly_current_reloaded :
    ∃ s, [Call.publish twoLoaded ⟨⟨0, 0, 0⟩, ⟨.whole .empty, []⟩, 2, 1⟩,
        .publish twoLoaded ⟨⟨1, 0, 0⟩, ⟨.whole .empty, []⟩, 2, 2⟩].foldlM serve .empty = .ok s ∧
      s.publishedCount = 2 ∧ s.state? ⟨1, 0, 0⟩ = some ⟨2, 2, false⟩ ∧
      (s.prune oneReloaded).1 = 1 ∧
      (s.prune oneReloaded).2.mesh? ⟨0, 0, 0⟩ = none ∧
      (s.prune oneReloaded).2.state? ⟨1, 0, 0⟩ = some ⟨2, 2, false⟩ ∧
      (s.prune oneReloaded).2.mesh? ⟨1, 0, 0⟩ = s.mesh? ⟨1, 0, 0⟩ ∧
      (s.prune oneReloaded).2.prune oneReloaded = (0, (s.prune oneReloaded).2) := by
  have hrun : Checked.passes
      ([Call.publish twoLoaded ⟨⟨0, 0, 0⟩, ⟨.whole .empty, []⟩, 2, 1⟩,
        .publish twoLoaded ⟨⟨1, 0, 0⟩, ⟨.whole .empty, []⟩, 2, 2⟩].foldlM serve .empty)
      (fun s => s.publishedCount = 2 ∧ s.state? ⟨1, 0, 0⟩ = some ⟨2, 2, false⟩ ∧
        (s.prune oneReloaded).1 = 1 ∧
        (s.prune oneReloaded).2.state? ⟨0, 0, 0⟩ = none) = true := by
    decide +kernel
  obtain ⟨s, hs, htests⟩ := Checked.exists_of_passes hrun
  obtain ⟨hshown, hst, hcount, hgone⟩ := of_decide_eq_true htests
  obtain ⟨-, -, hmeshes, hkept, -, htwice⟩ := prune_keeps_exactly_current hs oneReloaded
  have hchunk : oneReloaded.chunk? ⟨1, 0, 0⟩ = some ⟨.blank (.cube 1), 0, 3, 2⟩ := by
    simp [World.chunk?, oneReloaded]
  obtain ⟨hstate, hmesh⟩ := hkept _ _ _ hst hchunk rfl
  refine ⟨s, hs, hshown, hst, hcount, ?_, hstate, hmesh, htwice⟩
  cases hleft : (s.prune oneReloaded).2.mesh? ⟨0, 0, 0⟩ with
  | none => rfl
  | some ms =>
    obtain ⟨st, c, hst, -⟩ := hmeshes ⟨0, 0, 0⟩ (by rw [hleft]; rfl)
    rw [hgone] at hst
    cases hst

end Store

end VoxelScene
