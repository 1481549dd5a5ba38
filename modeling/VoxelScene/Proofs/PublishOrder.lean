import VoxelScene.Proofs.SceneSteps

/-!
Results in any order.

Workers finish when they finish, so the results for a chunk come in any order, and results of
earlier loads may come between them. The order leaves no trace: a store that knows of no other load
shows the newest result of the present load, unless it showed a newer version already, and results
of other loads pass without effect.
-/

namespace VoxelScene

namespace Store

variable {s s' : Store} {w : World} {a b : Address} {c : Chunk} {r : BuildResult}
  {rs : List BuildResult}

theorem ext_lookup (hstate : ∀ a, s.state? a = s'.state? a) (hmesh : ∀ a, s.mesh? a = s'.mesh? a) :
    s = s' := by
  obtain ⟨states, meshes⟩ := s
  obtain ⟨states', meshes'⟩ := s'
  obtain rfl : states = states' := Std.ExtTreeMap.ext_getElem? fun {a} => hstate a
  obtain rfl : meshes = meshes' := Std.ExtTreeMap.ext_getElem? fun {a} => hmesh a
  rfl

/-- What is known of the chunk is about this load, if anything is. -/
def KnowsOnly (s : Store) (a : Address) (generation : Nat) : Prop :=
  ∀ st, s.state? a = some st → st.generation = generation

/-- The version of the chunk that is on show; 0 while none is. -/
def shownVersion (s : Store) (a : Address) : Nat :=
  ((s.state? a).map BuildState.meshedVersion).getD 0

theorem meshedVersion_of_entry {g : Nat} {st : BuildState}
    (h : (s.state? a).getD (.fresh g) = st) : st.meshedVersion = s.shownVersion a := by
  rw [shownVersion]
  rcases entry_cases h with hst | ⟨hst, rfl⟩
  · rw [hst]
    rfl
  · rw [hst]
    rfl

/-! ### One result -/

theorem publish_foreign (hc : w.chunk? r.address = some c)
    (hs : s.KnowsOnly r.address c.generation) (hr : r.generation ≠ c.generation) :
    s.publish w r = (false, s) := by
  have hload : ((w.chunk? r.address).any fun c => c.generation == r.generation) = false := by
    simp [hc, Ne.symm hr]
  have hentry : ((s.state? r.address).any fun st => st.generation == r.generation) = false := by
    cases hst : s.state? r.address with
    | none => rfl
    | some st => simp [hs st hst, Ne.symm hr]
  simp [publish, hload, hentry]

/-- A result of the present load goes on show unless something newer is. Either way the build is no
longer on its way. -/
theorem Published.own {stored : Bool} (h : s.Published w r stored s')
    (hc : w.chunk? r.address = some c) (hs : s.KnowsOnly r.address c.generation)
    (hr : r.generation = c.generation) :
    s'.state? r.address =
        some ⟨max (s.shownVersion r.address) r.version, c.generation, false⟩ ∧
      s'.mesh? r.address =
        if s.shownVersion r.address ≤ r.version then some r.meshes else s.mesh? r.address := by
  have hcur : IsCurrentResult w r := ⟨c, hc, hr.symm⟩
  cases h with
  | stored st current entry newest =>
    have hload := generation_of_entry (hr ▸ hs) entry
    rw [meshedVersion_of_entry entry] at newest
    constructor
    · rw [state?_display, state?_put, if_pos rfl, Nat.max_eq_right newest, ← hr, ← hload]
    · rw [mesh?_display, if_pos rfl, if_pos newest]
  | outdated st current entry newer =>
    have hload := generation_of_entry (hr ▸ hs) entry
    have hshown := meshedVersion_of_entry entry
    rw [hshown] at newer
    constructor
    · rw [state?_put, if_pos rfl, Nat.max_eq_left (Nat.le_of_lt newer), ← hr, ← hload, ← hshown]
    · rw [mesh?_put, if_neg (Nat.not_le_of_lt newer)]
  | ended st gone entry load => exact absurd hcur gone
  | foreign gone other => exact absurd hcur gone

theorem Published.elsewhere {stored : Bool} (h : s.Published w r stored s') (hb : r.address ≠ b) :
    s'.state? b = s.state? b ∧ s'.mesh? b = s.mesh? b := by
  cases h <;>
    simp only [state?_display, state?_put, state?_forget, mesh?_display, mesh?_put, mesh?_forget,
      hb, if_false, and_self]

theorem knowsOnly_publish (hc : w.chunk? r.address = some c)
    (hs : s.KnowsOnly r.address c.generation) :
    (s.publish w r).2.KnowsOnly r.address c.generation := by
  by_cases hr : r.generation = c.generation
  · intro st hst
    rw [((s.published w r).own hc hs hr).1] at hst
    obtain rfl := Option.some.inj hst
    rfl
  · rw [publish_foreign hc hs hr]
    exact hs

/-- A result older than what is on show changes nothing once no build is on its way. -/
theorem publish_older {v : Nat} (hc : w.chunk? r.address = some c)
    (hst : s.state? r.address = some ⟨v, c.generation, false⟩) (hr : r.generation = c.generation)
    (hold : r.version < v) : (s.publish w r).2 = s := by
  have hs : s.KnowsOnly r.address c.generation := by
    intro st hst'
    obtain rfl := Option.some.inj (hst.symm.trans hst')
    rfl
  have hshown : s.shownVersion r.address = v := by
    rw [shownVersion, hst]
    rfl
  obtain ⟨hstate, hmesh⟩ := (s.published w r).own hc hs hr
  rw [hshown, Nat.max_eq_left (Nat.le_of_lt hold)] at hstate
  rw [hshown, if_neg (Nat.not_le_of_lt hold)] at hmesh
  apply ext_lookup
  · intro b
    by_cases hb : r.address = b
    · rw [← hb, hstate, hst]
    · exact ((s.published w r).elsewhere hb).1
  · intro b
    by_cases hb : r.address = b
    · rw [← hb, hmesh]
    · exact ((s.published w r).elsewhere hb).2

/-! ### Lists of results -/

@[simp] theorem store_publishAll_cons (s : Store) (w : World) (r : BuildResult)
    (rs : List BuildResult) :
    (s.publishAll w (r :: rs)).2 = ((s.publish w r).2.publishAll w rs).2 := by
  rw [Scene.publishAll_eq, Scene.publishAll_eq, List.foldl_cons]

theorem publishAll_elsewhere (h : ∀ r ∈ rs, r.address ≠ b) :
    (s.publishAll w rs).2.state? b = s.state? b ∧ (s.publishAll w rs).2.mesh? b = s.mesh? b := by
  induction rs generalizing s with
  | nil => exact ⟨rfl, rfl⟩
  | cons r rs ih =>
    obtain ⟨hstate, hmesh⟩ := (s.published w r).elsewhere (h r (List.mem_cons_self ..))
    obtain ⟨hstate', hmesh'⟩ := ih (s := (s.publish w r).2)
      fun r' hr' => h r' (List.mem_cons_of_mem _ hr')
    rw [store_publishAll_cons]
    exact ⟨hstate'.trans hstate, hmesh'.trans hmesh⟩

/-- The results of one load, in their order. -/
def ofLoad (generation : Nat) (rs : List BuildResult) : List BuildResult :=
  rs.filter fun r => r.generation = generation

theorem mem_ofLoad {g : Nat} : r ∈ ofLoad g rs ↔ r ∈ rs ∧ r.generation = g := by
  simp [ofLoad]

/-- Results of other loads could as well not have come. -/
theorem publishAll_ofLoad (hc : w.chunk? a = some c) (hs : s.KnowsOnly a c.generation)
    (haddr : ∀ r ∈ rs, r.address = a) :
    (s.publishAll w rs).2 = (s.publishAll w (ofLoad c.generation rs)).2 := by
  induction rs generalizing s with
  | nil => rfl
  | cons r rs ih =>
    obtain rfl := haddr r (List.mem_cons_self ..)
    have hrest := ih (knowsOnly_publish hc hs) fun r' hr' => haddr r' (List.mem_cons_of_mem _ hr')
    rw [store_publishAll_cons, hrest]
    by_cases hr : r.generation = c.generation
    · simp [ofLoad, hr]
    · simp [ofLoad, hr, publish_foreign hc hs hr]

theorem publishAll_older {v : Nat} (hc : w.chunk? a = some c) (haddr : ∀ r ∈ rs, r.address = a)
    (hst : s.state? a = some ⟨v, c.generation, false⟩)
    (hload : ∀ r ∈ rs, r.generation = c.generation) (hold : ∀ r ∈ rs, r.version < v) :
    (s.publishAll w rs).2 = s := by
  induction rs with
  | nil => rfl
  | cons r rs ih =>
    obtain rfl := haddr r (List.mem_cons_self ..)
    have hfirst := publish_older hc hst (hload r (List.mem_cons_self ..))
      (hold r (List.mem_cons_self ..))
    rw [store_publishAll_cons, hfirst]
    exact ih (fun r' hr' => haddr r' (List.mem_cons_of_mem _ hr'))
      (fun r' hr' => hload r' (List.mem_cons_of_mem _ hr'))
      fun r' hr' => hold r' (List.mem_cons_of_mem _ hr')

/-- Of the results of one load only the newest leaves a trace, and only if nothing newer was on
show. -/
theorem publishAll_newest (hc : w.chunk? a = some c) (hs : s.KnowsOnly a c.generation)
    (haddr : ∀ r ∈ rs, r.address = a) (hload : ∀ r ∈ rs, r.generation = c.generation)
    (hdistinct : (rs.map BuildResult.version).Nodup) (hr : r ∈ rs)
    (hnewest : ∀ r' ∈ rs, r'.version ≤ r.version) :
    (s.publishAll w rs).2.state? a = some ⟨max (s.shownVersion a) r.version, c.generation, false⟩ ∧
      (s.publishAll w rs).2.mesh? a =
        if s.shownVersion a ≤ r.version then some r.meshes else s.mesh? a := by
  induction rs generalizing s with
  | nil => cases hr
  | cons first rs ih =>
    obtain rfl := haddr first (List.mem_cons_self ..)
    have haddr' : ∀ r' ∈ rs, r'.address = first.address := fun r' hr' =>
      haddr r' (List.mem_cons_of_mem _ hr')
    have hload' : ∀ r' ∈ rs, r'.generation = c.generation := fun r' hr' =>
      hload r' (List.mem_cons_of_mem _ hr')
    obtain ⟨hstate, hmesh⟩ := (s.published w first).own hc hs (hload first (List.mem_cons_self ..))
    rw [List.map_cons, List.nodup_cons] at hdistinct
    rw [store_publishAll_cons]
    rcases List.mem_cons.mp hr with rfl | hr
    · -- The newest comes first: whatever follows is older than what is on show by then.
      have hold : ∀ r' ∈ rs, r'.version < max (s.shownVersion r.address) r.version := by
        intro r' hr'
        have hle := hnewest r' (List.mem_cons_of_mem _ hr')
        have hne : r'.version ≠ r.version := by
          intro heq
          exact hdistinct.1 (heq ▸ List.mem_map_of_mem hr')
        omega
      rw [publishAll_older hc haddr' hstate hload' hold]
      exact ⟨hstate, hmesh⟩
    · -- The newest is still to come, and the first result is no newer than it.
      have hle := hnewest first (List.mem_cons_self ..)
      have hshown : (s.publish w first).2.shownVersion first.address =
          max (s.shownVersion first.address) first.version := by
        rw [shownVersion, hstate]
        rfl
      obtain ⟨hstate', hmesh'⟩ := ih (knowsOnly_publish hc hs) haddr' hload' hdistinct.2 hr
        fun r' hr' => hnewest r' (List.mem_cons_of_mem _ hr')
      rw [hshown] at hstate' hmesh'
      constructor
      · rw [hstate', Nat.max_assoc, Nat.max_eq_right hle]
      · rw [hmesh', hmesh]
        by_cases hfits : s.shownVersion first.address ≤ r.version
        · rw [if_pos hfits, if_pos (by omega)]
        · rw [if_neg hfits, if_neg (by omega), if_neg (by omega)]

theorem exists_newest (h : rs ≠ []) : ∃ r ∈ rs, ∀ r' ∈ rs, r'.version ≤ r.version := by
  induction rs with
  | nil => exact absurd rfl h
  | cons first rs ih =>
    by_cases hrest : rs = []
    · subst hrest
      exact ⟨first, List.mem_cons_self .., by simp⟩
    · obtain ⟨r, hr, hnewest⟩ := ih hrest
      by_cases hle : first.version ≤ r.version
      · refine ⟨r, List.mem_cons_of_mem _ hr, fun r' hr' => ?_⟩
        rcases List.mem_cons.mp hr' with rfl | hr'
        · exact hle
        · exact hnewest r' hr'
      · refine ⟨first, List.mem_cons_self .., fun r' hr' => ?_⟩
        rcases List.mem_cons.mp hr' with rfl | hr'
        · exact Nat.le_refl _
        · have hle' := hnewest r' hr'
          omega

theorem publishAll_of_foreign (hc : w.chunk? a = some c) (hs : s.KnowsOnly a c.generation)
    (haddr : ∀ r ∈ rs, r.address = a) (hnone : ofLoad c.generation rs = []) :
    (s.publishAll w rs).2 = s := by
  rw [publishAll_ofLoad hc hs haddr, hnone]
  rfl

theorem publishAll_of_newest (hc : w.chunk? a = some c) (hs : s.KnowsOnly a c.generation)
    (haddr : ∀ r ∈ rs, r.address = a)
    (hdistinct : ((ofLoad c.generation rs).map BuildResult.version).Nodup)
    (hr : r ∈ ofLoad c.generation rs)
    (hnewest : ∀ r' ∈ ofLoad c.generation rs, r'.version ≤ r.version) :
    (s.publishAll w rs).2.state? a = some ⟨max (s.shownVersion a) r.version, c.generation, false⟩ ∧
      (s.publishAll w rs).2.mesh? a =
        if s.shownVersion a ≤ r.version then some r.meshes else s.mesh? a := by
  rw [publishAll_ofLoad hc hs haddr]
  exact publishAll_newest hc hs (fun r hr => haddr r (mem_ofLoad.mp hr).1)
    (fun r hr => (mem_ofLoad.mp hr).2) hdistinct hr hnewest

theorem publishAll_perm {rs' : List BuildResult} (hc : w.chunk? a = some c)
    (hs : s.KnowsOnly a c.generation) (haddr : ∀ r ∈ rs, r.address = a)
    (hdistinct : ((ofLoad c.generation rs).map BuildResult.version).Nodup) (hperm : rs'.Perm rs) :
    (s.publishAll w rs').2 = (s.publishAll w rs).2 := by
  have haddr' : ∀ r ∈ rs', r.address = a := fun r hr => haddr r (hperm.mem_iff.mp hr)
  have hown : (ofLoad c.generation rs').Perm (ofLoad c.generation rs) := hperm.filter _
  by_cases hnone : ofLoad c.generation rs = []
  · rw [publishAll_of_foreign hc hs haddr hnone,
      publishAll_of_foreign hc hs haddr' (List.Perm.eq_nil (hnone ▸ hown))]
  · -- Both orders have the same newest result, and it alone settles what is left.
    obtain ⟨r, hr, hnewest⟩ := exists_newest hnone
    obtain ⟨hstate, hmesh⟩ := publishAll_of_newest hc hs haddr hdistinct hr hnewest
    obtain ⟨hstate', hmesh'⟩ := publishAll_of_newest hc hs haddr'
      ((hown.map _).nodup_iff.mpr hdistinct) (hown.mem_iff.mpr hr)
      fun r' hr' => hnewest r' (hown.mem_iff.mp hr')
    have helsewhere {b : Address} (hb : a ≠ b) := publishAll_elsewhere (s := s) (w := w)
      fun r hr => haddr r hr ▸ hb
    have helsewhere' {b : Address} (hb : a ≠ b) := publishAll_elsewhere (s := s) (w := w)
      fun r hr => haddr' r hr ▸ hb
    apply ext_lookup
    · intro b
      by_cases hb : a = b
      · rw [← hb, hstate, hstate']
      · rw [(helsewhere hb).1, (helsewhere' hb).1]
    · intro b
      by_cases hb : a = b
      · rw [← hb, hmesh, hmesh']
      · rw [(helsewhere hb).2, (helsewhere' hb).2]

/-- Publishing a list of results for a loaded chunk in any order leaves the same store. If results
of the present load are among them, the newest of these is shown, unless a newer version was.
Results of other loads change nothing, and other chunks are left alone. -/
theorem publishing_is_confluent (hc : w.chunk? a = some c) (hs : s.KnowsOnly a c.generation)
    (haddr : ∀ r ∈ rs, r.address = a)
    (hdistinct : ((ofLoad c.generation rs).map BuildResult.version).Nodup) :
    (∀ rs', rs'.Perm rs → (s.publishAll w rs').2 = (s.publishAll w rs).2) ∧
    (∀ b, b ≠ a → (s.publishAll w rs).2.state? b = s.state? b ∧
      (s.publishAll w rs).2.mesh? b = s.mesh? b) ∧
    (s.publishAll w rs).2 = (s.publishAll w (ofLoad c.generation rs)).2 ∧
    ((∀ r ∈ rs, r.generation ≠ c.generation) → (s.publishAll w rs).2 = s) ∧
    ((∃ r ∈ rs, r.generation = c.generation) → ∃ r ∈ rs, r.generation = c.generation ∧
      (∀ r' ∈ rs, r'.generation = c.generation → r'.version ≤ r.version) ∧
      (s.publishAll w rs).2.state? a =
        some ⟨max (s.shownVersion a) r.version, c.generation, false⟩ ∧
      (s.publishAll w rs).2.mesh? a =
        if s.shownVersion a ≤ r.version then some r.meshes else s.mesh? a) := by
  refine ⟨fun rs' hperm => publishAll_perm hc hs haddr hdistinct hperm, fun b hb => ?_,
    publishAll_ofLoad hc hs haddr, fun hother => ?_, ?_⟩
  · exact publishAll_elsewhere fun r hr => haddr r hr ▸ hb.symm
  · apply publishAll_of_foreign hc hs haddr
    rw [ofLoad, List.filter_eq_nil_iff]
    intro r hr
    simpa using hother r hr
  · rintro ⟨r, hr, hload⟩
    have hown : ofLoad c.generation rs ≠ [] := List.ne_nil_of_mem (mem_ofLoad.mpr ⟨hr, hload⟩)
    obtain ⟨newest, hmem, hnewest⟩ := exists_newest hown
    obtain ⟨hin, hgen⟩ := mem_ofLoad.mp hmem
    exact ⟨newest, hin, hgen, fun r' hr' hgen' => hnewest r' (mem_ofLoad.mpr ⟨hr', hgen'⟩),
      publishAll_of_newest hc hs haddr hdistinct hmem hnewest⟩

/-- A chunk that was loaded for the second time and is at version 5. -/
def reloadedWorld : World :=
  ⟨.cube 1, (∅ : Std.ExtTreeMap Address Chunk).insert ⟨0, 0, 0⟩ ⟨.blank (.cube 1), 0, 5, 2⟩, 3⟩

/-- Version 3 of the second load is on show, and a build is on its way. -/
def awaiting : Store :=
  ⟨(∅ : Std.ExtTreeMap Address BuildState).insert ⟨0, 0, 0⟩ ⟨3, 2, true⟩,
    (∅ : Std.ExtTreeMap Address MeshSet).insert ⟨0, 0, 0⟩ ⟨.whole .empty, []⟩⟩

/-- Versions 5 and 4 of the second load, and between them a late result of the first. -/
def lateResults : List BuildResult :=
  [⟨⟨0, 0, 0⟩, ⟨.sliced [], []⟩, 5, 2⟩, ⟨⟨0, 0, 0⟩, ⟨.whole .empty, []⟩, 9, 1⟩,
    ⟨⟨0, 0, 0⟩, ⟨.whole .empty, []⟩, 4, 2⟩]

/-- In the order in which they come and in the opposite one, version 5 is shown. -/
theorem publishing_is_confluent_late : ∃ c, reloadedWorld.chunk? ⟨0, 0, 0⟩ = some c ∧
    awaiting.KnowsOnly ⟨0, 0, 0⟩ c.generation ∧ (∀ r ∈ lateResults, r.address = ⟨0, 0, 0⟩) ∧
    ((ofLoad c.generation lateResults).map BuildResult.version).Nodup ∧
    (awaiting.publishAll reloadedWorld lateResults.reverse).2 =
      (awaiting.publishAll reloadedWorld lateResults).2 ∧
    (awaiting.publishAll reloadedWorld lateResults).2.state? ⟨0, 0, 0⟩ = some ⟨5, 2, false⟩ ∧
    (awaiting.publishAll reloadedWorld lateResults).2.mesh? ⟨0, 0, 0⟩ =
      some ⟨.sliced [], []⟩ := by
  have hc : reloadedWorld.chunk? ⟨0, 0, 0⟩ = some ⟨.blank (.cube 1), 0, 5, 2⟩ := by
    simp [World.chunk?, reloadedWorld]
  have hst : awaiting.state? ⟨0, 0, 0⟩ = some ⟨3, 2, true⟩ := by
    simp [state?, awaiting]
  have hs : awaiting.KnowsOnly ⟨0, 0, 0⟩ 2 := by
    intro st hst'
    obtain rfl := Option.some.inj (hst.symm.trans hst')
    rfl
  have haddr : ∀ r ∈ lateResults, r.address = ⟨0, 0, 0⟩ := by decide
  have hdistinct : ((ofLoad 2 lateResults).map BuildResult.version).Nodup := by decide
  obtain ⟨hany, -, -, -, hnewest⟩ := publishing_is_confluent hc hs haddr hdistinct
  obtain ⟨r, hr, hload, hmax, hstate, hmesh⟩ := hnewest ⟨_, List.mem_cons_self .., rfl⟩
  have hfive : 5 ≤ r.version := hmax _ (List.mem_cons_self ..) rfl
  obtain rfl : r = ⟨⟨0, 0, 0⟩, ⟨.sliced [], []⟩, 5, 2⟩ := by
    simp only [lateResults, List.mem_cons, List.not_mem_nil, or_false] at hr
    rcases hr with rfl | rfl | rfl
    · rfl
    · cases hload
    · exact absurd hfive (by decide)
  have hshown : awaiting.shownVersion ⟨0, 0, 0⟩ = 3 := by
    rw [shownVersion, hst]
    rfl
  rw [hshown] at hstate hmesh
  exact ⟨_, hc, hs, haddr, hdistinct, hany _ (List.reverse_perm _), hstate, hmesh⟩

end Store

end VoxelScene
