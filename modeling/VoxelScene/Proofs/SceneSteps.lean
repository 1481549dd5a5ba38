import VoxelScene.Proofs.Builds

/-!
Scenes.

World, store and pipeline run side by side: cells change while tasks wait in the queue, and results
come back in any order. Each action of a scene is a chain of the events that `Moment.Next` lists, so
what every event keeps, every run keeps.
-/

namespace VoxelScene

/-- A world with its store and its pipeline, and the results that were taken from the pipeline and
not published yet. -/
structure Scene where
  world : World
  store : Store
  pipeline : Pipeline
  taken : List BuildResult

namespace Scene

def start (d : Dims) (workers budget : Nat) (m : Mesher) : Scene :=
  ⟨.empty d, .empty, .start workers budget m, []⟩

/-- What can happen next. -/
inductive Action where
  /-- An operation on the world, with the voxel types that ramp passes go by. -/
  | edit (types : VoxelCatalogue) (e : World.Edit)
  | request (a : Address)
  | schedule
  /-- A queued task gets ahead of all others. -/
  | overtake (i : Nat)
  | receive
  | handIn (i : Nat)
  | release
  | drain
  /-- One of the taken results is published. -/
  | publish (i : Nat)
  | collect
  | prune

def overtaken (p : Pipeline) (i : Nat) : Pipeline :=
  match p.queued[i]? with
  | none => p
  | some t => { p with queued := t :: p.queued.eraseIdx i }

/-- The scene after an action; one that does not apply leaves it as it is. -/
def perform (s : Scene) : Action → Checked Scene
  | .edit types e => do return { s with world := ← s.world.perform types e }
  | .request a => do
    let (_, store, pipeline) ← s.store.request s.world s.pipeline a
    return { s with store := store, pipeline := pipeline }
  | .schedule => do
    let pass ← s.store.schedule s.world s.pipeline
    return ⟨pass.world, pass.store, pass.pipeline, s.taken⟩
  | .overtake i => return { s with pipeline := overtaken s.pipeline i }
  | .receive => return { s with pipeline := s.pipeline.receive?.getD s.pipeline }
  | .handIn i => do return { s with pipeline := (← s.pipeline.handIn i).getD s.pipeline }
  | .release => return { s with pipeline := s.pipeline.release?.getD s.pipeline }
  | .drain =>
    let (results, pipeline) := s.pipeline.drain
    return { s with pipeline := pipeline, taken := s.taken ++ results }
  | .publish i =>
    match s.taken[i]? with
    | none => return s
    | some r =>
      return { s with store := (s.store.publish s.world r).2, taken := s.taken.eraseIdx i }
  | .collect =>
    let (_, store, pipeline) := s.store.collect s.world s.pipeline
    return { s with store := store, pipeline := pipeline }
  | .prune => return { s with store := (s.store.prune s.world).2 }

/-- The builds that a pipeline has on their way, with results that were taken from it. -/
def buildsOf (m : Mesher) (p : Pipeline) (taken : List BuildResult) : List Build :=
  (p.queued ++ p.running).map (BuildTask.pending m) ++ (p.finished ++ taken).map BuildResult.done

/-! ### Builds of a pipeline -/

variable (m : Mesher) {p p' : Pipeline} (taken : List BuildResult)

theorem buildsOf_submit {t : BuildTask} (h : p.submit? t = some p') :
    p'.mesher = p.mesher ∧ (t.pending m :: buildsOf m p taken).Perm (buildsOf m p' taken) := by
  unfold Pipeline.submit? at h
  split at h
  · obtain rfl := Option.some.inj h
    refine ⟨rfl, ?_⟩
    have hqueue : (t :: (p.queued ++ p.running)).Perm (p.queued ++ [t] ++ p.running) := by
      rw [List.append_assoc]
      exact List.perm_middle.symm
    exact (hqueue.map _).append_right _
  · cases h

theorem buildsOf_overtaken (p : Pipeline) (i : Nat) :
    (overtaken p i).mesher = p.mesher ∧
      (buildsOf m p taken).Perm (buildsOf m (overtaken p i) taken) := by
  unfold overtaken
  split
  · exact ⟨rfl, .refl _⟩
  · rename_i t ht
    obtain ⟨hi, rfl⟩ := List.getElem?_eq_some_iff.mp ht
    have hqueue := (List.getElem_cons_eraseIdx_perm hi).symm
    exact ⟨rfl, ((hqueue.append_right p.running).map _).append_right _⟩

theorem buildsOf_receive (h : p.receive? = some p') :
    p'.mesher = p.mesher ∧ (buildsOf m p taken).Perm (buildsOf m p' taken) := by
  unfold Pipeline.receive? at h
  split at h
  · cases h
  · rename_i t rest hqueued
    split at h
    · obtain rfl := Option.some.inj h
      refine ⟨rfl, ?_⟩
      have htasks : (p.queued ++ p.running).Perm (rest ++ (p.running ++ [t])) := by
        rw [hqueued, ← List.append_assoc]
        exact (List.perm_append_singleton t (rest ++ p.running)).symm
      exact (htasks.map _).append_right _
    · cases h

variable {m taken}

theorem buildsOf_handIn {i : Nat} (hm : p.mesher = m) (h : p.handIn i = .ok (some p')) :
    p'.mesher = p.mesher ∧ (buildsOf m p taken).Perm (buildsOf m p' taken) := by
  unfold Pipeline.handIn at h
  split at h
  · cases Checked.pure_eq_ok_iff.mp h
  · rename_i t ht
    obtain ⟨r, hr, h⟩ := Checked.bind_eq_ok_iff.mp h
    obtain ⟨meshes, hmeshes, hr⟩ := Checked.bind_eq_ok_iff.mp hr
    obtain rfl := Checked.pure_eq_ok_iff.mp hr
    obtain rfl := Option.some.inj (Checked.pure_eq_ok_iff.mp h)
    obtain ⟨hi, rfl⟩ := List.getElem?_eq_some_iff.mp ht
    refine ⟨rfl, ?_⟩
    -- The task leaves the workers and comes back as its result, which is the same build.
    have hdone : (p.running[i]).pending m = BuildResult.done
        ⟨p.running[i].address, meshes, p.running[i].version, p.running[i].generation⟩ := by
      rw [BuildTask.pending, ← hm, hmeshes]
      rfl
    have htasks : (p.queued ++ p.running).Perm
        (p.running[i] :: (p.queued ++ p.running.eraseIdx i)) :=
      ((List.getElem_cons_eraseIdx_perm hi).symm.append_left _).trans List.perm_middle
    refine ((htasks.map (BuildTask.pending m)).append_right _).trans ?_
    rw [List.map_cons, hdone, List.cons_append]
    refine List.perm_middle.symm.trans (List.Perm.append_left _ ?_)
    rw [← List.map_cons, List.append_assoc]
    exact List.perm_middle.symm.map _

theorem buildsOf_taken {i : Nat} {r : BuildResult} (h : taken[i]? = some r) :
    (buildsOf m p taken).Perm (r.done :: buildsOf m p (taken.eraseIdx i)) := by
  obtain ⟨hi, rfl⟩ := List.getElem?_eq_some_iff.mp h
  have hresults : (p.finished ++ taken).Perm (taken[i] :: (p.finished ++ taken.eraseIdx i)) :=
    ((List.getElem_cons_eraseIdx_perm hi).symm.append_left _).trans List.perm_middle
  exact ((hresults.map BuildResult.done).append_left _).trans List.perm_middle

theorem buildsOf_finished (p : Pipeline) (taken : List BuildResult) : (buildsOf m p taken).Perm
    (p.finished.map BuildResult.done ++ buildsOf m { p with finished := [] } taken) := by
  have hresults : (p.finished ++ taken).map BuildResult.done =
      p.finished.map BuildResult.done ++ taken.map BuildResult.done := List.map_append
  rw [buildsOf, buildsOf, hresults, List.nil_append, ← List.append_assoc, ← List.append_assoc]
  exact List.perm_append_comm.append_right _

end Scene

/-- The results whose meshes are stored when all are published in order, the latest first. -/
def Store.accepted (w : World) : Store → List BuildResult → List BuildResult
  | _, [] => []
  | s, r :: rs => accepted w (s.publish w r).2 rs ++ if (s.publish w r).1 then [r] else []

namespace Scene

variable {m : Mesher} {p p' : Pipeline} {w : World} {store store' : Store} {a : Address}
  {bs : List Build}
  (taken log : List BuildResult)

/-! ### Requests as chains of events -/

theorem chain_of_requested {o : RequestOutcome} (hreq : store.Requested w p a o store' p') :
    p'.mesher = p.mesher ∧ Relation.ReflTransGen (Moment.Next m)
      ⟨w, store, buildsOf m p taken, log⟩ ⟨w, store', buildsOf m p' taken, log⟩ := by
  cases hreq with
  | notLoaded _ => exact ⟨rfl, .refl⟩
  | rampsPending _ _ _ => exact ⟨rfl, .refl⟩
  | alreadyInFlight c hc _ _ => exact ⟨rfl, .single (.enter a c hc)⟩
  | upToDate c hc _ _ _ => exact ⟨rfl, .single (.enter a c hc)⟩
  | budgetExhausted c hc _ _ => exact ⟨rfl, .single (.enter a c hc)⟩
  | submitted c snapshot p' hc _ hidle _ hcapture haccept =>
    obtain ⟨hmesher, hperm⟩ := buildsOf_submit m taken haccept
    refine ⟨hmesher, .tail (.tail (.single (.enter a c hc)) ?_) (.reorder hperm)⟩
    exact .launch a c _ snapshot hc (store.state?_enter a c.generation)
      (store.generation_enter a c.generation) hidle hcapture

/-- A request that takes the mark off a chunk has taken care of it. -/
theorem settled_of_requested {o : RequestOutcome} (hreq : store.Requested w p a o store' p')
    (ho : o.settles = true) :
    ∃ c, w.chunk? a = some c ∧ Settled store' (buildsOf m p' taken) a c := by
  cases hreq with
  | upToDate c hc _ _ hver =>
    exact ⟨c, hc, .inl ⟨_, store.state?_enter a c.generation, store.generation_enter a c.generation,
      hver⟩⟩
  | submitted c snapshot p' hc _ _ _ _ haccept =>
    have hmem := (buildsOf_submit m taken haccept).2.subset (List.mem_cons_self ..)
    exact ⟨c, hc, .inr ⟨_, hmem, rfl, rfl, rfl⟩⟩
  | notLoaded | rampsPending | alreadyInFlight | budgetExhausted => cases ho

theorem chain_of_visits {as : List Address} {x y : Store.Pass}
    (h : as.foldlM Store.Pass.visit x = .ok y) :
    y.pipeline.mesher = x.pipeline.mesher ∧ Relation.ReflTransGen (Moment.Next m)
      ⟨x.world, x.store, buildsOf m x.pipeline taken, log⟩
      ⟨y.world, y.store, buildsOf m y.pipeline taken, log⟩ := by
  refine Checked.foldlM_invariant
    (P := fun y : Store.Pass => y.pipeline.mesher = x.pipeline.mesher ∧
      Relation.ReflTransGen (Moment.Next m) ⟨x.world, x.store, buildsOf m x.pipeline taken, log⟩
        ⟨y.world, y.store, buildsOf m y.pipeline taken, log⟩)
    (fun y a z hy hv => ?_) ⟨rfl, .refl⟩ h
  obtain ⟨o, hreq, hworld⟩ := Store.visit_eq_ok hv
  obtain ⟨hmesher, hchain⟩ := chain_of_requested taken log hreq
  refine ⟨hmesher.trans hy.1, hy.2.trans (hchain.trans ?_)⟩
  rw [hworld]
  split
  · rename_i ho
    obtain ⟨c, hc, hsettled⟩ := settled_of_requested (m := m) taken hreq ho
    exact .single (.unmark a c hc hsettled)
  · exact .refl

/-! ### Results as chains of events -/

theorem publishAll_eq (s : Store) (w : World) (rs : List BuildResult) :
    (s.publishAll w rs).2 = rs.foldl (fun s r => (s.publish w r).2) s := by
  have fold (f : Nat × Store → BuildResult → Nat × Store)
      (hf : ∀ x r, (f x r).2 = (x.2.publish w r).2) (rs : List BuildResult) (x : Nat × Store) :
      (rs.foldl f x).2 = rs.foldl (fun s r => (s.publish w r).2) x.2 := by
    induction rs generalizing x with
    | nil => rfl
    | cons r rs ih => rw [List.foldl_cons, List.foldl_cons, ih, hf]
  exact fold _ (fun _ _ => rfl) rs (0, s)

theorem chain_of_publishes (rs : List BuildResult) (bs : List Build) (s : Store) :
    Relation.ReflTransGen (Moment.Next m) ⟨w, s, rs.map BuildResult.done ++ bs, log⟩
      ⟨w, rs.foldl (fun s r => (s.publish w r).2) s, bs, s.accepted w rs ++ log⟩ := by
  induction rs generalizing log s with
  | nil => exact .refl
  | cons r rs ih =>
    have hfirst : Moment.Next m ⟨w, s, (r :: rs).map BuildResult.done ++ bs, log⟩
        ⟨w, (s.publish w r).2, rs.map BuildResult.done ++ bs,
          if (s.publish w r).1 then r :: log else log⟩ := .publish r _ (s.published w r)
    have hrest := ih (if (s.publish w r).1 then r :: log else log) (s.publish w r).2
    have hlog : (s.publish w r).2.accepted w rs ++ (if (s.publish w r).1 then r :: log else log) =
        s.accepted w (r :: rs) ++ log := by
      rw [Store.accepted]
      split <;> simp
    rw [hlog] at hrest
    exact .head hfirst hrest

theorem chain_of_forgets (as : List Address) (s : Store) (h : ∀ a ∈ as, s.IsOver w a) :
    Relation.ReflTransGen (Moment.Next m) ⟨w, s, bs, log⟩
      ⟨w, as.foldl Store.forget s, bs, log⟩ := by
  induction as generalizing s with
  | nil => exact .refl
  | cons a as ih =>
    have hrest : ∀ b ∈ as, (s.forget a).IsOver w b := fun b hb =>
      (h b (List.mem_cons_of_mem _ hb)).forget a
    exact .head (.drop a (h a (List.mem_cons_self ..))) (ih (s.forget a) hrest)

/-! ### Runs -/

def moment (m : Mesher) (s : Scene) (log : List BuildResult) : Moment :=
  ⟨s.world, s.store, buildsOf m s.pipeline s.taken, log⟩

/-- The results whose meshes an action puts on show, the latest first. -/
def stored (s : Scene) : Action → List BuildResult
  | .publish i => s.store.accepted s.world s.taken[i]?.toList
  | .collect => s.store.accepted s.world s.pipeline.finished
  | _ => []

theorem chain_of_perform {s s' : Scene} {action : Action} (hm : s.pipeline.mesher = m)
    (hs : s.perform action = .ok s') :
    s'.pipeline.mesher = m ∧ Relation.ReflTransGen (Moment.Next m) (s.moment m log)
      (s'.moment m (s.stored action ++ log)) := by
  cases action with
  | edit types e =>
    obtain ⟨w', hw', hs⟩ := Checked.bind_eq_ok_iff.mp hs
    obtain rfl := Checked.pure_eq_ok_iff.mp hs
    exact ⟨hm, .single (.edit types e hw')⟩
  | request a =>
    obtain ⟨⟨o, store, pipeline⟩, hreq, hs⟩ := Checked.bind_eq_ok_iff.mp hs
    obtain rfl := Checked.pure_eq_ok_iff.mp hs
    obtain ⟨hmesher, hchain⟩ :=
      chain_of_requested s.taken log (Store.requested_of_request hreq)
    exact ⟨hmesher.trans hm, hchain⟩
  | schedule =>
    obtain ⟨pass, hpass, hs⟩ := Checked.bind_eq_ok_iff.mp hs
    obtain rfl := Checked.pure_eq_ok_iff.mp hs
    obtain ⟨hmesher, hchain⟩ := chain_of_visits s.taken log hpass
    exact ⟨hmesher.trans hm, hchain⟩
  | overtake i =>
    obtain rfl := Checked.pure_eq_ok_iff.mp hs
    obtain ⟨hmesher, hperm⟩ := buildsOf_overtaken m s.taken s.pipeline i
    exact ⟨hmesher.trans hm, .single (.reorder hperm)⟩
  | receive =>
    obtain rfl := Checked.pure_eq_ok_iff.mp hs
    cases hp : s.pipeline.receive? with
    | none => exact ⟨hm, .refl⟩
    | some p' =>
      obtain ⟨hmesher, hperm⟩ := buildsOf_receive m s.taken hp
      exact ⟨hmesher.trans hm, .single (.reorder hperm)⟩
  | handIn i =>
    obtain ⟨p?, hp, hs⟩ := Checked.bind_eq_ok_iff.mp hs
    obtain rfl := Checked.pure_eq_ok_iff.mp hs
    cases p? with
    | none => exact ⟨hm, .refl⟩
    | some p' =>
      obtain ⟨hmesher, hperm⟩ := buildsOf_handIn hm hp
      exact ⟨hmesher.trans hm, .single (.reorder hperm)⟩
  | release =>
    obtain rfl := Checked.pure_eq_ok_iff.mp hs
    unfold Pipeline.release?
    split <;> exact ⟨hm, .refl⟩
  | drain =>
    obtain rfl := Checked.pure_eq_ok_iff.mp hs
    refine ⟨hm, .single (.reorder (List.Perm.append_left _ (List.Perm.map _ ?_)))⟩
    exact List.perm_append_comm
  | publish i =>
    simp only [Scene.perform] at hs
    split at hs
    · rename_i hnone
      obtain rfl := Checked.pure_eq_ok_iff.mp hs
      rw [stored, hnone]
      exact ⟨hm, .refl⟩
    · rename_i r hr
      obtain rfl := Checked.pure_eq_ok_iff.mp hs
      rw [stored, hr]
      exact ⟨hm, .head (.reorder (buildsOf_taken hr)) (chain_of_publishes log [r] _ s.store)⟩
  | collect =>
    obtain rfl := Checked.pure_eq_ok_iff.mp hs
    have hchain := chain_of_publishes (m := m) (w := s.world) log s.pipeline.finished
      (buildsOf m { s.pipeline with finished := [] } s.taken) s.store
    rw [← publishAll_eq] at hchain
    exact ⟨hm, .head (.reorder (buildsOf_finished ..)) hchain⟩
  | prune =>
    obtain rfl := Checked.pure_eq_ok_iff.mp hs
    obtain ⟨as, heq, hover⟩ := s.store.prune_eq s.world
    refine ⟨hm, ?_⟩
    simp only [moment, heq]
    exact chain_of_forgets log as s.store hover

variable {log}

/-- What every event keeps, every run keeps. -/
theorem keeps_of_run {P : Moment → Prop} (step : ∀ x y, P x → Moment.Next m x y → P y)
    {actions : List Action} {s s' : Scene} (hm : s.pipeline.mesher = m) (hs : P (s.moment m log))
    (hrun : actions.foldlM Scene.perform s = .ok s') : ∃ log', P (s'.moment m log') := by
  have hall : s'.pipeline.mesher = m ∧ ∃ log', P (s'.moment m log') := by
    refine Checked.foldlM_invariant
      (P := fun s : Scene => s.pipeline.mesher = m ∧ ∃ log, P (s.moment m log))
      (fun t action t' ht hperform => ?_) ⟨hm, log, hs⟩ hrun
    obtain ⟨hmesher, log, ht⟩ := ht
    obtain ⟨hmesher', hchain⟩ := chain_of_perform log hmesher hperform
    exact ⟨hmesher', _, Moment.keeps_of_chain step hchain ht⟩
  exact hall.2

theorem ordered_start (d : Dims) (workers budget : Nat) (m : Mesher) :
    ((start d workers budget m).moment m []).Ordered where
  kept := World.wellKept_empty d
  older a st hst := by simp [moment, start, Store.empty, Store.state?] at hst
  unborn b hb := by cases hb
  matching b hb := by cases hb

theorem labelled_start {d : Dims} (hd : d.Fits) (workers budget : Nat) (m : Mesher) :
    ((start d workers budget m).moment m []).Labelled m where
  toOrdered := ordered_start d workers budget m
  fits := hd
  truthful b hb := by cases hb
  shown a c st _ hst := by simp [moment, start, Store.empty, Store.state?] at hst

theorem flagged_start (d : Dims) (workers budget : Nat) (m : Mesher) :
    ((start d workers budget m).moment m []).Flagged where
  toOrdered := ordered_start d workers budget m
  single := List.nodup_nil
  flagged b hb := by cases hb

end Scene

end VoxelScene
