import Mathlib.Data.List.Forall2
import Mathlib.Data.List.Perm.Basic
import VoxelScene.Build.Pipeline
import VoxelScene.Proofs.Checked

/-!
Where tasks are.

One thread submits tasks, workers take them from the queue, hand results in and lower the count, and
results are taken one by one, all of it interleaved in any way. A task that was accepted is at every
time in one place: in the queue, with a worker, or it has its result, which is taken or not taken
yet. The count is never below the number of tasks that are queued or with a worker, so it bounds
them, and a task that passed the count always finds room in the queue. After a shutdown every
accepted task has its result.
-/

namespace VoxelScene

/-- The result is that of the task: it has the labels of the task and the meshes of its snapshot. -/
def BuildResult.IsOf (m : Mesher) (t : BuildTask) (r : BuildResult) : Prop :=
  r.address = t.address ∧ r.version = t.version ∧ r.generation = t.generation ∧
    m.build t.snapshot = .ok r.meshes

theorem BuildTask.run_eq_ok_iff {m : Mesher} {t : BuildTask} {r : BuildResult} :
    t.run m = .ok r ↔ r.IsOf m t := by
  rw [run, Checked.bind_eq_ok_iff]
  obtain ⟨address, meshes, version, generation⟩ := r
  simp only [Checked.pure_eq_ok_iff, BuildResult.mk.injEq, BuildResult.IsOf]
  constructor
  · rintro ⟨ms, hms, rfl, rfl, rfl, rfl⟩
    exact ⟨rfl, rfl, rfl, hms⟩
  · rintro ⟨rfl, rfl, rfl, hms⟩
    exact ⟨meshes, hms, rfl, rfl, rfl, rfl⟩

/-- What the submitting thread is at. A submission looks at the count, raises it, and then offers
the task to the queue. -/
inductive Desk where
  | idle
  | weighed (t : BuildTask)
  | raised (t : BuildTask)

namespace Desk

/-- Submissions that were let through and have not raised the count yet. -/
def admitted : Desk → Nat
  | .weighed _ => 1
  | _ => 0

/-- Submissions that raised the count and are not in the queue yet. -/
def offering : Desk → Nat
  | .raised _ => 1
  | _ => 0

end Desk

/-- A pipeline and all that was ever put into it and taken from it. -/
structure Crew where
  pipeline : Pipeline
  desk : Desk
  accepted : List BuildTask
  drained : List BuildResult

namespace Crew

/-- Any number of workers, as some may have failed to start. -/
def start (workers budget : Nat) (m : Mesher) : Crew :=
  ⟨{ Pipeline.start workers budget m with workers := workers }, .idle, [], []⟩

/-- What one of the threads does next. -/
inductive Event where
  /-- A submission begins; it is refused by a pipeline that is shut down or full. -/
  | weigh (t : BuildTask)
  | raise
  | offer
  | receive
  | handIn (i : Nat)
  | release
  /-- One result is taken. -/
  | take
  /-- A shutdown begins. -/
  | close
  /-- A worker finds the queue closed and empty. -/
  | leave

/-- The crew after an event; one that does not apply leaves it as it is. -/
def perform (c : Crew) : Event → Checked Crew
  | .weigh t =>
    match c.desk with
    | .idle =>
      if c.pipeline.accepting && c.pipeline.workers != 0 &&
          c.pipeline.inFlight < c.pipeline.budget then
        return { c with desk := .weighed t }
      else return c
    | _ => return c
  | .raise =>
    match c.desk with
    | .weighed t =>
      return { c with
        pipeline := { c.pipeline with inFlight := c.pipeline.inFlight + 1 }
        desk := .raised t }
    | _ => return c
  | .offer =>
    match c.desk with
    | .raised t =>
      if c.pipeline.queued.length < c.pipeline.budget then
        return { c with
          pipeline := { c.pipeline with queued := c.pipeline.queued ++ [t] }
          desk := .idle
          accepted := c.accepted ++ [t] }
      else
        return { c with
          pipeline := { c.pipeline with inFlight := c.pipeline.inFlight - 1 }
          desk := .idle }
    | _ => return c
  | .receive => return { c with pipeline := c.pipeline.receive?.getD c.pipeline }
  | .handIn i => do return { c with pipeline := (← c.pipeline.handIn i).getD c.pipeline }
  | .release => return { c with pipeline := c.pipeline.release?.getD c.pipeline }
  | .take =>
    match c.pipeline.finished with
    | [] => return c
    | r :: rest =>
      return { c with
        pipeline := { c.pipeline with finished := rest }
        drained := c.drained ++ [r] }
  | .close =>
    match c.desk with
    | .idle => return { c with pipeline := { c.pipeline with accepting := false } }
    | _ => return c
  | .leave =>
    if !c.pipeline.accepting && c.pipeline.queued.isEmpty &&
        c.pipeline.running.length + c.pipeline.returning < c.pipeline.workers then
      return { c with pipeline := { c.pipeline with workers := c.pipeline.workers - 1 } }
    else return c

/-! ### What an event can do -/

inductive Moves (c : Crew) : Crew → Prop where
  | stay : Moves c c
  | weigh (t : BuildTask) : c.desk = .idle → c.pipeline.accepting = true →
      c.pipeline.workers ≠ 0 → c.pipeline.inFlight < c.pipeline.budget →
      Moves c { c with desk := .weighed t }
  | raise (t : BuildTask) : c.desk = .weighed t → Moves c { c with
      pipeline := { c.pipeline with inFlight := c.pipeline.inFlight + 1 }
      desk := .raised t }
  | offer (t : BuildTask) : c.desk = .raised t → Moves c { c with
      pipeline := { c.pipeline with queued := c.pipeline.queued ++ [t] }
      desk := .idle
      accepted := c.accepted ++ [t] }
  | refuse (t : BuildTask) : c.desk = .raised t →
      c.pipeline.budget ≤ c.pipeline.queued.length → Moves c { c with
        pipeline := { c.pipeline with inFlight := c.pipeline.inFlight - 1 }
        desk := .idle }
  | receive (t : BuildTask) (rest : List BuildTask) : c.pipeline.queued = t :: rest →
      c.pipeline.running.length + c.pipeline.returning < c.pipeline.workers → Moves c { c with
        pipeline := { c.pipeline with queued := rest, running := c.pipeline.running ++ [t] } }
  | handIn (i : Nat) (t : BuildTask) (r : BuildResult) : c.pipeline.running[i]? = some t →
      r.IsOf c.pipeline.mesher t → Moves c { c with pipeline := { c.pipeline with
        running := c.pipeline.running.eraseIdx i
        returning := c.pipeline.returning + 1
        finished := c.pipeline.finished ++ [r] } }
  | release : c.pipeline.returning ≠ 0 → Moves c { c with pipeline := { c.pipeline with
      returning := c.pipeline.returning - 1
      inFlight := c.pipeline.inFlight - 1 } }
  | take (r : BuildResult) (rest : List BuildResult) : c.pipeline.finished = r :: rest →
      Moves c { c with
        pipeline := { c.pipeline with finished := rest }
        drained := c.drained ++ [r] }
  | close : c.desk = .idle →
      Moves c { c with pipeline := { c.pipeline with accepting := false } }
  | leave : c.pipeline.accepting = false → c.pipeline.queued = [] →
      c.pipeline.running.length + c.pipeline.returning < c.pipeline.workers →
      Moves c { c with pipeline := { c.pipeline with workers := c.pipeline.workers - 1 } }

variable {c c' : Crew}

theorem moves_receive (c : Crew) :
    c.Moves { c with pipeline := c.pipeline.receive?.getD c.pipeline } := by
  cases hqueued : c.pipeline.queued with
  | nil =>
    simp only [Pipeline.receive?, hqueued, Option.getD_none]
    exact .stay
  | cons t rest =>
    by_cases hfree : c.pipeline.running.length + c.pipeline.returning < c.pipeline.workers
    · simp only [Pipeline.receive?, hqueued, hfree, if_true, Option.getD_some]
      exact .receive t rest hqueued hfree
    · simp only [Pipeline.receive?, hqueued, hfree, if_false, Option.getD_none]
      exact .stay

theorem moves_handIn {i : Nat} {o : Option Pipeline} (h : c.pipeline.handIn i = .ok o) :
    c.Moves { c with pipeline := o.getD c.pipeline } := by
  unfold Pipeline.handIn at h
  split at h
  · obtain rfl := Checked.pure_eq_ok_iff.mp h
    exact .stay
  · rename_i t ht
    obtain ⟨r, hr, h⟩ := Checked.bind_eq_ok_iff.mp h
    obtain rfl := Checked.pure_eq_ok_iff.mp h
    exact .handIn i t r ht (BuildTask.run_eq_ok_iff.mp hr)

theorem moves_release (c : Crew) :
    c.Moves { c with pipeline := c.pipeline.release?.getD c.pipeline } := by
  by_cases hreturning : c.pipeline.returning = 0
  · simp only [Pipeline.release?, hreturning, if_true, Option.getD_none]
    exact .stay
  · simp only [Pipeline.release?, hreturning, if_false, Option.getD_some]
    exact .release hreturning

theorem moves_of_perform {e : Event} (h : c.perform e = .ok c') : c.Moves c' := by
  cases e with
  | weigh t =>
    simp only [perform] at h
    split at h
    · rename_i hidle
      split at h
      · rename_i hadmitted
        obtain rfl := Checked.pure_eq_ok_iff.mp h
        obtain ⟨⟨haccepting, hworkers⟩, hcount⟩ : (c.pipeline.accepting = true ∧
            c.pipeline.workers ≠ 0) ∧ c.pipeline.inFlight < c.pipeline.budget := by
          simpa using hadmitted
        exact .weigh t hidle haccepting hworkers hcount
      · obtain rfl := Checked.pure_eq_ok_iff.mp h
        exact .stay
    · obtain rfl := Checked.pure_eq_ok_iff.mp h
      exact .stay
  | raise =>
    simp only [perform] at h
    split at h
    · rename_i t ht
      obtain rfl := Checked.pure_eq_ok_iff.mp h
      exact .raise t ht
    · obtain rfl := Checked.pure_eq_ok_iff.mp h
      exact .stay
  | offer =>
    simp only [perform] at h
    split at h
    · rename_i t ht
      split at h
      · obtain rfl := Checked.pure_eq_ok_iff.mp h
        exact .offer t ht
      · rename_i hfull
        obtain rfl := Checked.pure_eq_ok_iff.mp h
        exact .refuse t ht (Nat.not_lt.mp hfull)
    · obtain rfl := Checked.pure_eq_ok_iff.mp h
      exact .stay
  | receive =>
    obtain rfl := Checked.pure_eq_ok_iff.mp h
    exact moves_receive c
  | handIn i =>
    obtain ⟨o, ho, h⟩ := Checked.bind_eq_ok_iff.mp h
    obtain rfl := Checked.pure_eq_ok_iff.mp h
    exact moves_handIn ho
  | release =>
    obtain rfl := Checked.pure_eq_ok_iff.mp h
    exact moves_release c
  | take =>
    simp only [perform] at h
    split at h
    · obtain rfl := Checked.pure_eq_ok_iff.mp h
      exact .stay
    · rename_i r rest hfinished
      obtain rfl := Checked.pure_eq_ok_iff.mp h
      exact .take r rest hfinished
  | close =>
    simp only [perform] at h
    split at h
    · rename_i hidle
      obtain rfl := Checked.pure_eq_ok_iff.mp h
      exact .close hidle
    · obtain rfl := Checked.pure_eq_ok_iff.mp h
      exact .stay
  | leave =>
    simp only [perform] at h
    split at h
    · rename_i hleaves
      obtain rfl := Checked.pure_eq_ok_iff.mp h
      obtain ⟨⟨hclosed, hqueued⟩, hfree⟩ : (c.pipeline.accepting = false ∧
          c.pipeline.queued = []) ∧
            c.pipeline.running.length + c.pipeline.returning < c.pipeline.workers := by
        simpa using hleaves
      exact .leave hclosed hqueued hfree
    · obtain rfl := Checked.pure_eq_ok_iff.mp h
      exact .stay

/-! ### What every event keeps -/

/-- Each accepted task is in the queue, with a worker, or has its result, in one of the three. -/
def Conserved (m : Mesher) (c : Crew) : Prop :=
  ∃ done : List BuildTask, c.accepted.Perm (c.pipeline.queued ++ c.pipeline.running ++ done) ∧
    List.Forall₂ (BuildResult.IsOf m) done (c.drained ++ c.pipeline.finished)

/-- The count covers the tasks that have no result yet, and without workers there are none. -/
structure Kept (budget : Nat) (m : Mesher) (c : Crew) : Prop where
  mesher_eq : c.pipeline.mesher = m
  budget_eq : c.pipeline.budget = budget
  counted : c.pipeline.inFlight = c.pipeline.queued.length + c.pipeline.running.length +
    c.pipeline.returning + c.desk.offering
  bounded : c.pipeline.inFlight + c.desk.admitted ≤ budget
  staffed : c.pipeline.running.length + c.pipeline.returning ≤ c.pipeline.workers
  manned : c.pipeline.workers = 0 → c.pipeline.queued = [] ∧ c.desk = .idle
  closed : c.pipeline.accepting = false → c.desk = .idle
  conserved : c.Conserved m

theorem kept_start (workers budget : Nat) (m : Mesher) :
    (start workers budget m).Kept (max budget 1) m where
  mesher_eq := rfl
  budget_eq := rfl
  counted := rfl
  bounded := Nat.zero_le _
  staffed := Nat.zero_le _
  manned _ := ⟨rfl, rfl⟩
  closed _ := rfl
  conserved := ⟨[], .refl _, .nil⟩

namespace Conserved

variable {m : Mesher}

theorem offer (h : c.Conserved m) (t : BuildTask) : Conserved m { c with
    pipeline := { c.pipeline with queued := c.pipeline.queued ++ [t] }
    desk := .idle
    accepted := c.accepted ++ [t] } := by
  obtain ⟨done, hperm, hdone⟩ := h
  refine ⟨done, ?_, hdone⟩
  refine (List.perm_append_singleton t _).trans ((hperm.cons t).trans ?_)
  simp only [List.append_assoc, List.singleton_append]
  exact List.perm_middle.symm

theorem receive (h : c.Conserved m) {t : BuildTask} {rest : List BuildTask}
    (hqueued : c.pipeline.queued = t :: rest) : Conserved m { c with
      pipeline := { c.pipeline with queued := rest, running := c.pipeline.running ++ [t] } } := by
  obtain ⟨done, hperm, hdone⟩ := h
  refine ⟨done, ?_, hdone⟩
  rw [hqueued] at hperm
  have htasks : (t :: rest ++ c.pipeline.running).Perm (rest ++ (c.pipeline.running ++ [t])) := by
    rw [← List.append_assoc]
    exact (List.perm_append_singleton t (rest ++ c.pipeline.running)).symm
  exact hperm.trans (htasks.append_right done)

theorem handIn (h : c.Conserved m) {i : Nat} {t : BuildTask} {r : BuildResult}
    (ht : c.pipeline.running[i]? = some t) (hr : r.IsOf m t) :
    Conserved m { c with pipeline := { c.pipeline with
      running := c.pipeline.running.eraseIdx i
      returning := c.pipeline.returning + 1
      finished := c.pipeline.finished ++ [r] } } := by
  obtain ⟨done, hperm, hdone⟩ := h
  obtain ⟨hi, rfl⟩ := List.getElem?_eq_some_iff.mp ht
  -- The task goes to the end of the done ones, as its result does to the end of the finished.
  refine ⟨done ++ [c.pipeline.running[i]], ?_, ?_⟩
  · have htasks : (c.pipeline.queued ++ c.pipeline.running).Perm
        (c.pipeline.queued ++ c.pipeline.running.eraseIdx i ++ [c.pipeline.running[i]]) := by
      rw [List.append_assoc]
      refine List.Perm.append_left _ ?_
      exact (List.getElem_cons_eraseIdx_perm hi).symm.trans
        (List.perm_append_singleton _ _).symm
    refine hperm.trans ((htasks.append_right done).trans ?_)
    rw [List.append_assoc]
    exact List.perm_append_comm.append_left _
  · rw [← List.append_assoc]
    exact List.rel_append hdone (.cons hr .nil)

theorem take (h : c.Conserved m) {r : BuildResult} {rest : List BuildResult}
    (hfinished : c.pipeline.finished = r :: rest) : Conserved m { c with
      pipeline := { c.pipeline with finished := rest }
      drained := c.drained ++ [r] } := by
  obtain ⟨done, hperm, hdone⟩ := h
  refine ⟨done, hperm, ?_⟩
  rw [hfinished] at hdone
  rw [List.append_assoc]
  exact hdone

end Conserved

namespace Kept

variable {budget : Nat} {m : Mesher}

/-- A task that raised the count finds room in the queue. -/
theorem room (h : c.Kept budget m) {t : BuildTask} (ht : c.desk = .raised t) :
    c.pipeline.queued.length < c.pipeline.budget := by
  have hcounted := h.counted
  have hbounded := h.bounded
  have hbudget := h.budget_eq
  rw [ht, Desk.offering] at hcounted
  omega

theorem step (h : c.Kept budget m) (hmoves : c.Moves c') : c'.Kept budget m := by
  have hcounted := h.counted
  have hbounded := h.bounded
  have hstaffed := h.staffed
  have hbudget := h.budget_eq
  cases hmoves with
  | stay => exact h
  | weigh t hidle haccepting hworkers hcount =>
    rw [hidle] at hcounted
    exact {
      h with
      counted := hcounted
      bounded := by simp only [Desk.admitted]; omega
      manned := fun hzero => absurd hzero hworkers
      closed := fun hclosed => absurd (haccepting.symm.trans hclosed) Bool.noConfusion }
  | raise t ht =>
    have hbusy : c.desk ≠ .idle := fun hidle => Desk.noConfusion (hidle.symm.trans ht)
    rw [ht] at hcounted hbounded
    simp only [Desk.offering, Desk.admitted] at hcounted hbounded
    exact {
      h with
      counted := by simp only [Desk.offering]; omega
      bounded := by simp only [Desk.admitted]; omega
      manned := fun hzero => absurd (h.manned hzero).2 hbusy
      closed := fun hclosed => absurd (h.closed hclosed) hbusy }
  | offer t ht =>
    have hbusy : c.desk ≠ .idle := fun hidle => Desk.noConfusion (hidle.symm.trans ht)
    rw [ht] at hcounted hbounded
    simp only [Desk.offering, Desk.admitted] at hcounted hbounded
    exact {
      h with
      counted := by simp only [Desk.offering, List.length_append, List.length_singleton]; omega
      bounded := by simp only [Desk.admitted]; omega
      manned := fun hzero => absurd (h.manned hzero).2 hbusy
      closed := fun _ => rfl
      conserved := h.conserved.offer t }
  | refuse t ht hfull =>
    -- The count that let the task through is at least the length of the queue.
    have hroom := h.room ht
    omega
  | receive t rest hqueued hfree =>
    rw [hqueued, List.length_cons] at hcounted
    exact {
      h with
      counted := by simp only [List.length_append, List.length_singleton]; omega
      staffed := by simp only [List.length_append, List.length_singleton]; omega
      manned := fun hzero => by simp only at hzero; omega
      conserved := h.conserved.receive hqueued }
  | handIn i t r ht hr =>
    have hlength : (c.pipeline.running.eraseIdx i).length + 1 = c.pipeline.running.length := by
      obtain ⟨hi, -⟩ := List.getElem?_eq_some_iff.mp ht
      rw [List.length_eraseIdx_of_lt hi]
      omega
    exact {
      h with
      counted := by simp only; omega
      staffed := by simp only; omega
      conserved := h.conserved.handIn ht (h.mesher_eq ▸ hr) }
  | release hreturning =>
    exact {
      h with
      counted := by simp only; omega
      bounded := by simp only; omega
      staffed := by simp only; omega }
  | take r rest hfinished => exact { h with conserved := h.conserved.take hfinished }
  | close hidle => exact { h with closed := fun _ => hidle }
  | leave hclosed hqueued hfree =>
    exact {
      h with
      staffed := by simp only; omega
      manned := fun _ => ⟨hqueued, h.closed hclosed⟩ }

theorem run (h : c.Kept budget m) {es : List Event} (hrun : es.foldlM perform c = .ok c') :
    c'.Kept budget m :=
  Checked.foldlM_invariant (P := Kept budget m)
    (fun _ _ _ hs hstep => hs.step (moves_of_perform hstep)) h hrun

theorem settled (h : c.Kept budget m) (hworkers : c.pipeline.workers = 0) :
    ∃ done : List BuildTask, c.accepted.Perm done ∧
      List.Forall₂ (BuildResult.IsOf m) done (c.drained ++ c.pipeline.finished) := by
  obtain ⟨done, hperm, hdone⟩ := h.conserved
  have hqueued : c.pipeline.queued = [] := (h.manned hworkers).1
  have hrunning : c.pipeline.running = [] := by
    have hstaffed := h.staffed
    exact List.eq_nil_of_length_eq_zero (by omega)
  rw [hqueued, hrunning, List.append_nil, List.nil_append] at hperm
  exact ⟨done, hperm, hdone⟩

end Kept

/-- A shutdown has begun, with these tasks accepted before it. -/
structure Shut (tasks : List BuildTask) (c : Crew) : Prop where
  refuses : c.pipeline.accepting = false
  idle : c.desk = .idle
  accepted_eq : c.accepted = tasks

namespace Shut

variable {tasks : List BuildTask}

theorem step (h : c.Shut tasks) (hmoves : c.Moves c') : c'.Shut tasks := by
  have hrefuses := h.refuses
  have hidle := h.idle
  cases hmoves with
  | stay => exact h
  | weigh t _ haccepting => exact absurd (haccepting.symm.trans hrefuses) Bool.noConfusion
  | raise t ht => exact Desk.noConfusion (hidle.symm.trans ht)
  | offer t ht => exact Desk.noConfusion (hidle.symm.trans ht)
  | refuse t ht => exact Desk.noConfusion (hidle.symm.trans ht)
  | receive | handIn | release | take | leave => exact ⟨hrefuses, hidle, h.accepted_eq⟩
  | close => exact ⟨rfl, hidle, h.accepted_eq⟩

theorem run (h : c.Shut tasks) {es : List Event} (hrun : es.foldlM perform c = .ok c') :
    c'.Shut tasks :=
  Checked.foldlM_invariant (P := Shut tasks)
    (fun _ _ _ hs hstep => hs.step (moves_of_perform hstep)) h hrun

end Shut

end Crew

/-! ### A shutdown with work pending -/

namespace Pipeline

variable {p : Pipeline}

theorem submit?_of_closed (h : p.accepting = false) (t : BuildTask) : p.submit? t = none := by
  simp only [submit?, h, Bool.false_and, Bool.false_eq_true, if_false]

/-- Tasks are worked off one by one, in stages given by the tasks left and the results so far. -/
theorem exists_workedOff {m : Mesher} {f : Pipeline → Checked Pipeline}
    (stage : List BuildTask → List BuildResult → Pipeline)
    (hstep : ∀ t rest rs r, t.run m = .ok r →
      f (stage (t :: rest) rs) = .ok (stage rest (rs ++ [r])))
    {tasks : List BuildTask} (h : ∀ t ∈ tasks, ∃ r, t.run m = .ok r) (rs : List BuildResult)
    (hp : p = stage tasks rs) {xs : List Nat} (hlength : xs.length = tasks.length) :
    ∃ rs', xs.foldlM (fun p _ => f p) p = .ok (stage [] rs') := by
  subst hp
  induction tasks generalizing rs xs with
  | nil =>
    obtain rfl := List.eq_nil_of_length_eq_zero hlength
    exact ⟨rs, rfl⟩
  | cons t rest ih =>
    obtain ⟨x, xs, rfl⟩ := List.exists_cons_of_length_eq_add_one hlength
    obtain ⟨r, hr⟩ := h t (List.mem_cons_self ..)
    rw [List.foldlM_cons, hstep t rest rs r hr, Checked.ok_bind]
    exact ih (fun u hu => h u (List.mem_cons_of_mem _ hu)) _ (Nat.succ.inj hlength)

theorem exists_handInAll (h : ∀ t ∈ p.running, ∃ r, t.run p.mesher = .ok r) :
    ∃ rs, p.handInAll = .ok { p with
      running := []
      returning := p.returning + rs.length
      finished := p.finished ++ rs } := by
  refine exists_workedOff (m := p.mesher) (fun tasks rs => { p with
    running := tasks
    returning := p.returning + rs.length
    finished := p.finished ++ rs }) (fun t rest rs r hr => ?_) h [] ?_ List.length_range
  · simp only [handIn, List.getElem?_cons_zero, hr, Checked.ok_bind, List.eraseIdx_zero,
      List.tail_cons, List.length_append, ← List.append_assoc]
    rfl
  · rw [List.append_nil]
    rfl

theorem releaseAll_eq (p : Pipeline) :
    p.releaseAll = { p with returning := 0, inFlight := p.inFlight - p.returning } := by
  suffices hfold : ∀ xs : List Nat, xs.length = p.returning →
      xs.foldl (fun p _ => p.release?.getD p) p =
        { p with returning := 0, inFlight := p.inFlight - p.returning } from
    hfold _ List.length_range
  intro xs hlength
  induction xs generalizing p with
  | nil =>
    obtain ⟨_, _, _, _, _, _, _, returning, _⟩ := p
    obtain rfl : 0 = returning := hlength
    rfl
  | cons x xs ih =>
    have hreturning : p.returning ≠ 0 := by
      rw [← hlength]
      exact Nat.succ_ne_zero _
    rw [List.foldl_cons, release?, if_neg hreturning, Option.getD_some,
      ih _ (by simp only; rw [← hlength]; rfl)]
    simp only [Pipeline.mk.injEq, true_and, and_true]
    omega

theorem runNext_eq {t : BuildTask} {rest : List BuildTask} {r : BuildResult}
    (hqueued : p.queued = t :: rest) (hrunning : p.running = []) (hreturning : p.returning = 0)
    (hworkers : p.workers ≠ 0) (hr : t.run p.mesher = .ok r) :
    p.runNext = .ok { p with
      queued := rest
      inFlight := p.inFlight - 1
      finished := p.finished ++ [r] } := by
  obtain ⟨mesher, budget, workers, accepting, inFlight, queued, running, returning, finished⟩ := p
  obtain rfl : queued = t :: rest := hqueued
  obtain rfl : running = [] := hrunning
  obtain rfl : returning = 0 := hreturning
  have hfree : 0 < workers := Nat.pos_of_ne_zero hworkers
  simp [runNext, receive?, handIn, release?, hfree, hr, bind, Except.bind, pure, Except.pure]

theorem exists_runAll (hrunning : p.running = []) (hreturning : p.returning = 0)
    (hworkers : p.queued ≠ [] → p.workers ≠ 0) (h : ∀ t ∈ p.queued, ∃ r, t.run p.mesher = .ok r) :
    ∃ rs, p.runAll = .ok { p with
      queued := []
      inFlight := p.inFlight - rs.length
      finished := p.finished ++ rs } := by
  by_cases hqueued : p.queued = []
  · refine ⟨[], ?_⟩
    obtain ⟨_, _, _, _, _, queued, _, _, _⟩ := p
    obtain rfl : queued = [] := hqueued
    rw [List.append_nil]
    rfl
  · refine exists_workedOff (m := p.mesher) (fun tasks rs => { p with
      queued := tasks
      inFlight := p.inFlight - rs.length
      finished := p.finished ++ rs }) (fun t rest rs r hr => ?_) h [] ?_ List.length_range
    · refine Eq.trans (runNext_eq rfl hrunning hreturning (hworkers hqueued) hr) ?_
      rw [List.length_append, ← List.append_assoc, Nat.sub_sub]
      rfl
    · rw [List.append_nil]
      rfl

/-- The stages of a shutdown: the workers hand in what they are at, lower the count and finish the
queue. -/
theorem exists_stages (hworkers : p.queued ≠ [] → p.workers ≠ 0)
    (h : ∀ t ∈ p.queued ++ p.running, ∃ r, t.run p.mesher = .ok r) :
    ∃ handed rested, handInAll { p with accepting := false } = .ok handed ∧
      handed.releaseAll.runAll = .ok rested ∧ rested.accepting = false ∧ rested.queued = [] ∧
        rested.running = [] ∧ rested.returning = 0 := by
  obtain ⟨rs, hhanded⟩ := exists_handInAll (p := { p with accepting := false })
    fun t ht => h t (List.mem_append_right _ ht)
  obtain ⟨rs', hrested⟩ := exists_runAll (p := { p with
    accepting := false
    running := []
    returning := 0
    inFlight := p.inFlight - (p.returning + rs.length)
    finished := p.finished ++ rs }) rfl rfl hworkers fun t ht => h t (List.mem_append_left _ ht)
  exact ⟨_, _, hhanded, (congrArg runAll (releaseAll_eq _)).trans hrested, rfl, rfl, rfl, rfl⟩

end Pipeline

namespace Crew

/-- Some events bring the pipeline there and change nothing else. -/
def Reaches (c : Crew) (p : Pipeline) : Prop :=
  ∃ es : List Event, es.foldlM perform c = .ok { c with pipeline := p }

variable {c : Crew} {p q : Pipeline}

theorem Reaches.trans (h : c.Reaches p) (h' : Reaches { c with pipeline := p } q) :
    c.Reaches q := by
  obtain ⟨es, hes⟩ := h
  obtain ⟨es', hes'⟩ := h'
  refine ⟨es ++ es', ?_⟩
  rw [List.foldlM_append, hes, Checked.ok_bind, hes']

theorem reaches_of_perform {e : Event} (h : c.perform e = .ok { c with pipeline := p }) :
    c.Reaches p := by
  refine ⟨[e], ?_⟩
  rw [List.foldlM_cons, h, Checked.ok_bind]
  rfl

theorem reaches_foldlM {f : Pipeline → Checked Pipeline}
    (hstep : ∀ p q, f p = .ok q → Reaches { c with pipeline := p } q) {xs : List Nat}
    (h : xs.foldlM (fun p _ => f p) p = .ok q) : Reaches { c with pipeline := p } q := by
  induction xs generalizing p with
  | nil =>
    obtain rfl := Checked.pure_eq_ok_iff.mp h
    exact ⟨[], rfl⟩
  | cons x xs ih =>
    rw [List.foldlM_cons] at h
    obtain ⟨p', hp', h⟩ := Checked.bind_eq_ok_iff.mp h
    exact (hstep p p' hp').trans (ih h)

theorem reaches_handInAll (h : p.handInAll = .ok q) : Reaches { c with pipeline := p } q := by
  refine reaches_foldlM (fun p q hq => ?_) h
  refine reaches_of_perform (e := .handIn 0) ?_
  obtain ⟨o, ho, hq⟩ := Checked.bind_eq_ok_iff.mp hq
  obtain rfl := Checked.pure_eq_ok_iff.mp hq
  simp only [perform, ho, Checked.ok_bind]
  rfl

theorem reaches_releaseAll (p : Pipeline) : Reaches { c with pipeline := p } p.releaseAll := by
  have hfold : (List.range p.returning).foldlM
      (fun p _ => (pure (p.release?.getD p) : Checked Pipeline)) p = .ok p.releaseAll :=
    List.foldlM_pure
  refine reaches_foldlM (fun p q hq => ?_) hfold
  obtain rfl := Checked.pure_eq_ok_iff.mp hq
  exact reaches_of_perform (e := .release) rfl

theorem reaches_runNext (h : p.runNext = .ok q) : Reaches { c with pipeline := p } q := by
  unfold Pipeline.runNext at h
  split at h
  · obtain rfl := Checked.pure_eq_ok_iff.mp h
    exact ⟨[], rfl⟩
  · rename_i taken htaken
    have hreceive : Reaches { c with pipeline := p } taken := by
      refine reaches_of_perform (e := .receive) ?_
      simp only [perform, htaken, Option.getD_some]
      rfl
    obtain ⟨o, ho, h⟩ := Checked.bind_eq_ok_iff.mp h
    cases o with
    | none =>
      obtain rfl := Checked.pure_eq_ok_iff.mp h
      exact hreceive
    | some done =>
      have hhandIn : Reaches { c with pipeline := taken } done := by
        refine reaches_of_perform (e := .handIn (taken.running.length - 1)) ?_
        simp only [perform, ho, Checked.ok_bind, Option.getD_some]
        rfl
      obtain rfl := Checked.pure_eq_ok_iff.mp h
      exact hreceive.trans (hhandIn.trans (reaches_of_perform (e := .release) rfl))

theorem reaches_leave (hclosed : p.accepting = false) (hqueued : p.queued = [])
    (hrunning : p.running = []) (hreturning : p.returning = 0) :
    Reaches { c with pipeline := p } { p with workers := 0 } := by
  obtain ⟨mesher, budget, workers, accepting, inFlight, queued, running, returning, finished⟩ := p
  obtain rfl : accepting = false := hclosed
  obtain rfl : queued = [] := hqueued
  obtain rfl : running = [] := hrunning
  obtain rfl : returning = 0 := hreturning
  induction workers with
  | zero => exact ⟨[], rfl⟩
  | succ n ih =>
    refine Reaches.trans (reaches_of_perform (e := .leave) ?_) ih
    simp [perform, pure, Except.pure]

theorem exists_shutdown {budget : Nat} {m : Mesher} (h : c.Kept budget m) (hidle : c.desk = .idle)
    (hmeshes : ∀ t ∈ c.pipeline.queued ++ c.pipeline.running, ∃ r, t.run m = .ok r) :
    ∃ p, c.pipeline.shutdown = .ok p ∧ p.accepting = false ∧ p.workers = 0 ∧ c.Reaches p := by
  obtain rfl := h.mesher_eq
  obtain ⟨handed, rested, hhanded, hrested, hclosed, hqueued, hrunning, hreturning⟩ :=
    Pipeline.exists_stages (fun hqueued hworkers => hqueued (h.manned hworkers).1) hmeshes
  refine ⟨{ rested with workers := 0 }, ?_, hclosed, rfl, ?_⟩
  · rw [Pipeline.shutdown, hhanded, Checked.ok_bind, hrested, Checked.ok_bind]
    rfl
  · have hclose : c.Reaches { c.pipeline with accepting := false } := by
      refine reaches_of_perform (e := .close) ?_
      simp only [perform, hidle]
      rfl
    have hrunAll : Reaches { c with pipeline := handed.releaseAll } rested :=
      reaches_foldlM (fun p q hq => reaches_runNext hq) hrested
    have hleave := reaches_leave (c := c) hclosed hqueued hrunning hreturning
    exact hclose.trans ((reaches_handInAll hhanded).trans
      ((reaches_releaseAll handed).trans (hrunAll.trans hleave)))

/-! ### Submissions and drains without interruption -/

def submit (c : Crew) (t : BuildTask) : Crew :=
  match c.pipeline.submit? t with
  | some p => { c with pipeline := p, accepted := c.accepted ++ [t] }
  | none => c

def drain (c : Crew) : Crew :=
  { c with pipeline := c.pipeline.drain.2, drained := c.drained ++ c.pipeline.drain.1 }

theorem submit_steps (hidle : c.desk = .idle) (t : BuildTask) :
    [.weigh t, .raise, .offer].foldlM perform c = .ok (c.submit t) := by
  obtain ⟨p, desk, accepted, drained⟩ := c
  obtain rfl : desk = .idle := hidle
  by_cases hadmitted : (p.accepting && p.workers != 0 && p.inFlight < p.budget) = true
  · by_cases hroom : p.queued.length < p.budget
    · simp [perform, submit, Pipeline.submit?, hadmitted, hroom, pure, Except.pure, bind,
        Except.bind]
    · simp [perform, submit, Pipeline.submit?, hadmitted, hroom, pure, Except.pure, bind,
        Except.bind]
  · simp [perform, submit, Pipeline.submit?, hadmitted, pure, Except.pure, bind, Except.bind]

theorem drain_steps (c : Crew) :
    (c.pipeline.finished.map fun _ => Event.take).foldlM perform c = .ok c.drain := by
  obtain ⟨⟨mesher, budget, workers, accepting, inFlight, queued, running, returning, finished⟩,
    desk, accepted, drained⟩ := c
  induction finished generalizing drained with
  | nil => simp [drain, Pipeline.drain, pure, Except.pure]
  | cons r rest ih =>
    have hrest := ih (drained ++ [r])
    simp only [drain, Pipeline.drain, List.append_assoc, List.singleton_append] at hrest ⊢
    rw [List.map_cons, List.foldlM_cons]
    exact hrest

/-- In every interleaving of submissions, of the steps of the workers, of taking results and of a
shutdown, each accepted task is in one place, and each result is that of its task. The tasks that
are queued or with a worker stay within the budget, so the queue has room for every task that passed
the count. Once the workers have left, each accepted task has its result. After a shutdown has begun
nothing is accepted. The pipeline's own operations are among these interleavings, and a shutdown
returns if the tasks it finds can be meshed. -/
theorem tasks_conserved {workers budget : Nat} {m : Mesher} {events : List Event}
    (hrun : events.foldlM perform (start workers budget m) = .ok c) :
    c.Conserved m ∧
    c.pipeline.queued.length + c.pipeline.running.length ≤ max budget 1 ∧
    (∀ t, c.desk = .raised t → c.pipeline.queued.length < c.pipeline.budget) ∧
    (c.pipeline.workers = 0 → ∃ done : List BuildTask, c.accepted.Perm done ∧
      List.Forall₂ (BuildResult.IsOf m) done (c.drained ++ c.pipeline.finished)) ∧
    (c.pipeline.accepting = false → ∀ (es : List Event) (c' : Crew),
      es.foldlM perform c = .ok c' →
        c'.accepted = c.accepted ∧ ∀ t, c'.pipeline.submit? t = none) ∧
    (c.desk = .idle →
      (∀ t, [.weigh t, .raise, .offer].foldlM perform c = .ok (c.submit t)) ∧
      (c.pipeline.finished.map fun _ => Event.take).foldlM perform c = .ok c.drain ∧
      ((∀ t ∈ c.pipeline.queued ++ c.pipeline.running, ∃ r, t.run m = .ok r) →
        ∃ p, c.pipeline.shutdown = .ok p ∧ p.accepting = false ∧ p.workers = 0 ∧
          c.Reaches p)) := by
  have hkept : c.Kept (max budget 1) m := (kept_start workers budget m).run hrun
  refine ⟨hkept.conserved, ?_, fun t ht => hkept.room ht, hkept.settled, ?_, fun hidle =>
    ⟨submit_steps hidle, drain_steps c, exists_shutdown hkept hidle⟩⟩
  · have hcounted := hkept.counted
    have hbounded := hkept.bounded
    omega
  · intro hclosed es c' hlater
    have hshut : c'.Shut c.accepted := Shut.run ⟨hclosed, hkept.closed hclosed, rfl⟩ hlater
    exact ⟨hshut.accepted_eq, Pipeline.submit?_of_closed hshut.refuses⟩

def blockTask (n : Nat) : BuildTask :=
  ⟨⟨n, 0, 0⟩, .ofCenter ⟨n, 0, 0⟩ ((Grid.blank (.cube 1)).setVoxel ⟨0, 0, 0⟩ (.ofKind 1)), n, 1⟩

/-- With two workers and room for two tasks, the second task overtakes the first and its result is
taken. The third is let through only once the count is lowered. The shutdown begins with one task
running and one queued. -/
def crowded : List Event :=
  [.weigh (blockTask 1), .raise, .offer, .receive, .weigh (blockTask 2), .raise, .receive, .offer,
    .receive, .weigh (blockTask 3), .handIn 1, .weigh (blockTask 3), .release, .weigh (blockTask 3),
    .raise, .take, .offer, .close, .weigh (blockTask 4)]

theorem tasks_conserved_crowded :
    let m := Mesher.ofSettings Noise.still .empty .empty {}
    ∃ c p, crowded.foldlM perform (start 2 2 m) = .ok c ∧
      c.pipeline.queued.map (·.version) = [3] ∧ c.pipeline.running.map (·.version) = [1] ∧
      c.drained.map (·.version) = [2] ∧ c.Conserved m ∧
      c.pipeline.shutdown = .ok p ∧ (∀ t, p.submit? t = none) ∧
      ∃ done, c.accepted.Perm done ∧
        List.Forall₂ (BuildResult.IsOf m) done (c.drained ++ p.finished) := by
  intro m
  have hpasses : Checked.passes (crowded.foldlM perform (start 2 2 m)) (fun c =>
      (c.pipeline.queued.map (·.version) == [3] && c.pipeline.running.map (·.version) == [1] &&
        c.drained.map (·.version) == [2]) &&
      ((c.pipeline.queued ++ c.pipeline.running).all
        fun t => Checked.passes (t.run m) fun _ => true) &&
      !c.pipeline.accepting) = true := by
    decide +kernel
  obtain ⟨c, hc, htest⟩ := Checked.exists_of_passes hpasses
  simp only [Bool.and_eq_true, beq_iff_eq, List.all_eq_true, Bool.not_eq_eq_eq_not,
    Bool.not_true] at htest
  obtain ⟨⟨⟨⟨hqueued, hrunning⟩, hdrained⟩, hmeshes⟩, hclosed⟩ := htest
  have hidle : c.desk = .idle := ((kept_start 2 2 m).run hc).closed hclosed
  obtain ⟨hconserved, -, -, -, hlater, hown⟩ := tasks_conserved hc
  obtain ⟨-, -, hshutdown⟩ := hown hidle
  obtain ⟨p, hp, -, hgone, es, hes⟩ := hshutdown fun t ht => by
    obtain ⟨r, hr, -⟩ := Checked.exists_of_passes (hmeshes t ht)
    exact ⟨r, hr⟩
  have hall : (crowded ++ es).foldlM perform (start 2 2 m) = .ok { c with pipeline := p } := by
    rw [List.foldlM_append, hc, Checked.ok_bind, hes]
  obtain ⟨-, -, -, hsettled, -⟩ := tasks_conserved hall
  exact ⟨c, p, hc, hqueued, hrunning, hdrained, hconserved, hp, (hlater hclosed es _ hes).2,
    hsettled hgone⟩

end Crew

end VoxelScene
