import VoxelScene.Mesh.Snapshot

/-!
The build pipeline.

Tasks wait in a bounded queue; a free worker takes the oldest, meshes its snapshot, hands the result
in and then lowers the count of tasks in flight. The count goes up when a task is accepted, so it
bounds the tasks that are queued or being worked on. After a shutdown no task is accepted, but those
accepted before are still finished.
-/

namespace VoxelScene

structure BuildTask where
  address : Address
  snapshot : Snapshot
  version : Nat
  generation : Nat

structure BuildResult where
  address : Address
  meshes : MeshSet
  version : Nat
  generation : Nat
deriving DecidableEq

/-- The result of a task: the meshes of its snapshot under its labels. -/
def BuildTask.run (t : BuildTask) (m : Mesher) : Checked BuildResult := do
  return ⟨t.address, ← m.build t.snapshot, t.version, t.generation⟩

structure Pipeline where
  mesher : Mesher
  budget : Nat
  workers : Nat
  accepting : Bool
  /-- Raised with each accepted task, lowered by a worker that is done with one. -/
  inFlight : Nat
  /-- Accepted tasks that no worker has taken, oldest first. -/
  queued : List BuildTask
  /-- Tasks that a worker is meshing. -/
  running : List BuildTask
  /-- Workers that handed in a result and have not lowered the count yet. -/
  returning : Nat
  /-- Results that were handed in and not drained, oldest first. -/
  finished : List BuildResult

namespace Pipeline

/-- An idle pipeline with at least one worker and room for at least one task. -/
def start (workers budget : Nat) (m : Mesher) : Pipeline :=
  ⟨m, max budget 1, max workers 1, true, 0, [], [], 0, []⟩

/-- Accepts a task, unless the pipeline is shut down or full. -/
def submit? (p : Pipeline) (t : BuildTask) : Option Pipeline :=
  if p.accepting && p.workers != 0 && p.inFlight < p.budget && p.queued.length < p.budget then
    some { p with inFlight := p.inFlight + 1, queued := p.queued ++ [t] }
  else none

/-- A free worker takes the oldest queued task. -/
def receive? (p : Pipeline) : Option Pipeline :=
  match p.queued with
  | [] => none
  | t :: rest =>
    if p.running.length + p.returning < p.workers then
      some { p with queued := rest, running := p.running ++ [t] }
    else none

/-- The worker with the `i`th running task hands in its result. -/
def handIn (p : Pipeline) (i : Nat) : Checked (Option Pipeline) :=
  match p.running[i]? with
  | none => return none
  | some t => do
    let r ← t.run p.mesher
    return some { p with
      running := p.running.eraseIdx i
      returning := p.returning + 1
      finished := p.finished ++ [r] }

/-- A worker that handed in a result lowers the count and is free again. -/
def release? (p : Pipeline) : Option Pipeline :=
  if p.returning = 0 then none
  else some { p with returning := p.returning - 1, inFlight := p.inFlight - 1 }

/-- One worker takes the oldest queued task and sees it through. -/
def runNext (p : Pipeline) : Checked Pipeline :=
  match p.receive? with
  | none => return p
  | some p => do
    match ← p.handIn (p.running.length - 1) with
    | none => return p
    | some p => return p.release?.getD p

/-- The workers finish every queued task, oldest first. -/
def runAll (p : Pipeline) : Checked Pipeline :=
  (List.range p.queued.length).foldlM (fun p _ => p.runNext) p

/-- Takes all results that were handed in. -/
def drain (p : Pipeline) : List BuildResult × Pipeline := (p.finished, { p with finished := [] })

/-- The workers hand in the results of the tasks they are at. -/
def handInAll (p : Pipeline) : Checked Pipeline :=
  (List.range p.running.length).foldlM (fun p _ => do return (← p.handIn 0).getD p) p

/-- The workers that handed in a result lower the count. -/
def releaseAll (p : Pipeline) : Pipeline :=
  (List.range p.returning).foldl (fun p _ => p.release?.getD p) p

/-- Accepts no more tasks, lets the workers finish and dismisses them. -/
def shutdown (p : Pipeline) : Checked Pipeline := do
  let p ← ({ p with accepting := false } : Pipeline).handInAll
  let p ← p.releaseAll.runAll
  return { p with workers := 0 }

end Pipeline

end VoxelScene
