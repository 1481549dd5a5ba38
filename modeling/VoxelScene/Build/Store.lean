import VoxelScene.Build.Pipeline
import VoxelScene.Build.State

/-!
The mesh store.

The store asks the pipeline for builds of chunks that are out of date, at most one at a time for each
load of a chunk, and publishes results that still belong to the chunk loaded at their address. An
older result never replaces a newer one.
-/

namespace VoxelScene

structure Store where
  states : Std.ExtTreeMap Address BuildState
  meshes : Std.ExtTreeMap Address MeshSet

/-- What one pass over the chunks that are out of date did. -/
structure ScheduleReport where
  submitted : Nat := 0
  upToDate : Nat := 0
  /-- Chunks left for a later pass. -/
  deferred : Nat := 0
deriving DecidableEq, Repr

def ScheduleReport.count (r : ScheduleReport) : RequestOutcome → ScheduleReport
  | .submitted => { r with submitted := r.submitted + 1 }
  | .upToDate => { r with upToDate := r.upToDate + 1 }
  | _ => { r with deferred := r.deferred + 1 }

namespace Store

def empty : Store := ⟨∅, ∅⟩

def state? (s : Store) (a : Address) : Option BuildState := s.states[a]?

def mesh? (s : Store) (a : Address) : Option MeshSet := s.meshes[a]?

/-- The store with the state for the current load of a chunk in place. What is known of another load
is dropped. -/
def enter (s : Store) (a : Address) (generation : Nat) : BuildState × Store :=
  match s.state? a with
  | some state =>
    if state.generation = generation then (state, s)
    else (.fresh generation,
      ⟨s.states.insert a (.fresh generation), s.meshes.erase a⟩)
  | none => (.fresh generation, { s with states := s.states.insert a (.fresh generation) })

/-- Asks for a build of a chunk if one is needed. -/
def request (s : Store) (w : World) (p : Pipeline) (a : Address) :
    Checked (RequestOutcome × Store × Pipeline) :=
  match w.chunk? a with
  | none => return (.notLoaded, s, p)
  | some c => do
    if c.isDirty rampDirty then return (.rampsPending, s, p)
    let (state, s) := s.enter a c.generation
    if state.inFlight then return (.alreadyInFlight, s, p)
    if !state.isStale c.version then return (.upToDate, s, p)
    match ← Snapshot.capture w a with
    | none => return (.notLoaded, s, p)
    | some snapshot =>
      match p.submit? ⟨a, snapshot, c.version, c.generation⟩ with
      | none => return (.budgetExhausted, s, p)
      | some p =>
        return (.submitted, { s with states := s.states.insert a { state with inFlight := true } }, p)

/-- What is passed along while the chunks that are out of date are gone through. -/
structure Pass where
  report : ScheduleReport
  store : Store
  world : World
  pipeline : Pipeline

/-- Asks for a build of one chunk and clears its mark if that settles it. -/
def Pass.visit (x : Pass) (a : Address) : Checked Pass := do
  let (outcome, store, pipeline) ← x.store.request x.world x.pipeline a
  let world :=
    if outcome.settles then x.world.modifyChunk a fun c => c.clearDirty meshDirty else x.world
  return ⟨x.report.count outcome, store, world, pipeline⟩

/-- Asks for builds of all chunks whose mesh is out of date. -/
def schedule (s : Store) (w : World) (p : Pipeline) : Checked Pass :=
  (w.dirtyAddresses meshDirty).foldlM Pass.visit ⟨{}, s, w, p⟩

/-- Drops everything known of a chunk. -/
def forget (s : Store) (a : Address) : Store := ⟨s.states.erase a, s.meshes.erase a⟩

/-- Publishes a result, and says whether its mesh was stored. A result of another load than the
current one is dropped, together with what is known of that load. -/
def publish (s : Store) (w : World) (r : BuildResult) : Bool × Store :=
  if (w.chunk? r.address).any fun c => c.generation == r.generation then
    let state := (s.state? r.address).getD (.fresh r.generation)
    if r.version < state.meshedVersion then
      (false, { s with states := s.states.insert r.address { state with inFlight := false } })
    else
      (true,
        ⟨s.states.insert r.address { state with meshedVersion := r.version, inFlight := false },
          s.meshes.insert r.address r.meshes⟩)
  else if (s.state? r.address).any fun state => state.generation == r.generation then
    (false, s.forget r.address)
  else (false, s)

/-- Publishes results in order and counts those whose mesh was stored. -/
def publishAll (s : Store) (w : World) (rs : List BuildResult) : Nat × Store :=
  rs.foldl (fun (n, s) r =>
    let (stored, s) := s.publish w r
    (if stored then n + 1 else n, s)) (0, s)

/-- Drains the pipeline and publishes its results. -/
def collect (s : Store) (w : World) (p : Pipeline) : Nat × Store × Pipeline :=
  let (results, p) := p.drain
  let (n, s) := s.publishAll w results
  (n, s, p)

/-- The state belongs to the load of the chunk that the world holds. -/
def isCurrent (w : World) (a : Address) (state : BuildState) : Bool :=
  (w.chunk? a).any fun c => c.generation == state.generation

/-- Forgets the chunks that are no longer loaded, or were loaded anew, and counts them. -/
def prune (s : Store) (w : World) : Nat × Store :=
  let stale := (s.states.toList.filter fun e => !isCurrent w e.1 e.2).map (·.1)
  (stale.length, stale.foldl forget s)

def publishedCount (s : Store) : Nat := s.meshes.size

def inFlightCount (s : Store) : Nat := s.states.toList.countP fun e => e.2.inFlight

/-- Quads of all published meshes. -/
def quadCount (s : Store) : Nat := total (s.meshes.toList.map fun e => e.2.quadCount)

end Store

end VoxelScene
