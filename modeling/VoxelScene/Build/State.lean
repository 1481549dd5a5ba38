/-!
Build states.

For each chunk that was ever asked for, the store remembers which version of the chunk its mesh
shows, which load of the chunk that was, and whether a build is on its way.
-/

namespace VoxelScene

structure BuildState where
  /-- Version shown by the published mesh; 0 while there is none. -/
  meshedVersion : Nat
  generation : Nat
  inFlight : Bool
deriving DecidableEq, Repr

namespace BuildState

/-- A load of a chunk that was never meshed. -/
def fresh (generation : Nat) : BuildState := ⟨0, generation, false⟩

/-- The published mesh does not show this version. -/
def isStale (s : BuildState) (version : Nat) : Bool := s.meshedVersion != version

/-- A build should be asked for now. -/
def needsBuild (s : BuildState) (version : Nat) : Bool := s.isStale version && !s.inFlight

end BuildState

/-- What became of a request for a build. -/
inductive RequestOutcome where
  | submitted
  /-- A build for the chunk is on its way already. -/
  | alreadyInFlight
  /-- The published mesh shows the current version. -/
  | upToDate
  /-- The ramp masks have to be brought up to date first. -/
  | rampsPending
  /-- The pipeline took no task. -/
  | budgetExhausted
  | notLoaded
deriving DecidableEq, Repr

namespace RequestOutcome

def all : List RequestOutcome :=
  [.submitted, .alreadyInFlight, .upToDate, .rampsPending, .budgetExhausted, .notLoaded]

def name : RequestOutcome → String
  | .submitted => "Submitted"
  | .alreadyInFlight => "AlreadyInFlight"
  | .upToDate => "UpToDate"
  | .rampsPending => "RampsPending"
  | .budgetExhausted => "BudgetExhausted"
  | .notLoaded => "NotLoaded"

/-- The chunk need not be asked for again until it changes. -/
def settles : RequestOutcome → Bool
  | .submitted | .upToDate => true
  | _ => false

end RequestOutcome

end VoxelScene
