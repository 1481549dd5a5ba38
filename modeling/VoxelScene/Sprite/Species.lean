import VoxelScene.Sprite.Batch

/-!
Batches by species.

Each registration of a species has a number of its own. A spawner names a species and a registration;
once that registration is gone, its changes go nowhere, even if the species is registered anew, but
it goes on handing out ids.
-/

namespace VoxelScene

/-- A registered batch and the number of its registration. -/
structure Registered where
  registration : Nat
  batch : Batch

/-- A handle for producers. -/
structure Spawner where
  species : String
  registration : Nat
deriving DecidableEq, Repr

structure SpeciesTable where
  entries : Std.ExtTreeMap String Registered
  /-- Next id of each registration that is gone. -/
  retired : Std.ExtTreeMap Nat Nat
  nextRegistration : Nat

namespace SpeciesTable

def empty : SpeciesTable := ⟨∅, ∅, 0⟩

def registered? (t : SpeciesTable) (species : String) : Option Registered := t.entries[species]?

def batch? (t : SpeciesTable) (species : String) : Option Batch :=
  (t.registered? species).map Registered.batch

def contains (t : SpeciesTable) (species : String) : Bool := (t.registered? species).isSome

/-- Replaces the batch of a species, if it is registered. -/
def modifyBatch (t : SpeciesTable) (species : String) (f : Batch → Batch) : SpeciesTable :=
  { t with entries := t.entries.modify species fun e => { e with batch := f e.batch } }

def register (t : SpeciesTable) (species : String) (s : BatchSettings) :
    Except SpeciesError SpeciesTable := do
  if t.contains species then throw (.duplicate species)
  let batch ← Batch.create species s
  return ⟨t.entries.insert species ⟨t.nextRegistration, batch⟩, t.retired, t.nextRegistration + 1⟩

/-- Drops a species with everything in it; nothing if it is not registered. -/
def unregister? (t : SpeciesTable) (species : String) : Option SpeciesTable :=
  (t.registered? species).map fun e =>
    { t with
      entries := t.entries.erase species
      retired := t.retired.insert e.registration e.batch.feed.nextId }

/-- Queues a change; nothing happens for an unknown species. -/
def send (t : SpeciesTable) (species : String) (c : Command) : SpeciesTable :=
  t.modifyBatch species fun b => { b with feed := b.feed.send c }

/-- Queues a new sprite under a fresh id; nothing for an unknown species. -/
def spawn? (t : SpeciesTable) (species : String) (placement : Placement) (tint : Vec4) :
    Option (Nat × SpeciesTable) :=
  ((t.batch? species).map fun b => b.feed.nextId).map fun id =>
    (id, t.modifyBatch species fun b => { b with feed := (b.feed.spawn placement tint).2 })

/-- Updates every batch; also counts those that sorted. -/
def update (t : SpeciesTable) (c : Camera) (dt : Single) : Nat × SpeciesTable :=
  let sorted := t.entries.toList.countP fun e => (e.2.batch.update c dt).1
  let entries := t.entries.map fun _ e => { e with batch := (e.batch.update c dt).2 }
  (sorted, { t with entries := entries })

/-- Updates the batch of one species; nothing if it is not registered. -/
def updateOne? (t : SpeciesTable) (species : String) (c : Camera) (dt : Single) :
    Option (Bool × SpeciesTable) :=
  (t.batch? species).map fun b =>
    let (sorted, b') := b.update c dt
    (sorted, t.modifyBatch species fun _ => b')

/-- Chooses and sorts the visible sprites of one species. -/
def refresh (t : SpeciesTable) (species : String) (c : Camera) : SpeciesTable :=
  t.modifyBatch species fun b => b.refresh c

/-- Notes that drawing resources were made for a species. -/
def attach (t : SpeciesTable) (species : String) : SpeciesTable :=
  t.modifyBatch species fun b => { b with attached := true }

/-- Numbers of species, live sprites and visible sprites. -/
def stats (t : SpeciesTable) : Nat × Nat × Nat :=
  let batches := t.entries.toList.map fun e => e.2.batch
  (batches.length, total (batches.map fun b => b.live.size),
    total (batches.map fun b => b.visible.length))

/-! ### Spawners -/

def spawner? (t : SpeciesTable) (species : String) : Option Spawner :=
  (t.registered? species).map fun e => ⟨species, e.registration⟩

/-- The batch that a spawner feeds, while its registration stands. -/
def fedBy? (t : SpeciesTable) (s : Spawner) : Option Batch :=
  (t.registered? s.species).bind fun e => if e.registration = s.registration then some e.batch else none

/-- Queues a change through a spawner. -/
def sendVia (t : SpeciesTable) (s : Spawner) (c : Command) : SpeciesTable :=
  if (t.fedBy? s).isSome then t.send s.species c else t

/-- Reserves an id through a spawner. -/
def takeIdVia (t : SpeciesTable) (s : Spawner) : Nat × SpeciesTable :=
  match (t.fedBy? s).map fun b => b.feed.nextId with
  | some id => (id, t.modifyBatch s.species fun b => { b with feed := b.feed.takeId.2 })
  | none =>
    let id := (t.retired[s.registration]?).getD 1
    (id, { t with retired := t.retired.insert s.registration (id + 1) })

/-- Queues a new sprite through a spawner. -/
def spawnVia (t : SpeciesTable) (s : Spawner) (placement : Placement) (tint : Vec4) :
    Nat × SpeciesTable :=
  let (id, t) := t.takeIdVia s
  (id, t.sendVia s (.add ⟨id, placement, tint⟩))

end SpeciesTable

end VoxelScene
