import Std.Data.ExtTreeMap
import VoxelScene.Number.Notation
import VoxelScene.Number.Total
import VoxelScene.Sprite.Blend
import VoxelScene.Sprite.Depth

/-!
Batches of sprites.

A batch holds the live sprites of one species and shows at most `capacity` of them. Changes are
queued and take effect with the next update: all additions first, then all removals. The visible
sprites are chosen and sorted anew when the sort interval has passed; in between, removed sprites
leave at once and added ones join at the end while there is room.
-/

namespace VoxelScene

structure BatchSettings where
  capacity : Nat := 4096
  /-- Seconds between two sorts. -/
  sortInterval : Single := 0.1
  depth : DepthPolicy := {}
  blend : BlendMode := .alpha
deriving DecidableEq, Repr

/-- Why a species was refused. -/
inductive SpeciesError where
  | duplicate (species : String)
  | zeroCapacity (species : String)
  | invalidInterval (species : String) (interval : Single)
deriving DecidableEq, Repr

def SpeciesError.message : SpeciesError → String
  | .duplicate species => s!"duplicate billboard species: {species}"
  | .zeroCapacity species => s!"billboard species {species} has zero capacity"
  | .invalidInterval species interval =>
    s!"billboard species {species} has invalid sort interval {interval.plain}"

/-- A queued change. -/
inductive Command where
  | add (s : Sprite)
  | remove (id : Nat)
deriving DecidableEq, Repr

/-- Where producers leave their changes: fresh ids go up by one, changes keep their order. -/
structure Feed where
  nextId : Nat := 1
  queue : Array Command := #[]
deriving DecidableEq, Repr

namespace Feed

/-- Reserves an id. -/
def takeId (f : Feed) : Nat × Feed := (f.nextId, { f with nextId := f.nextId + 1 })

def send (f : Feed) (c : Command) : Feed := { f with queue := f.queue.push c }

/-- Queues a new sprite under a fresh id. -/
def spawn (f : Feed) (placement : Placement) (tint : Vec4) : Nat × Feed :=
  let (id, f) := f.takeId
  (id, f.send (.add ⟨id, placement, tint⟩))

end Feed

namespace Command

def added? : Command → Option Sprite
  | .add s => some s
  | .remove _ => none

def removed? : Command → Option Nat
  | .add _ => none
  | .remove id => some id

end Command

structure Batch where
  settings : BatchSettings
  feed : Feed
  live : Std.ExtTreeMap Nat Sprite
  /-- Ids of the visible sprites, the farthest first. -/
  visible : List Nat
  /-- The visible sprites as they are drawn. -/
  packed : List PackedSprite
  /-- Seconds since the last sort. -/
  timer : Single
  /-- Drawing resources were made for the batch. -/
  attached : Bool

namespace Batch

/-- An empty batch. The timer starts full, so that the first update sorts. -/
def create (species : String) (s : BatchSettings) : Except SpeciesError Batch :=
  if s.capacity = 0 then .error (.zeroCapacity species)
  else if !s.sortInterval.isFinite || s.sortInterval.blt .zero then
    .error (.invalidInterval species s.sortInterval)
  else .ok ⟨s, {}, ∅, [], [], s.sortInterval, false⟩

def capacity (b : Batch) : Nat := b.settings.capacity

def sprite? (b : Batch) (id : Nat) : Option Sprite := b.live[id]?

def isLive (b : Batch) (id : Nat) : Bool := (b.sprite? id).isSome

/-- Bytes of the instance buffer. -/
def bufferSize (b : Batch) : Nat := b.capacity * 80

/-- Makes the given changes to the live sprites: all additions, then all removals. -/
def apply (b : Batch) (cs : List Command) : Batch :=
  let added := (cs.filterMap Command.added?).foldl (fun live s => live.insert s.id s) b.live
  { b with live := (cs.filterMap Command.removed?).foldl (fun live id => live.erase id) added }

/-- Packs the visible sprites. -/
def repack (b : Batch) : Batch :=
  { b with packed := b.visible.filterMap fun id => (b.sprite? id).map Sprite.pack }

/-- Chooses and sorts the visible sprites. -/
def refresh (b : Batch) (c : Camera) : Batch :=
  let ranked := b.live.toList.map fun e => ⟨b.settings.depth.score c e.2.position, e.1⟩
  ({ b with visible := Ranked.selectVisible ranked b.capacity } : Batch).repack

/-- Lets added ids join at the end, while there is room: those that are live and not there yet. -/
def joinShown (capacity : Nat) (isLive : Nat → Bool) : (shown : List Nat) → (added : List Nat) → List Nat
  | shown, [] => shown
  | shown, id :: rest =>
    if capacity ≤ shown.length then shown
    else if isLive id && !shown.contains id then joinShown capacity isLive (shown ++ [id]) rest
    else joinShown capacity isLive shown rest

/-- Brings the visible sprites in line with the live ones without sorting. -/
def patch (b : Batch) (added : List Nat) : Batch :=
  let kept := b.visible.filter b.isLive
  ({ b with visible := joinShown b.capacity b.isLive kept added } : Batch).repack

/-- Time passes: the changes that were taken from the queue are made, and the visible sprites are
sorted if the interval has passed, else patched. Also says whether they were sorted. -/
def advance (b : Batch) (taken : List Command) (c : Camera) (dt : Single) : Bool × Batch :=
  let b := b.apply taken
  let timer := b.timer + dt.max .zero
  if b.settings.sortInterval.ble timer then
    (true, ({ b with timer := .zero } : Batch).refresh c)
  else
    let b := { b with timer := timer }
    if taken.isEmpty then (false, b)
    else (false, b.patch ((taken.filterMap Command.added?).map (·.id)))

/-- An update that takes the first `n` queued changes. -/
def updateTaking (n : Nat) (b : Batch) (c : Camera) (dt : Single) : Bool × Batch :=
  let taken := b.feed.queue.toList.take n
  let rest := { b.feed with queue := b.feed.queue.extract n b.feed.queue.size }
  ({ b with feed := rest } : Batch).advance taken c dt

/-- An update that takes all queued changes. -/
def update (b : Batch) (c : Camera) (dt : Single) : Bool × Batch :=
  b.updateTaking b.feed.queue.size c dt

end Batch

end VoxelScene
