import Mathlib.Data.List.Nodup
import Mathlib.Data.List.Perm.Basic
import VoxelScene.Sprite.Batch

/-!
Live sprites.

Producers leave additions and removals in a queue, and the batch takes them off it in pieces of any
length. Inside a piece all additions are made before all removals, while one piece is made after the
other. Where the queue is cut does not matter: an id is given out once, and it can be removed only
after its sprite was queued, so no removal is ever followed by an addition of the same id.
-/

namespace VoxelScene

/-! ### Changes to the live sprites -/

namespace Command

theorem mem_added {cs : List Command} {s : Sprite} :
    s ∈ cs.filterMap added? ↔ .add s ∈ cs := by
  rw [List.mem_filterMap]
  constructor
  · rintro ⟨c, hc, hs⟩
    cases c with
    | add t =>
      obtain rfl : t = s := Option.some.inj hs
      exact hc
    | remove id => cases hs
  · intro hs
    exact ⟨.add s, hs, rfl⟩

theorem mem_removed {cs : List Command} {id : Nat} :
    id ∈ cs.filterMap removed? ↔ .remove id ∈ cs := by
  rw [List.mem_filterMap]
  constructor
  · rintro ⟨c, hc, hid⟩
    cases c with
    | add t => cases hid
    | remove k =>
      obtain rfl : k = id := Option.some.inj hid
      exact hc
  · intro hid
    exact ⟨.remove id, hid, rfl⟩

end Command

namespace Batch

theorem getElem?_foldl_insert (ss : List Sprite) (live : Std.ExtTreeMap Nat Sprite) (id : Nat) :
    (ss.foldl (fun live s => live.insert s.id s) live)[id]? =
      (ss.reverse.find? fun s => s.id = id).or live[id]? := by
  induction ss generalizing live with
  | nil => rfl
  | cons s ss ih =>
    rw [List.foldl_cons, ih, List.reverse_cons, List.find?_append, Option.or_assoc]
    congr 1
    by_cases h : s.id = id
    · simp [h]
    · simp [h, Std.ExtTreeMap.getElem?_insert]

theorem getElem?_foldl_erase (ids : List Nat) (live : Std.ExtTreeMap Nat Sprite) (id : Nat) :
    (ids.foldl (fun live k => live.erase k) live)[id]? =
      if id ∈ ids then none else live[id]? := by
  induction ids generalizing live with
  | nil => rfl
  | cons k ids ih =>
    rw [List.foldl_cons, ih]
    by_cases hmem : id ∈ ids
    · simp [hmem]
    · by_cases hk : k = id
      · simp [hk]
      · have hne : id ≠ k := fun h => hk h.symm
        simp [hmem, hne, hk, Std.ExtTreeMap.getElem?_erase]

/-- A removed id is gone, whatever was added under it; any other shows the last sprite added. -/
theorem sprite?_apply (b : Batch) (cs : List Command) (id : Nat) :
    (b.apply cs).sprite? id =
      if .remove id ∈ cs then none
      else ((cs.filterMap Command.added?).reverse.find? fun s => s.id = id).or (b.sprite? id) := by
  simp only [apply, sprite?, getElem?_foldl_erase, getElem?_foldl_insert, Command.mem_removed]

/-- With one sprite for each id, it does not matter which was added last. -/
theorem sprite?_apply_eq_some {b : Batch} {cs : List Command} {id : Nat} {s : Sprite}
    (hnodup : ((cs.filterMap Command.added?).map Sprite.id).Nodup) :
    (b.apply cs).sprite? id = some s ↔ .remove id ∉ cs ∧ (.add s ∈ cs ∧ s.id = id ∨
      (∀ t, .add t ∈ cs → t.id ≠ id) ∧ b.sprite? id = some s) := by
  rw [sprite?_apply]
  by_cases hrem : .remove id ∈ cs
  · simp [hrem]
  · rw [if_neg hrem]
    cases hfind : (cs.filterMap Command.added?).reverse.find? fun s => s.id = id with
    | none =>
      have hall : ∀ t, .add t ∈ cs → t.id ≠ id := by
        intro t ht
        have hmem := List.mem_reverse.mpr (Command.mem_added.mpr ht)
        simpa using List.find?_eq_none.mp hfind t hmem
      constructor
      · intro hs
        exact ⟨hrem, .inr ⟨hall, hs⟩⟩
      · rintro ⟨-, ⟨hs, hid⟩ | ⟨-, hs⟩⟩
        · exact absurd hid (hall s hs)
        · exact hs
    | some t =>
      have ht : t ∈ cs.filterMap Command.added? :=
        List.mem_reverse.mp (List.mem_of_find?_eq_some hfind)
      have hid : t.id = id := by simpa using List.find?_some hfind
      constructor
      · intro hs
        obtain rfl : t = s := Option.some.inj hs
        exact ⟨hrem, .inl ⟨Command.mem_added.mp ht, hid⟩⟩
      · rintro ⟨-, ⟨hs, hsid⟩ | ⟨hall, -⟩⟩
        · have heq : t = s := List.inj_on_of_nodup_map hnodup ht (Command.mem_added.mpr hs)
            (hid.trans hsid.symm)
          exact congrArg some heq
        · exact absurd hid (hall t (Command.mem_added.mp ht))

/-- The ways an update can go: it sorts, it has nothing to do, or it patches. -/
theorem advance_cases (b : Batch) (taken : List Command) (c : Camera) (dt : Single) :
    b.advance taken c dt = (true, ({ b.apply taken with timer := .zero } : Batch).refresh c) ∨
    taken = [] ∧ b.advance taken c dt = (false, { b with timer := b.timer + dt.max .zero }) ∨
    taken ≠ [] ∧ b.advance taken c dt =
      (false, ({ b.apply taken with timer := b.timer + dt.max .zero } : Batch).patch
        ((taken.filterMap Command.added?).map Sprite.id)) := by
  unfold advance
  dsimp only
  split
  · exact .inl rfl
  · by_cases htaken : taken = []
    · subst htaken
      exact .inr (.inl ⟨rfl, rfl⟩)
    · have hsome : ¬ taken.isEmpty = true := by simpa using htaken
      rw [if_neg hsome]
      exact .inr (.inr ⟨htaken, rfl⟩)

theorem advance_keeps (b : Batch) (taken : List Command) (c : Camera) (dt : Single) :
    (b.advance taken c dt).2.live = (b.apply taken).live ∧
      (b.advance taken c dt).2.feed = b.feed ∧ (b.advance taken c dt).2.settings = b.settings := by
  obtain h | ⟨rfl, h⟩ | ⟨-, h⟩ := b.advance_cases taken c dt
  all_goals
    rw [h]
    exact ⟨rfl, rfl, rfl⟩

theorem sprite?_updateTaking (b : Batch) (n : Nat) (c : Camera) (dt : Single) (id : Nat) :
    (b.updateTaking n c dt).2.sprite? id =
      (b.apply (b.feed.queue.toList.take n)).sprite? id := by
  unfold updateTaking sprite?
  rw [(advance_keeps ..).1]
  rfl

theorem nextId_updateTaking (b : Batch) (n : Nat) (c : Camera) (dt : Single) :
    (b.updateTaking n c dt).2.feed.nextId = b.feed.nextId := by
  unfold updateTaking
  rw [(advance_keeps ..).2.1]

theorem queue_updateTaking (b : Batch) (n : Nat) (c : Camera) (dt : Single) :
    (b.updateTaking n c dt).2.feed.queue.toList = b.feed.queue.toList.drop n := by
  unfold updateTaking
  rw [(advance_keeps ..).2.1]
  have hall : (b.feed.queue.toList.drop n).length ≤ b.feed.queue.size - n := by simp
  simp [List.take_of_length_le hall]

theorem eq_of_create {species : String} {settings : BatchSettings} {b : Batch}
    (h : create species settings = .ok b) :
    b = ⟨settings, {}, ∅, [], [], settings.sortInterval, false⟩ := by
  unfold create at h
  split at h
  · cases h
  · split at h
    · cases h
    · exact (Except.ok.inj h).symm

end Batch

/-! ### Producers -/

/-- A batch and its producers. -/
structure Traffic where
  batch : Batch
  /-- Sprites of the spawns that are under way: each has its id and is not queued yet. -/
  pending : List Sprite
  /-- All changes that were ever queued, in order. -/
  sent : List Command

namespace Traffic

def start (b : Batch) : Traffic := ⟨b, [], []⟩

/-- The sprites of all spawns that returned. -/
def spawned (x : Traffic) : List Sprite := x.sent.filterMap Command.added?

def removed (x : Traffic) : List Nat := x.sent.filterMap Command.removed?

/-- What producers and the batch do. A spawn takes an id and then queues its sprite; it may be left
undisturbed, or others may come in between. -/
inductive Event where
  | spawn (placement : Placement) (tint : Vec4)
  | reserve (placement : Placement) (tint : Vec4)
  | queue (i : Nat)
  | remove (id : Nat)
  | update (n : Nat) (c : Camera) (dt : Single)

def send (x : Traffic) (c : Command) : Traffic :=
  ⟨{ x.batch with feed := x.batch.feed.send c }, x.pending, x.sent ++ [c]⟩

/-- The situation after an event, if the event can happen: an id is removed only after the spawn that
it belongs to returned. -/
def perform (x : Traffic) : Event → Option Traffic
  | .spawn placement tint =>
    let (id, feed) := x.batch.feed.spawn placement tint
    some ⟨{ x.batch with feed := feed }, x.pending, x.sent ++ [.add ⟨id, placement, tint⟩]⟩
  | .reserve placement tint =>
    let (id, feed) := x.batch.feed.takeId
    some ⟨{ x.batch with feed := feed }, x.pending ++ [⟨id, placement, tint⟩], x.sent⟩
  | .queue i =>
    x.pending[i]?.map fun s => { x.send (.add s) with pending := x.pending.eraseIdx i }
  | .remove id => if id ∈ x.spawned.map Sprite.id then some (x.send (.remove id)) else none
  | .update n c dt => some { x with batch := (x.batch.updateTaking n c dt).2 }

@[simp] theorem spawned_send_add (x : Traffic) (s : Sprite) :
    (x.send (.add s)).spawned = x.spawned ++ [s] := by
  rw [spawned, send, List.filterMap_append]
  rfl

@[simp] theorem spawned_send_remove (x : Traffic) (id : Nat) :
    (x.send (.remove id)).spawned = x.spawned := by
  rw [spawned, send, List.filterMap_append]
  exact List.append_nil _

/-- A spawn that is left undisturbed is its two steps in a row. -/
theorem perform_spawn (x : Traffic) (placement : Placement) (tint : Vec4) :
    x.perform (.spawn placement tint) =
      (x.perform (.reserve placement tint)).bind (·.perform (.queue x.pending.length)) := by
  simp [perform, Feed.spawn, Feed.takeId, send, List.eraseIdx_append_of_length_le]

/-! ### What the queue has come to -/

/-- Ids are given out once, a removal comes after the addition that it is about, and the live sprites
are what the changes taken so far have come to. -/
structure Orderly (x : Traffic) : Prop where
  distinct : ((x.spawned ++ x.pending).map Sprite.id).Nodup
  issued : ∀ s ∈ x.spawned ++ x.pending, s.id < x.batch.feed.nextId
  causal : ∀ before id, before ++ [.remove id] <+: x.sent → ∃ s, .add s ∈ before ∧ s.id = id
  applied : ∃ done, x.sent = done ++ x.batch.feed.queue.toList ∧
    ∀ id s, x.batch.sprite? id = some s ↔ .add s ∈ done ∧ s.id = id ∧ .remove id ∉ done

namespace Orderly

variable {x y : Traffic}

theorem start {species : String} {settings : BatchSettings} {b : Batch}
    (hb : Batch.create species settings = .ok b) : Orderly (start b) := by
  obtain rfl := Batch.eq_of_create hb
  refine ⟨List.nodup_nil, fun s hs => ?_, fun before id hsent => ?_, [], rfl, fun id s => ?_⟩
  · cases hs
  · have hnil : before ++ [.remove id] = [] := List.prefix_nil.mp hsent
    simp at hnil
  · simp [Traffic.start, Batch.sprite?]

/-- What was sent comes in the order in which it is taken: what is removed in the first part was
added there. -/
theorem added_of_removed (h : x.Orderly) {done rest : List Command} (hsent : x.sent = done ++ rest)
    {id : Nat} (hid : .remove id ∈ done) : ∃ s, .add s ∈ done ∧ s.id = id := by
  obtain ⟨before, after, rfl⟩ := List.append_of_mem hid
  have hpre : before ++ [.remove id] <+: x.sent := ⟨after ++ rest, by simp [hsent]⟩
  obtain ⟨s, hs, hsid⟩ := h.causal before id hpre
  exact ⟨s, List.mem_append_left _ hs, hsid⟩

theorem nodup_spawned (h : x.Orderly) : (x.spawned.map Sprite.id).Nodup := by
  have hnodup := h.distinct
  rw [List.map_append] at hnodup
  exact (List.nodup_append.mp hnodup).1

theorem update (h : x.Orderly) (n : Nat) (c : Camera) (dt : Single) :
    Orderly { x with batch := (x.batch.updateTaking n c dt).2 } := by
  obtain ⟨done, hsent, hdone⟩ := h.applied
  have hcut := List.take_append_drop n x.batch.feed.queue.toList
  have hsent' : x.sent = (done ++ x.batch.feed.queue.toList.take n) ++
      x.batch.feed.queue.toList.drop n := by
    rw [List.append_assoc, hcut, hsent]
  refine ⟨h.distinct, fun s hs => ?_, h.causal, done ++ x.batch.feed.queue.toList.take n, ?_, ?_⟩
  · rw [Batch.nextId_updateTaking]
    exact h.issued s hs
  · rw [Batch.queue_updateTaking]
    exact hsent'
  · intro id s
    have hnodup := h.nodup_spawned
    rw [Traffic.spawned, hsent', List.filterMap_append, List.filterMap_append, List.map_append,
      List.map_append, List.nodup_append, List.nodup_append] at hnodup
    obtain ⟨⟨-, htaken, hapart⟩, -, -⟩ := hnodup
    -- No sprite of this piece has an id of an earlier one.
    have hnew : ∀ s t, .add s ∈ done → .add t ∈ x.batch.feed.queue.toList.take n →
        s.id ≠ t.id := fun s t hs ht =>
      hapart _ (List.mem_map_of_mem (Command.mem_added.mpr hs)) _
        (List.mem_map_of_mem (Command.mem_added.mpr ht))
    rw [Batch.sprite?_updateTaking, Batch.sprite?_apply_eq_some htaken, hdone]
    simp only [List.mem_append, not_or]
    constructor
    · rintro ⟨hnow, ⟨hs, hid⟩ | ⟨-, hs, hid, hbefore⟩⟩
      · refine ⟨.inr hs, hid, fun hrem => ?_, hnow⟩
        obtain ⟨t, ht, htid⟩ := h.added_of_removed hsent hrem
        exact hnew t s ht hs (htid.trans hid.symm)
      · exact ⟨.inl hs, hid, hbefore, hnow⟩
    · rintro ⟨hs | hs, hid, hbefore, hnow⟩
      · exact ⟨hnow, .inr ⟨fun t ht htid => hnew s t hs ht (hid.trans htid.symm), hs, hid, hbefore⟩⟩
      · exact ⟨hnow, .inl ⟨hs, hid⟩⟩

theorem reserve (h : x.Orderly) (placement : Placement) (tint : Vec4)
    (hy : x.perform (.reserve placement tint) = some y) : y.Orderly := by
  obtain rfl := Option.some.inj hy
  refine ⟨?_, fun s hs => ?_, h.causal, h.applied⟩
  · have hnew : ∀ k ∈ (x.spawned ++ x.pending).map Sprite.id, k ≠ x.batch.feed.nextId := by
      intro k hk
      obtain ⟨s, hs, rfl⟩ := List.mem_map.mp hk
      have hlt := h.issued s hs
      omega
    show ((x.spawned ++ (x.pending ++ [_])).map Sprite.id).Nodup
    rw [← List.append_assoc, List.map_append, List.nodup_append]
    refine ⟨h.distinct, List.nodup_singleton _, fun k hk j hj => ?_⟩
    obtain rfl : j = x.batch.feed.nextId := by simpa [Feed.takeId] using hj
    exact hnew k hk
  · have hs : s ∈ x.spawned ++ x.pending ∨ s.id = x.batch.feed.nextId := by
      have hs : s ∈ x.spawned ++ (x.pending ++ [_]) := hs
      rw [← List.append_assoc, List.mem_append, List.mem_singleton] at hs
      rcases hs with hs | rfl
      · exact .inl hs
      · exact .inr rfl
    show s.id < x.batch.feed.nextId + 1
    rcases hs with hs | hs
    · have hlt := h.issued s hs
      omega
    · omega

theorem send (h : x.Orderly) {c : Command} (pending : List Sprite)
    (hperm : ((x.send c).spawned ++ pending).Perm (x.spawned ++ x.pending))
    (hcausal : ∀ id, c = .remove id → id ∈ x.spawned.map Sprite.id) :
    Orderly { x.send c with pending := pending } := by
  obtain ⟨done, hsent, hdone⟩ := h.applied
  refine ⟨(hperm.map _).nodup_iff.mpr h.distinct, fun s hs => h.issued s (hperm.mem_iff.mp hs),
    fun before id hpre => ?_, done, ?_, hdone⟩
  · rcases List.prefix_concat_iff.mp hpre with heq | hpre
    · obtain ⟨rfl, hc⟩ := List.append_inj' heq rfl
      obtain ⟨s, hs, hid⟩ := List.mem_map.mp (hcausal id (List.singleton_inj.mp hc).symm)
      exact ⟨s, Command.mem_added.mp hs, hid⟩
    · exact h.causal before id hpre
  · simp [Traffic.send, Feed.send, hsent]

theorem perform (h : x.Orderly) {e : Event} (hy : x.perform e = some y) : y.Orderly := by
  have queue {x y : Traffic} {i : Nat} (h : x.Orderly) (hy : x.perform (.queue i) = some y) :
      y.Orderly := by
    obtain ⟨s, hs, rfl⟩ := Option.map_eq_some_iff.mp hy
    obtain ⟨hi, rfl⟩ := List.getElem?_eq_some_iff.mp hs
    refine h.send (x.pending.eraseIdx i) ?_ (fun id hid => by cases hid)
    have hperm := List.getElem_cons_eraseIdx_perm hi
    rw [spawned_send_add, List.append_assoc]
    exact hperm.append_left x.spawned
  cases e with
  | spawn placement tint =>
    rw [perform_spawn] at hy
    obtain ⟨z, hz, hy⟩ := Option.bind_eq_some_iff.mp hy
    exact queue (h.reserve placement tint hz) hy
  | reserve placement tint => exact h.reserve placement tint hy
  | queue i => exact queue h hy
  | remove id =>
    simp only [Traffic.perform] at hy
    split at hy
    · rename_i hid
      obtain rfl := Option.some.inj hy
      refine h.send x.pending ?_ (fun k hk => by cases hk; exact hid)
      rw [spawned_send_remove]
    · cases hy
  | update n c dt =>
    obtain rfl := Option.some.inj hy
    exact h.update n c dt

theorem run (h : x.Orderly) {events : List Event} (hy : events.foldlM Traffic.perform x = some y) :
    y.Orderly := by
  induction events generalizing x with
  | nil =>
    obtain rfl : x = y := Option.some.inj hy
    exact h
  | cons e events ih =>
    rw [List.foldlM_cons] at hy
    obtain ⟨z, hz, hy⟩ := Option.bind_eq_some_iff.mp hy
    exact ih (h.perform hz) hy

/-- Once all that was queued is taken, a live sprite is one that was spawned and not removed. -/
theorem sprite?_eq_some (h : x.Orderly) (hempty : x.batch.feed.queue = #[]) {id : Nat} {s : Sprite} :
    x.batch.sprite? id = some s ↔ s ∈ x.spawned ∧ s.id = id ∧ id ∉ x.removed := by
  obtain ⟨done, hsent, hdone⟩ := h.applied
  rw [hempty, List.append_nil] at hsent
  rw [hdone, spawned, removed, Command.mem_added, Command.mem_removed, hsent]

end Orderly

/-- However the producers interleave, and wherever updates cut the queue: once the queue is empty,
the live sprites are those spawned and not removed, each as it was spawned. So two runs that spawned
and removed the same have the same live sprites. -/
theorem live_iff_spawned_and_kept {species : String} {settings : BatchSettings} {b : Batch}
    (hb : Batch.create species settings = .ok b) {events : List Event} {x : Traffic}
    (hrun : events.foldlM perform (start b) = some x) (hempty : x.batch.feed.queue = #[]) :
    (x.spawned.map Sprite.id).Nodup ∧
    (∀ id, x.batch.isLive id = true ↔ id ∈ x.spawned.map Sprite.id ∧ id ∉ x.removed) ∧
    (∀ s ∈ x.spawned, s.id ∉ x.removed → x.batch.sprite? s.id = some s) ∧
    ∀ (events' : List Event) y, events'.foldlM perform (start b) = some y → y.batch.feed.queue = #[] →
      (∀ s, s ∈ y.spawned ↔ s ∈ x.spawned) → (∀ id, id ∈ y.removed ↔ id ∈ x.removed) →
      y.batch.live = x.batch.live := by
  have hx := (Orderly.start hb).run hrun
  refine ⟨hx.nodup_spawned, fun id => ?_, fun s hs hkept => ?_, fun events' y hrun' hempty' hs hr => ?_⟩
  · rw [Batch.isLive, Option.isSome_iff_exists]
    simp only [hx.sprite?_eq_some hempty, List.mem_map]
    constructor
    · rintro ⟨s, hs, hid, hkept⟩
      exact ⟨⟨s, hs, hid⟩, hkept⟩
    · rintro ⟨⟨s, hs, hid⟩, hkept⟩
      exact ⟨s, hs, hid, hkept⟩
  · exact (hx.sprite?_eq_some hempty).mpr ⟨hs, rfl, hkept⟩
  · have hy := (Orderly.start hb).run hrun'
    apply Std.ExtTreeMap.ext_getElem?
    intro id
    apply Option.ext
    intro s
    show y.batch.sprite? id = some s ↔ x.batch.sprite? id = some s
    rw [hy.sprite?_eq_some hempty', hx.sprite?_eq_some hempty, hs, hr]

/-- Two producers take ids; the second queues its sprite and removes it again before the first has
queued its own, and an update cuts the queue between the two changes. -/
theorem live_iff_spawned_and_kept_cut_between :
    ∃ b x, Batch.create "tree" {} = .ok b ∧
      [.reserve (.standingAt .zero) .ones, .reserve (.standingAt .zero) .ones, .queue 1, .remove 2,
        .update 1 .standard .zero, .queue 0, .update 2 .standard .zero].foldlM perform (start b) =
        some x ∧
      x.batch.feed.queue = #[] ∧ x.batch.sprite? 1 = some ⟨1, .standingAt .zero, .ones⟩ ∧
      x.batch.isLive 2 = false := by
  obtain ⟨b, hb⟩ : ∃ b, Batch.create "tree" {} = .ok b := ⟨_, rfl⟩
  obtain ⟨x, hrun, hspawned, hremoved, hempty⟩ : ∃ x,
      [.reserve (.standingAt .zero) .ones, .reserve (.standingAt .zero) .ones, .queue 1, .remove 2,
        .update 1 .standard .zero, .queue 0, .update 2 .standard .zero].foldlM perform (start b) =
        some x ∧
      x.spawned = [⟨2, .standingAt .zero, .ones⟩, ⟨1, .standingAt .zero, .ones⟩] ∧
      x.removed = [2] ∧ x.batch.feed.queue = #[] := by
    obtain rfl := Except.ok.inj hb
    exact ⟨_, rfl, rfl, rfl, rfl⟩
  obtain ⟨-, hlive, hsame, -⟩ := live_iff_spawned_and_kept hb hrun hempty
  refine ⟨b, x, hb, hrun, hempty, ?_, ?_⟩
  · exact hsame ⟨1, .standingAt .zero, .ones⟩ (by simp [hspawned]) (by simp [hremoved])
  · have hgone : ¬ x.batch.isLive 2 = true := by
      rw [hlive, hremoved]
      simp
    simpa using hgone

end Traffic

end VoxelScene
