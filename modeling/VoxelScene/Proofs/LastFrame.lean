import Mathlib.Data.List.DropRight
import VoxelScene.Demo.Grove
import VoxelScene.Noise.Stream
import VoxelScene.Proofs.SpeciesIsolation

/-!
The last frame of the grove.

A frame updates one batch after the other, and the producer acts meanwhile. Each update takes what
is queued for its batch by then. What comes later stays in the queue: when the producer is done, the
visible sprites are chosen once more, but from the live ones, and nothing is taken from the queue.
So the live sprites at the end are those that were planted and not felled by the last update.
-/

namespace VoxelScene

/-! ### Commands taken from the queue -/

namespace Command

def addedIds (cs : List Command) : List Nat := (cs.filterMap added?).map Sprite.id

def removedIds (cs : List Command) : List Nat := cs.filterMap removed?

@[simp] theorem addedIds_append (cs ds : List Command) :
    addedIds (cs ++ ds) = addedIds cs ++ addedIds ds := by
  simp [addedIds]

@[simp] theorem removedIds_append (cs ds : List Command) :
    removedIds (cs ++ ds) = removedIds cs ++ removedIds ds := by
  simp [removedIds]

end Command

namespace Traffic.Orderly

variable {x : Traffic} {done : List Command}

theorem isLive_iff (h : x.Orderly) (hsent : x.sent = done ++ x.batch.feed.queue.toList) (id : Nat) :
    x.batch.isLive id = true ↔ id ∈ Command.addedIds done ∧ id ∉ Command.removedIds done := by
  obtain ⟨done', hsent', happlied⟩ := h.applied
  obtain rfl : done' = done := List.append_cancel_right (hsent'.symm.trans hsent)
  simp only [Batch.isLive, Option.isSome_iff_exists, happlied, Command.addedIds,
    Command.removedIds, List.mem_map, Command.mem_added, Command.mem_removed]
  constructor
  · rintro ⟨s, hs, hid, hkept⟩
    exact ⟨⟨s, hs, hid⟩, hkept⟩
  · rintro ⟨⟨s, hs, hid⟩, hkept⟩
    exact ⟨s, hs, hid, hkept⟩

/-- Every sprite that was taken from the queue is either live or removed. -/
theorem size_live (h : x.Orderly) (hsent : x.sent = done ++ x.batch.feed.queue.toList)
    (honce : (Command.removedIds done).Nodup) :
    x.batch.live.size + (Command.removedIds done).length = (Command.addedIds done).length := by
  have hadded : (Command.addedIds done).Nodup := by
    have hnodup : (Command.addedIds x.sent).Nodup := h.nodup_spawned
    rw [hsent, Command.addedIds_append, List.nodup_append] at hnodup
    exact hnodup.1
  have hkeys (id : Nat) : id ∈ x.batch.live.keys ↔ x.batch.isLive id = true := by
    rw [Std.ExtTreeMap.mem_keys, Batch.isLive, Batch.sprite?,
      Std.ExtTreeMap.isSome_getElem?_iff_mem]
  have hsplit : (x.batch.live.keys ++ Command.removedIds done).Perm (Command.addedIds done) := by
    rw [List.perm_ext_iff_of_nodup _ hadded]
    · intro id
      rw [List.mem_append, hkeys, h.isLive_iff hsent]
      have hremoved : id ∈ Command.removedIds done → id ∈ Command.addedIds done := by
        intro hid
        obtain ⟨s, hs, hsid⟩ := h.added_of_removed hsent (Command.mem_removed.mp hid)
        exact List.mem_map.mpr ⟨s, Command.mem_added.mpr hs, hsid⟩
      tauto
    · rw [List.nodup_append]
      refine ⟨Std.ExtTreeMap.nodup_keys, honce, fun id hid k hk heq => ?_⟩
      rw [hkeys, h.isLive_iff hsent, heq] at hid
      exact hid.2 hk
  rw [← hsplit.length_eq, List.length_append, Std.ExtTreeMap.length_keys]

end Traffic.Orderly

/-! ### What the producer plans -/

namespace PlantKind

theorem species_inj {k j : PlantKind} : k.species = j.species ↔ k = j := by
  cases k <;> cases j <;> decide

end PlantKind

namespace Act

variable {σ : Type} [Noise.Draws σ] {points : List Pos}

def plantsTree : Act → Bool
  | .plant p => p.kind = .tree
  | .fell _ => false

def felled? : Act → Option Nat
  | .plant _ => none
  | .fell n => some n

/-- Only trees are felled. -/
def concerns (k : PlantKind) : Act → Bool
  | .plant p => p.kind = k
  | .fell _ => k = .tree

variable (σ points) in
/-- A plan: what is planted, and then the numbers of the trees that are felled. -/
theorem exists_plan : ∃ (plants : List Plant) (ns : List Nat),
    plan σ points = plants.map .plant ++ ns.map .fell ∧ ns.Nodup ∧
      ∀ n ∈ ns, n < (plants.map Act.plant).countP plantsTree := by
  refine ⟨Plant.decideAll (Noise.Draws.ofSeed 42 : σ) points, _, rfl, List.nodup_range.filter _,
    fun n hn => ?_⟩
  rw [List.countP_map]
  exact List.mem_range.mp (List.mem_filter.mp hn).1

/-- The trees that are felled are there by then, and none is felled twice. -/
theorem fell_of_plan {acts : List Act} {n : Nat}
    (h : acts ++ [.fell n] <+: plan σ points) :
    n < acts.countP plantsTree ∧ n ∉ acts.filterMap felled? := by
  obtain ⟨plants, ns, hplan, hnodup, hlt⟩ := exists_plan σ points
  obtain ⟨rest, hrest⟩ := h
  have hnone : (plants.map Act.plant).filterMap felled? = [] := by
    simp [felled?]
  -- All is planted by then: the first act that fells a tree comes after every act that plants one.
  obtain ⟨fells, rfl, hns⟩ : ∃ fells, acts = plants.map .plant ++ fells ∧
      ns.map .fell = fells ++ .fell n :: rest := by
    rw [hplan, List.append_assoc, List.append_eq_append_iff] at hrest
    obtain ⟨more, hplants, hfells⟩ | ⟨fells, hacts, hns⟩ := hrest
    · cases more with
      | nil => exact ⟨[], by simpa using hplants.symm, by simpa using hfells.symm⟩
      | cons a more =>
        obtain ⟨rfl, -⟩ := List.cons_eq_cons.mp hfells
        have hmem : Act.fell n ∈ plants.map Act.plant := by simp [hplants]
        simp at hmem
    · exact ⟨fells, hacts, hns⟩
  have hfelled : ns = fells.filterMap felled? ++ n :: rest.filterMap felled? := by
    have hmap := congrArg (List.filterMap felled?) hns
    simpa [List.filterMap_map, Function.comp_def, felled?] using hmap
  constructor
  · have hn := hlt n (by simp [hfelled])
    rw [List.countP_append]
    omega
  · rw [hfelled, List.nodup_append] at hnodup
    obtain ⟨-, -, hapart⟩ := hnodup
    rw [List.filterMap_append, hnone, List.nil_append]
    exact fun hmem => hapart n hmem n (List.mem_cons_self ..) rfl

end Act

/-! ### Frames in pieces -/

/-- The producer acts, or one batch is updated. -/
inductive Beat where
  | act (a : Act)
  | update (k : PlantKind) (c : Camera)

namespace Beat

def act? : Beat → Option Act
  | .act a => some a
  | .update .. => none

def updates (k : PlantKind) : Beat → Bool
  | .act _ => false
  | .update j _ => j = k

/-- All up to the last update of a kind of plant. -/
def taken (k : PlantKind) (beats : List Beat) : List Beat := beats.rdropWhile (!·.updates k)

def late (k : PlantKind) (beats : List Beat) : List Beat := beats.rtakeWhile (!·.updates k)

end Beat

/-- A frame that is left undisturbed. -/
def Turn.beats : Turn → List Beat
  | .act a => [.act a]
  | .frame c => [.update .tree c, .update .tuft c]

namespace Grove

variable {σ : Type} [Noise.Draws σ] {points : List Pos} {g : Grove} {k : PlantKind} {x : Traffic}

def pass (g : Grove) : Beat → Grove
  | .act a => g.act a
  | .update k c => { g with table := g.table.updating c frameTime k.species }

def run (g : Grove) (beats : List Beat) : Grove := beats.foldl pass g

theorem run_concat (g : Grove) (beats : List Beat) (m : Beat) :
    g.run (beats ++ [m]) = (g.run beats).pass m := by
  simp [run]

@[simp] theorem spawner_pass (g : Grove) (m : Beat) (k : PlantKind) :
    (g.pass m).spawner k = g.spawner k := by
  cases m with
  | update j c => cases k <;> rfl
  | act a =>
    cases a with
    | plant p => cases k <;> rfl
    | fell n =>
      simp only [pass, act]
      split <;> cases k <;> rfl

/-! ### What the producer sends -/

def sends (g : Grove) (k : PlantKind) : Beat → List Command
  | .act (.plant p) =>
    if p.kind = k then
      [.add ⟨(g.table.spawnVia (g.spawner k) p.placement p.tint).1, p.placement, p.tint⟩]
    else []
  | .act (.fell n) => if k = .tree then (g.planted[n]?).toList.map .remove else []
  | .update .. => []

/-- All commands that are ever queued for a kind of plant, in order. -/
def sent (g : Grove) (k : PlantKind) : List Beat → List Command
  | [] => []
  | m :: beats => g.sends k m ++ (g.pass m).sent k beats

theorem sent_append (g : Grove) (k : PlantKind) (beats later : List Beat) :
    g.sent k (beats ++ later) = g.sent k beats ++ (g.run beats).sent k later := by
  induction beats generalizing g with
  | nil => rfl
  | cons m beats ih =>
    show g.sends k m ++ (g.pass m).sent k (beats ++ later) = _
    rw [ih, ← List.append_assoc]
    rfl

theorem sent_concat (g : Grove) (k : PlantKind) (beats : List Beat) (m : Beat) :
    g.sent k (beats ++ [m]) = g.sent k beats ++ (g.run beats).sends k m := by
  rw [sent_append]
  simp only [sent, List.append_nil]

/-! ### The batches of a grove -/

/-- The batch of a kind of plant is fed by the producer's spawner alone, and the producer knows the
ids of the trees it planted. -/
structure Fed (g : Grove) (k : PlantKind) (x : Traffic) : Prop where
  species : ∀ j, (g.spawner j).species = j.species
  registered : g.table.registered? k.species = some ⟨(g.spawner k).registration, x.batch⟩
  orderly : x.Orderly
  planted : k = .tree → g.planted.toList = x.spawned.map Sprite.id

namespace Fed

theorem spawner_eq (h : g.Fed k x) (j : PlantKind) :
    g.spawner j = ⟨j.species, (g.spawner j).registration⟩ := by
  rw [← h.species j]

theorem spawner_ne (h : g.Fed k x) {j : PlantKind} (hj : j ≠ k) :
    g.spawner j ≠ ⟨k.species, (g.spawner k).registration⟩ := by
  intro heq
  have hspecies := congrArg Spawner.species heq
  rw [h.species, PlantKind.species_inj] at hspecies
  exact hj hspecies

theorem unmoved (h : g.Fed k x) {m : Beat}
    (htable : (g.pass m).table.registered? k.species = g.table.registered? k.species)
    (hplanted : k = .tree → (g.pass m).planted = g.planted) : (g.pass m).Fed k x := by
  refine ⟨fun j => ?_, ?_, h.orderly, fun htree => ?_⟩
  · rw [spawner_pass]
    exact h.species j
  · rw [htable, spawner_pass]
    exact h.registered
  · rw [hplanted htree]
    exact h.planted htree

theorem plant (h : g.Fed k x) (p : Plant) : ∃ y, (g.pass (.act (.plant p))).Fed k y ∧
    y.sent = x.sent ++ g.sends k (.act (.plant p)) ∧ y.batch.feed.queue.toList =
      x.batch.feed.queue.toList ++ g.sends k (.act (.plant p)) := by
  have htable := g.table.registered?_spawnVia (g.spawner p.kind) p.placement p.tint k.species
  rw [h.registered, Option.map_some] at htable
  by_cases hk : p.kind = k
  · subst hk
    have hid : (g.table.spawnVia (g.spawner p.kind) p.placement p.tint).1 =
        x.batch.feed.nextId := by
      have hnext := SpeciesTable.id_takeIdVia h.registered
      rw [← h.spawner_eq] at hnext
      exact hnext
    have hsends : g.sends p.kind (.act (.plant p)) =
        [.add ⟨x.batch.feed.nextId, p.placement, p.tint⟩] := by
      rw [sends, if_pos rfl, hid]
    obtain ⟨y, hy⟩ : ∃ y, x.perform (.spawn p.placement p.tint) = some y := ⟨_, rfl⟩
    have horderly := h.orderly.perform hy
    obtain rfl := Option.some.inj hy
    rw [if_pos (h.spawner_eq p.kind)] at htable
    refine ⟨_, ⟨fun j => ?_, ?_, horderly, fun htree => ?_⟩, ?_, ?_⟩
    · rw [spawner_pass]
      exact h.species j
    · rw [spawner_pass]
      exact htable
    · have hplanted := h.planted htree
      have hpush : (g.pass (.act (.plant p))).planted = g.planted.push x.batch.feed.nextId := by
        rw [← hid]
        exact if_pos htree
      rw [hpush, Array.toList_push, hplanted]
      simp [Traffic.spawned, Command.added?]
    · rw [hsends]
    · rw [hsends]
      exact Array.toList_push
  · have hsends : g.sends k (.act (.plant p)) = [] := if_neg hk
    rw [if_neg (h.spawner_ne hk), ← h.registered] at htable
    refine ⟨x, h.unmoved htable fun htree => ?_, ?_, ?_⟩
    · exact if_neg (htree ▸ hk)
    · rw [hsends, List.append_nil]
    · rw [hsends, List.append_nil]

theorem fell (h : g.Fed k x) (n : Nat) : ∃ y, (g.pass (.act (.fell n))).Fed k y ∧
    y.sent = x.sent ++ g.sends k (.act (.fell n)) ∧ y.batch.feed.queue.toList =
      x.batch.feed.queue.toList ++ g.sends k (.act (.fell n)) := by
  cases hn : g.planted[n]? with
  | none =>
    have hsame : g.pass (.act (.fell n)) = g := by
      simp only [pass, act, hn]
    have hsends : g.sends k (.act (.fell n)) = [] := by
      simp [sends, hn]
    rw [hsame, hsends, List.append_nil, List.append_nil]
    exact ⟨x, h, rfl, rfl⟩
  | some id =>
    have hpass : g.pass (.act (.fell n)) =
        { g with table := g.table.sendVia (g.spawner .tree) (.remove id) } := by
      simp only [pass, act, hn, spawner]
    have htable := g.table.registered?_sendVia (g.spawner .tree) (.remove id) k.species
    rw [h.registered, Option.map_some] at htable
    cases k with
    | tree =>
      have hsends : g.sends .tree (.act (.fell n)) = [.remove id] := by
        simp [sends, hn]
      have hmem : id ∈ x.spawned.map Sprite.id := by
        rw [← h.planted rfl]
        exact Array.mem_toList_iff.mpr (Array.mem_of_getElem? hn)
      have hy : x.perform (.remove id) = some (x.send (.remove id)) := if_pos hmem
      rw [if_pos (h.spawner_eq .tree)] at htable
      rw [hsends]
      refine ⟨x.send (.remove id), ⟨fun j => ?_, ?_, h.orderly.perform hy, fun _ => ?_⟩, rfl, ?_⟩
      · rw [spawner_pass]
        exact h.species j
      · rw [spawner_pass, hpass]
        exact htable
      · rw [hpass, Traffic.spawned_send_remove]
        exact h.planted rfl
      · exact Array.toList_push
    | tuft =>
      rw [if_neg (h.spawner_ne PlantKind.noConfusion), ← h.registered] at htable
      have hsends : g.sends .tuft (.act (.fell n)) = [] := rfl
      rw [hsends, List.append_nil, List.append_nil]
      refine ⟨x, h.unmoved ?_ (fun htree => by cases htree), rfl, rfl⟩
      rw [hpass]
      exact htable

theorem update (h : g.Fed k x) (j : PlantKind) (c : Camera) : ∃ y, (g.pass (.update j c)).Fed k y ∧
    y.sent = x.sent ∧ y.batch.feed.queue.toList =
      if j = k then [] else x.batch.feed.queue.toList := by
  have htable := g.table.registered?_updating c frameTime j.species k.species
  by_cases hk : j = k
  · subst hk
    rw [if_pos rfl, h.registered, Option.map_some] at htable
    refine ⟨{ x with batch := (x.batch.update c frameTime).2 }, ⟨fun i => ?_, ?_, ?_, ?_⟩, rfl, ?_⟩
    · rw [spawner_pass]
      exact h.species i
    · rw [spawner_pass]
      exact htable
    · exact h.orderly.update x.batch.feed.queue.size c frameTime
    · exact h.planted
    · rw [if_pos rfl]
      show (x.batch.updateTaking _ c frameTime).2.feed.queue.toList = []
      rw [Batch.queue_updateTaking]
      simp
  · rw [if_neg (mt PlantKind.species_inj.mp hk)] at htable
    rw [if_neg hk]
    exact ⟨x, h.unmoved htable fun _ => rfl, rfl, rfl⟩

/-- One beat: what is sent is queued, and an update takes it all. -/
theorem pass (h : g.Fed k x) (m : Beat) : ∃ y, (g.pass m).Fed k y ∧
    y.sent = x.sent ++ g.sends k m ∧ y.batch.feed.queue.toList =
      if m.updates k then [] else x.batch.feed.queue.toList ++ g.sends k m := by
  cases m with
  | act a =>
    cases a with
    | plant p => exact h.plant p
    | fell n => exact h.fell n
  | update j c =>
    obtain ⟨y, hy, hsent, hqueue⟩ := h.update j c
    refine ⟨y, hy, ?_, ?_⟩
    · rw [hsent]
      exact (List.append_nil _).symm
    · rw [hqueue]
      simp [Beat.updates, sends]

/-- All beats: what was sent after the last update is what is queued. -/
theorem run {b : Batch} (h : g.Fed k (Traffic.start b)) (hempty : b.feed.queue = #[])
    (beats : List Beat) : ∃ y, (g.run beats).Fed k y ∧ y.sent = g.sent k beats ∧
      g.sent k beats = g.sent k (Beat.taken k beats) ++ y.batch.feed.queue.toList := by
  induction beats using List.reverseRecOn with
  | nil =>
    refine ⟨Traffic.start b, h, rfl, ?_⟩
    simp [Beat.taken, sent, Traffic.start, hempty]
  | append_singleton beats m ih =>
    obtain ⟨x, hx, hsent, hcut⟩ := ih
    obtain ⟨y, hy, hsent', hqueue⟩ := hx.pass m
    rw [run_concat, sent_concat]
    refine ⟨y, hy, by rw [hsent', hsent], ?_⟩
    rw [hqueue, Beat.taken, List.rdropWhile_concat]
    cases hupdates : m.updates k with
    | true => simp [sent_concat]
    | false =>
      simp only [Bool.not_false, if_true, Bool.false_eq_true, if_false]
      rw [← List.append_assoc]
      exact congrArg (· ++ _) hcut

end Fed

/-- A new grove: an empty batch of each kind under its spawner, and no other species. -/
theorem create_eq_ok {s : Settings} (hg : create s = .ok g) : g.planted = #[] ∧
    (∀ k, ∃ b, b.feed.queue = #[] ∧ g.Fed k (Traffic.start b)) ∧
    ∀ n, (∀ k : PlantKind, k.species ≠ n) → g.table.registered? n = none := by
  unfold create at hg
  cases htrees : SpeciesTable.empty.register PlantKind.tree.species (s.batch .alpha) with
  | error e => simp [htrees, bind, Except.bind] at hg
  | ok t =>
    cases htufts : t.register PlantKind.tuft.species (s.batch .replace) with
    | error e => simp [htrees, htufts, bind, Except.bind] at hg
    | ok u =>
      simp only [htrees, htufts, bind, Except.bind, pure, Except.pure, Except.ok.injEq] at hg
      obtain ⟨b, hb, ht⟩ := SpeciesTable.registered?_of_register htrees
      obtain ⟨b', hb', hu⟩ := SpeciesTable.registered?_of_register htufts
      have hfed {k : PlantKind} {e : Registered} {s : BatchSettings}
          (he : u.registered? k.species = some e) (hb : Batch.create k.species s = .ok e.batch) :
          ∃ b, b.feed.queue = #[] ∧ g.Fed k (Traffic.start b) := by
        have hspawner (k : PlantKind) :
            g.spawner k = (u.spawner? k.species).getD ⟨k.species, 0⟩ := by
          rw [← hg]
          cases k <;> rfl
        refine ⟨e.batch, ?_, fun j => ?_, ?_, .start hb, fun _ => ?_⟩
        · rw [Batch.eq_of_create hb]
        · rw [hspawner, SpeciesTable.spawner?]
          cases u.registered? j.species <;> rfl
        · rw [hspawner, SpeciesTable.spawner?, he, ← hg]
          exact he
        · rw [← hg]
          rfl
      refine ⟨by rw [← hg], fun k => ?_, fun n hn => ?_⟩
      · cases k with
        | tree => exact hfed ((hu _).trans (ht _)) hb
        | tuft => exact hfed (hu _) hb'
      · rw [← hg]
        show u.registered? n = none
        rw [hu, if_neg (hn .tuft), ht, if_neg (hn .tree)]
        simp [SpeciesTable.registered?, SpeciesTable.empty]

theorem isSome_registered?_run (g : Grove) (beats : List Beat) (n : String) :
    ((g.run beats).table.registered? n).isSome = (g.table.registered? n).isSome := by
  induction beats using List.reverseRecOn with
  | nil => rfl
  | append_singleton beats m ih =>
    rw [run_concat, ← ih]
    cases m with
    | update k c =>
      show (SpeciesTable.registered? (SpeciesTable.updating ..) n).isSome = _
      rw [SpeciesTable.registered?_updating]
      split <;> simp
    | act a =>
      cases a with
      | plant p =>
        show (SpeciesTable.registered? (SpeciesTable.spawnVia ..).2 n).isSome = _
        rw [SpeciesTable.registered?_spawnVia, Option.isSome_map]
      | fell i =>
        simp only [pass, act]
        split
        · rw [SpeciesTable.registered?_sendVia, Option.isSome_map]
        · rfl

/-! ### Trees and their numbers -/

theorem size_planted (hnone : g.planted = #[]) (beats : List Beat) :
    (g.run beats).planted.size = (beats.filterMap Beat.act?).countP Act.plantsTree := by
  induction beats using List.reverseRecOn with
  | nil => simp [run, hnone]
  | append_singleton beats m ih =>
    rw [run_concat, List.filterMap_append, List.countP_append, ← ih]
    cases m with
    | update k c => rfl
    | act a =>
      cases a with
      | plant p =>
        by_cases htree : p.kind = .tree
        · simp [pass, act, htree, Beat.act?, Act.plantsTree]
        · simp [pass, act, htree, Beat.act?, Act.plantsTree]
      | fell n =>
        simp only [pass, act]
        split <;> rfl

/-- What the plan has done by now fells trees that are there, and none of them twice. -/
theorem numbers_of_plan (hnone : g.planted = #[]) {beats : List Beat}
    (hplan : beats.filterMap Beat.act? <+: Act.plan σ points) :
    ((beats.filterMap Beat.act?).filterMap Act.felled?).Nodup ∧
      ∀ n ∈ (beats.filterMap Beat.act?).filterMap Act.felled?, n < (g.run beats).planted.size := by
  rw [size_planted hnone]
  generalize beats.filterMap Beat.act? = acts at hplan
  induction acts using List.reverseRecOn with
  | nil => simp
  | append_singleton acts a ih =>
    obtain ⟨hnodup, hlt⟩ := ih ((List.prefix_append _ _).trans hplan)
    rw [List.countP_append]
    cases a with
    | plant p =>
      simp only [List.filterMap_append, List.filterMap_cons, Act.felled?, List.filterMap_nil,
        List.append_nil]
      exact ⟨hnodup, fun n hn => Nat.lt_add_right _ (hlt n hn)⟩
    | fell n =>
      obtain ⟨hn, hnew⟩ := Act.fell_of_plan hplan
      simp only [List.filterMap_append, List.filterMap_cons, Act.felled?, List.filterMap_nil]
      refine ⟨List.nodup_append.mpr ⟨hnodup, List.nodup_singleton n, ?_⟩, fun i hi => ?_⟩
      · intro i hi j hj heq
        rw [List.mem_singleton.mp hj] at heq
        exact hnew (heq ▸ hi)
      · refine Nat.lt_add_right _ ?_
        rcases List.mem_append.mp hi with hi | hi
        · exact hlt i hi
        · rw [List.mem_singleton.mp hi]
          exact hn

theorem removedIds_sent_tree (hnone : g.planted = #[]) {beats : List Beat}
    (hplan : beats.filterMap Beat.act? <+: Act.plan σ points) :
    (Command.removedIds (g.sent .tree beats)).map some =
      ((beats.filterMap Beat.act?).filterMap Act.felled?).map ((g.run beats).planted[·]?) := by
  induction beats using List.reverseRecOn with
  | nil => rfl
  | append_singleton beats m ih =>
    rw [List.filterMap_append] at hplan
    have hpre := (List.prefix_append _ _).trans hplan
    obtain ⟨-, hlt⟩ := numbers_of_plan hnone hpre
    have hrest := ih hpre
    rw [sent_concat, run_concat, Command.removedIds_append, List.map_append, hrest]
    cases m with
    | update k c => simp [sends, Command.removedIds, Beat.act?, pass]
    | act a =>
      cases a with
      | plant p =>
        have hsends : Command.removedIds ((g.run beats).sends .tree (.act (.plant p))) = [] := by
          simp only [sends]
          split <;> rfl
        rw [hsends, List.map_nil, List.append_nil, List.filterMap_append, List.filterMap_append]
        simp only [Beat.act?, Act.felled?, List.filterMap_cons, List.filterMap_nil,
          List.append_nil]
        refine List.map_congr_left fun n hn => ?_
        -- A tree that is planted later leaves the numbers of the others as they are.
        simp only [pass, act]
        split
        · rw [Array.getElem?_push_lt (hlt n hn), Array.getElem?_eq_getElem (hlt n hn)]
        · rfl
      | fell n =>
        have hn : n < (g.run beats).planted.size := by
          rw [size_planted hnone]
          exact (Act.fell_of_plan hplan).1
        simp [sends, Command.removedIds, Command.removed?, Beat.act?, Act.felled?, pass, act, hn]

theorem removedIds_sent_tuft (g : Grove) (beats : List Beat) :
    Command.removedIds (g.sent .tuft beats) = [] := by
  induction beats generalizing g with
  | nil => rfl
  | cons m beats ih =>
    rw [sent, Command.removedIds_append, ih, List.append_nil]
    cases m with
    | update k c => rfl
    | act a =>
      cases a with
      | plant p =>
        simp only [sends]
        split <;> rfl
      | fell n => rfl

theorem nodup_removedIds (hnone : g.planted = #[]) {beats : List Beat}
    (hplan : beats.filterMap Beat.act? <+: Act.plan σ points) (hx : (g.run beats).Fed k x)
    (hsent : x.sent = g.sent k beats) : (Command.removedIds (g.sent k beats)).Nodup := by
  cases k with
  | tuft =>
    rw [removedIds_sent_tuft]
    exact List.nodup_nil
  | tree =>
    obtain ⟨hnodup, hlt⟩ := numbers_of_plan hnone hplan
    have hids : (g.run beats).planted.toList.Nodup := by
      rw [hx.planted rfl]
      exact hx.orderly.nodup_spawned
    apply List.Nodup.of_map some
    rw [removedIds_sent_tree hnone hplan]
    refine hnodup.map_on fun n hn m _ heq => ?_
    rw [← Array.getElem?_toList, ← Array.getElem?_toList] at heq
    exact (List.getElem?_inj (by simpa using hlt n hn) hids).mp heq

/-! ### What is left in the queue -/

theorem sends_eq_nil_iff {m : Beat} (hfell : ∀ n, m = .act (.fell n) → n < g.planted.size) :
    g.sends k m = [] ↔ ∀ a, m = .act a → a.concerns k = false := by
  cases m with
  | update j c => simp [sends]
  | act a =>
    cases a with
    | plant p => simp [sends, Act.concerns]
    | fell n =>
      have hn := hfell n rfl
      simp [sends, Act.concerns, hn]

/-- Nothing is left exactly if no act that concerns this kind comes after its last update. -/
theorem sent_late_eq_nil_iff (hnone : g.planted = #[]) {beats : List Beat}
    (hplan : beats.filterMap Beat.act? <+: Act.plan σ points) :
    (g.run (Beat.taken k beats)).sent k (Beat.late k beats) = [] ↔
      ∀ a, .act a ∈ Beat.late k beats → a.concerns k = false := by
  induction beats using List.reverseRecOn with
  | nil => simp [Beat.late, sent]
  | append_singleton beats m ih =>
    rw [List.filterMap_append] at hplan
    have hpre := (List.prefix_append _ _).trans hplan
    cases hupdates : m.updates k with
    | true => simp [Beat.late, hupdates, sent]
    | false =>
      have htaken : Beat.taken k (beats ++ [m]) = Beat.taken k beats := by
        simp [Beat.taken, hupdates]
      have hlate : Beat.late k (beats ++ [m]) = Beat.late k beats ++ [m] := by
        simp [Beat.late, hupdates]
      have hall : (g.run (Beat.taken k beats)).run (Beat.late k beats) = g.run beats := by
        rw [run, run, ← List.foldl_append, Beat.taken, Beat.late,
          List.rdropWhile_append_rtakeWhile]
        rfl
      have hfell : ∀ n, m = .act (.fell n) → n < (g.run beats).planted.size := by
        rintro n rfl
        rw [size_planted hnone]
        exact (Act.fell_of_plan hplan).1
      rw [htaken, hlate, sent_concat, List.append_eq_nil_iff, hall, ih hpre,
        sends_eq_nil_iff hfell]
      simp only [List.mem_append, List.mem_singleton]
      constructor
      · rintro ⟨hbefore, hm⟩ a (ha | ha)
        · exact hbefore a ha
        · exact hm a ha.symm
      · intro hall
        exact ⟨fun a ha => hall a (.inl ha), fun a ha => hall a (.inr ha.symm)⟩

/-! ### The end -/

/-- The last choice of the visible sprites leaves the queue and the live sprites as they are. -/
theorem registered?_finish (h : g.Fed k x) (c : Camera) :
    (g.finish c).table.registered? k.species =
      some ⟨(g.spawner k).registration, x.batch.refresh c⟩ := by
  show ((g.table.modifyBatch _ (·.refresh c)).modifyBatch _ (·.refresh c)).registered? k.species = _
  rw [SpeciesTable.registered?_modifyBatch, SpeciesTable.registered?_modifyBatch, h.registered]
  cases k <;> rfl

theorem contains_finish (g : Grove) (c : Camera) (n : String) :
    (g.finish c).table.contains n = g.table.contains n := by
  show (((g.table.modifyBatch _ (·.refresh c)).modifyBatch _
    (·.refresh c)).registered? n).isSome = _
  rw [SpeciesTable.registered?_modifyBatch, SpeciesTable.registered?_modifyBatch]
  split <;> split <;> simp [SpeciesTable.contains]

theorem instances_eq {t : SpeciesTable} {e e' : Registered}
    (htree : t.registered? PlantKind.tree.species = some e)
    (htuft : t.registered? PlantKind.tuft.species = some e')
    (hspecies : ∀ n, t.contains n = true ↔ ∃ k : PlantKind, k.species = n) :
    t.stats.2.1 = e.batch.live.size + e'.batch.live.size := by
  have hperm : t.entries.toList.Perm
      [(PlantKind.tree.species, e), (PlantKind.tuft.species, e')] := by
    have hnodup : t.entries.toList.Nodup :=
      Std.ExtTreeMap.distinct_keys_toList.imp fun hne heq => hne (by rw [heq]; simp)
    rw [List.perm_ext_iff_of_nodup hnodup (by simp [PlantKind.species])]
    rintro ⟨n, r⟩
    rw [Std.ExtTreeMap.mem_toList_iff_getElem?_eq_some]
    show t.registered? n = some r ↔ _
    by_cases hn : ∃ k : PlantKind, k.species = n
    · obtain ⟨k, rfl⟩ := hn
      cases k with
      | tree =>
        rw [htree]
        simp [PlantKind.species, eq_comm]
      | tuft =>
        rw [htuft]
        simp [PlantKind.species, eq_comm]
    · have hnone : t.registered? n = none := by
        rw [← SpeciesTable.contains_eq_false, Bool.eq_false_iff]
        exact mt (hspecies n).mp hn
      have hne (k : PlantKind) : n ≠ k.species := fun hk => hn ⟨k, hk.symm⟩
      simp [hnone, hne]
  have htotal := total_perm (hperm.map fun e => e.2.batch.live.size)
  simp only [SpeciesTable.stats, List.map_map]
  exact htotal

theorem contains_iff_species {s : Settings} (hg : create s = .ok g) (beats : List Beat)
    (n : String) : (g.run beats).table.contains n = true ↔ ∃ k : PlantKind, k.species = n := by
  obtain ⟨-, hfed, honly⟩ := create_eq_ok hg
  rw [SpeciesTable.contains, isSome_registered?_run]
  constructor
  · intro hsome
    by_contra hn
    rw [honly n fun k hk => hn ⟨k, hk⟩] at hsome
    cases hsome
  · rintro ⟨k, rfl⟩
    obtain ⟨b, -, hb⟩ := hfed k
    rw [hb.registered]
    rfl

/-- A frame that is left undisturbed updates the two batches in a row. -/
theorem table_frame (hspecies : ∀ n, g.table.contains n = true ↔ ∃ k : PlantKind, k.species = n)
    (c : Camera) : (g.frame c).table = (g.run (Turn.beats (.frame c))).table := by
  have hnodup : [PlantKind.tree.species, PlantKind.tuft.species].Nodup := by decide
  refine (SpeciesTable.update_eq_foldl_updating _ c frameTime hnodup fun n => ?_).symm
  rw [hspecies, List.mem_pair]
  constructor
  · rintro (rfl | rfl)
    · exact ⟨.tree, rfl⟩
    · exact ⟨.tuft, rfl⟩
  · rintro ⟨k, rfl⟩
    cases k with
    | tree => exact .inl rfl
    | tuft => exact .inr rfl

theorem play_eq_run {s : Settings} (hg : create s = .ok g) (ts : List Turn) :
    ∃ sorts, g.play ts = { g.run (ts.flatMap Turn.beats) with sorts := sorts } := by
  induction ts using List.reverseRecOn with
  | nil => exact ⟨g.sorts, rfl⟩
  | append_singleton ts t ih =>
    obtain ⟨sorts, hplay⟩ := ih
    have hplay' : g.play (ts ++ [t]) = (g.play ts).turn t := by simp [play]
    have hrun : g.run ((ts ++ [t]).flatMap Turn.beats) =
        (g.run (ts.flatMap Turn.beats)).run t.beats := by
      simp [run, List.flatMap_append]
    rw [hplay', hrun, hplay]
    cases t with
    | act a =>
      refine ⟨sorts, ?_⟩
      cases a with
      | plant p => cases hk : p.kind <;> simp [turn, act, run, pass, Turn.beats, spawner, hk]
      | fell n =>
        simp only [turn, act, run, pass, Turn.beats, List.foldl_cons, List.foldl_nil]
        split <;> rfl
    | frame c =>
      have htable := table_frame (contains_iff_species hg (ts.flatMap Turn.beats)) c
      refine ⟨sorts + ((g.run (ts.flatMap Turn.beats)).table.update c frameTime).1, ?_⟩
      simp only [turn, frame] at htable ⊢
      rw [htable]
      rfl

/-- However the producer's acts and the updates interleave: at the end, what was sent for a kind of
plant after its last update is still queued, the live sprites of that kind are those that were added
and not removed by then, and so they are counted. Nothing is left in the queue exactly if the
producer was done with that kind before its last update. -/
theorem finish_leaves_late_acts_queued {s : Settings} (hg : create s = .ok g) {beats : List Beat}
    (hplan : beats.filterMap Beat.act? = Act.plan σ points) (c : Camera) :
    (∀ k, ∃ b, ((g.run beats).finish c).table.batch? k.species = some b ∧
      g.sent k beats = g.sent k (Beat.taken k beats) ++ b.feed.queue.toList ∧
      (b.feed.queue = #[] ↔ ∀ a, .act a ∈ Beat.late k beats → a.concerns k = false) ∧
      ∀ id, b.isLive id = true ↔ id ∈ Command.addedIds (g.sent k (Beat.taken k beats)) ∧
        id ∉ Command.removedIds (g.sent k (Beat.taken k beats))) ∧
    ((g.run beats).finish c).table.stats.2.1 +
        total ([.tree, .tuft].map fun k =>
          (Command.removedIds (g.sent k (Beat.taken k beats))).length) =
      total ([.tree, .tuft].map fun k =>
        (Command.addedIds (g.sent k (Beat.taken k beats))).length) ∧
    ∀ ts, beats = ts.flatMap Turn.beats →
      ((g.play ts).finish c).table = ((g.run beats).finish c).table := by
  obtain ⟨hnone, hfed, honly⟩ := create_eq_ok hg
  have hpre : beats.filterMap Beat.act? <+: Act.plan σ points := hplan ▸ List.prefix_rfl
  have hend (k : PlantKind) : ∃ x, (g.run beats).Fed k x ∧ x.sent = g.sent k beats ∧
      g.sent k beats = g.sent k (Beat.taken k beats) ++ x.batch.feed.queue.toList := by
    obtain ⟨b, hempty, hb⟩ := hfed k
    exact hb.run hempty beats
  have hcount {k : PlantKind} {x : Traffic} (hx : (g.run beats).Fed k x)
      (hsent : x.sent = g.sent k beats)
      (hcut : g.sent k beats = g.sent k (Beat.taken k beats) ++ x.batch.feed.queue.toList) :
      x.batch.live.size + (Command.removedIds (g.sent k (Beat.taken k beats))).length =
        (Command.addedIds (g.sent k (Beat.taken k beats))).length := by
    have honce := nodup_removedIds hnone hpre hx hsent
    rw [hcut, Command.removedIds_append, List.nodup_append] at honce
    exact hx.orderly.size_live (hsent.trans hcut) honce.1
  refine ⟨fun k => ?_, ?_, ?_⟩
  · obtain ⟨x, hx, hsent, hcut⟩ := hend k
    refine ⟨x.batch.refresh c, ?_, hcut, ?_, hx.orderly.isLive_iff (hsent.trans hcut)⟩
    · rw [SpeciesTable.batch?, registered?_finish hx]
      rfl
    · have hqueue : x.batch.feed.queue.toList =
          (g.run (Beat.taken k beats)).sent k (Beat.late k beats) := by
        rw [← List.append_right_inj (g.sent k (Beat.taken k beats)), ← hcut,
          ← sent_append, Beat.taken, Beat.late, List.rdropWhile_append_rtakeWhile]
      rw [← sent_late_eq_nil_iff hnone hpre, ← hqueue, Array.toList_eq_nil_iff]
      rfl
  · obtain ⟨x, hx, hsent, hcut⟩ := hend .tree
    obtain ⟨y, hy, hsent', hcut'⟩ := hend .tuft
    have htrees := hcount hx hsent hcut
    have htufts := hcount hy hsent' hcut'
    have hinstances : ((g.run beats).finish c).table.stats.2.1 =
        x.batch.live.size + y.batch.live.size := by
      refine instances_eq (registered?_finish hx c) (registered?_finish hy c) fun n => ?_
      rw [contains_finish]
      exact contains_iff_species hg beats n
    simp only [List.map_cons, List.map_nil, total_cons, total_nil]
    omega
  · rintro ts rfl
    obtain ⟨sorts, hplay⟩ := play_eq_run hg ts
    rw [hplay]
    rfl

/-- Places in a row. On the first eighteen grow three tufts and then a tree, which is felled. -/
def row (n : Nat) : List Pos := (List.range n).map fun x => ⟨x, 0, 0⟩

/-- One tuft comes too late for the last update of the tufts, and the tree is felled after the last
update of the trees. -/
def crossing : List Beat :=
  match (Act.plan Noise.Stream (row 18)).map Beat.act with
  | a :: b :: acts => a :: b :: .update .tuft .standard :: acts.take 2 ++
      .update .tree .standard :: acts.drop 2
  | acts => acts

theorem finish_leaves_late_acts_queued_crossing : ∃ g, create {} = .ok g ∧
    crossing.filterMap Beat.act? = Act.plan Noise.Stream (row 18) ∧
    ((g.run crossing).finish .standard).table.stats.2.1 = 3 ∧
    ∀ k : PlantKind, ∃ b, ((g.run crossing).finish .standard).table.batch? k.species = some b ∧
      b.feed.queue ≠ #[] := by
  obtain ⟨g, hg, hremoved, hadded⟩ : ∃ g, create {} = .ok g ∧
      total ([.tree, .tuft].map fun k =>
        (Command.removedIds (g.sent k (Beat.taken k crossing))).length) = 0 ∧
      total ([.tree, .tuft].map fun k =>
        (Command.addedIds (g.sent k (Beat.taken k crossing))).length) = 3 := by
    refine ⟨_, rfl, ?_, ?_⟩
    · decide +kernel
    · decide +kernel
  have hplan : crossing.filterMap Beat.act? = Act.plan Noise.Stream (row 18) := by decide +kernel
  have hlate (k : PlantKind) : ((Beat.late k crossing).filterMap Beat.act?).any
      (Act.concerns k) = true := by
    cases k <;> decide +kernel
  obtain ⟨hbatch, hcount, -⟩ := finish_leaves_late_acts_queued hg hplan .standard
  refine ⟨g, hg, hplan, by omega, fun k => ?_⟩
  obtain ⟨b, hb, -, hempty, -⟩ := hbatch k
  refine ⟨b, hb, fun hqueue => ?_⟩
  obtain ⟨a, ha, hconcerns⟩ := List.any_eq_true.mp (hlate k)
  obtain ⟨m, hm, hact⟩ := List.mem_filterMap.mp ha
  cases m with
  | update j c => cases hact
  | act a' =>
    obtain rfl : a' = a := Option.some.inj hact
    rw [hempty.mp hqueue a' hm] at hconcerns
    cases hconcerns

/-- All frames are drawn before the producer starts. It plants four sprites and fells one of them,
so three should be live; but none is, and all five commands are left in the queues. -/
theorem finish_misses_late_plants : ∃ g, create {} = .ok g ∧
    let acts := Act.plan Noise.Stream (row 18)
    let ts := ((List.range frames).map (camera .zero)).map .frame ++ acts.map .act
    let t := ((g.play ts).finish (lastCamera .zero)).table
    acts.length = 5 ∧ acts.filterMap Act.felled? = [0] ∧ t.stats.2.1 = 0 ∧
      (t.batch? PlantKind.tree.species).map (·.feed.queue.size) = some 2 ∧
      (t.batch? PlantKind.tuft.species).map (·.feed.queue.size) = some 3 := by
  refine ⟨_, rfl, ?_⟩
  decide +kernel

end Grove

end VoxelScene
