import Mathlib.Data.List.Induction
import VoxelScene.Proofs.LiveSprites
import VoxelScene.Sprite.Species

/-!
Species apart.

A table holds one batch for each registered species, and many hands reach into it: calls by name,
spawners taken long ago, updates of all batches at once. What becomes of one batch is settled by the
settings it was registered with and by the requests that were addressed to that registration since.
Whatever is done under other names, or through spawners of a registration that is gone, leaves it as
it is.
-/

namespace VoxelScene

/-! ### Requests to one batch -/

namespace Batch

/-- What one batch is asked to do. An update takes all that is queued. -/
inductive Request where
  | spawn (placement : Placement) (tint : Vec4)
  | reserve
  | add (s : Sprite)
  | remove (id : Nat)
  | refresh (c : Camera)
  | update (c : Camera) (dt : Single)

def serve (b : Batch) : Request → Batch
  | .spawn placement tint => { b with feed := (b.feed.spawn placement tint).2 }
  | .reserve => { b with feed := b.feed.takeId.2 }
  | .add s => { b with feed := b.feed.send (.add s) }
  | .remove id => { b with feed := b.feed.send (.remove id) }
  | .refresh c => b.refresh c
  | .update c dt => (b.update c dt).2

end Batch

namespace Registered

def mapBatch (f : Batch → Batch) (e : Registered) : Registered := { e with batch := f e.batch }

@[simp] theorem registration_mapBatch (f : Batch → Batch) (e : Registered) :
    (e.mapBatch f).registration = e.registration := rfl

end Registered

namespace SpeciesTable

variable {t t' : SpeciesTable} {n m : String} {e : Registered}

/-! ### Entries after each operation -/

theorem registered?_modifyBatch (t : SpeciesTable) (m n : String) (f : Batch → Batch) :
    (t.modifyBatch m f).registered? n =
      if m = n then (t.registered? n).map (Registered.mapBatch f) else t.registered? n := by
  unfold modifyBatch registered?
  rw [Std.ExtTreeMap.getElem?_modify]
  by_cases h : m = n
  · subst h
    simp only [Std.LawfulEqCmp.compare_eq_iff_eq, if_true]
    rfl
  · simp only [Std.LawfulEqCmp.compare_eq_iff_eq, if_neg h]

theorem registered?_update (t : SpeciesTable) (n : String) (c : Camera) (dt : Single) :
    (t.update c dt).2.registered? n =
      (t.registered? n).map (.mapBatch fun b => (b.update c dt).2) :=
  Std.ExtTreeMap.getElem?_map

theorem register_eq_ok_iff {s : BatchSettings} : t.register m s = .ok t' ↔
    t.contains m = false ∧ ∃ b, Batch.create m s = .ok b ∧
      t' = ⟨t.entries.insert m ⟨t.nextRegistration, b⟩, t.retired, t.nextRegistration + 1⟩ := by
  unfold register
  cases hin : t.contains m with
  | true => simp [throw, throwThe, MonadExceptOf.throw, bind, Except.bind]
  | false =>
    cases hb : Batch.create m s with
    | error e => simp [bind, Except.bind]
    | ok b => simp [bind, Except.bind, pure, Except.pure, eq_comm]

theorem registered?_insert (t : SpeciesTable) (m n : String) (e : Registered)
    (retired : Std.ExtTreeMap Nat Nat) (next : Nat) :
    (⟨t.entries.insert m e, retired, next⟩ : SpeciesTable).registered? n =
      if m = n then some e else t.registered? n := by
  unfold registered?
  rw [Std.ExtTreeMap.getElem?_insert]
  simp only [Std.LawfulEqCmp.compare_eq_iff_eq]

theorem registered?_of_register {s : BatchSettings} (h : t.register m s = .ok t') :
    ∃ b, Batch.create m s = .ok b ∧ ∀ n, t'.registered? n =
      if m = n then some ⟨t.nextRegistration, b⟩ else t.registered? n := by
  obtain ⟨-, b, hb, rfl⟩ := register_eq_ok_iff.mp h
  exact ⟨b, hb, fun n => registered?_insert ..⟩

theorem registered?_unregister (h : t.unregister? m = some t') (n : String) :
    t'.registered? n = if m = n then none else t.registered? n := by
  obtain ⟨e, -, rfl⟩ := Option.map_eq_some_iff.mp h
  unfold registered?
  rw [Std.ExtTreeMap.getElem?_erase]
  simp only [Std.LawfulEqCmp.compare_eq_iff_eq]

/-! ### Entries after a call through a spawner -/

theorem fedBy?_eq_some {h : Spawner} {b : Batch} :
    t.fedBy? h = some b ↔ t.registered? h.species = some ⟨h.registration, b⟩ := by
  unfold fedBy?
  cases he : t.registered? h.species with
  | none => simp
  | some e =>
    obtain ⟨k, b'⟩ := e
    by_cases hk : k = h.registration
    · simp [hk]
    · simp [hk]

/-- A spawner reaches the batch of its own registration and no other. -/
theorem registered?_modifyBatch_of_fedBy {h : Spawner} {b : Batch} (hfed : t.fedBy? h = some b)
    (n : String) (f : Batch → Batch) : (t.modifyBatch h.species f).registered? n =
      (t.registered? n).map fun e => if h = ⟨n, e.registration⟩ then e.mapBatch f else e := by
  have hh := fedBy?_eq_some.mp hfed
  rw [registered?_modifyBatch]
  by_cases hn : h.species = n
  · subst hn
    simp [hh]
  · have hother (e : Registered) : h ≠ ⟨n, e.registration⟩ := fun heq =>
      hn (congrArg Spawner.species heq)
    simp [hn, hother]

theorem ne_spawner_of_fedBy {h : Spawner} (hfed : t.fedBy? h = none)
    (he : t.registered? n = some e) : h ≠ ⟨n, e.registration⟩ := by
  rintro rfl
  rw [fedBy?_eq_some.mpr he] at hfed
  cases hfed

/-- A spawner of a registration that is gone reaches nothing. -/
theorem registered?_of_fedBy_none {h : Spawner} (hfed : t.fedBy? h = none) (n : String)
    (f : Batch → Batch) :
    t.registered? n = (t.registered? n).map fun e =>
      if h = ⟨n, e.registration⟩ then e.mapBatch f else e := by
  cases he : t.registered? n with
  | none => rfl
  | some e => rw [Option.map_some, if_neg (ne_spawner_of_fedBy hfed he)]

theorem registered?_sendVia (t : SpeciesTable) (h : Spawner) (c : Command) (n : String) :
    (t.sendVia h c).registered? n = (t.registered? n).map fun e => if h = ⟨n, e.registration⟩ then
      e.mapBatch fun b => { b with feed := b.feed.send c } else e := by
  unfold sendVia
  cases hfed : t.fedBy? h with
  | none => exact registered?_of_fedBy_none hfed n _
  | some b =>
    rw [Option.isSome_some, if_pos rfl]
    exact registered?_modifyBatch_of_fedBy hfed n _

theorem registered?_takeIdVia (t : SpeciesTable) (h : Spawner) (n : String) :
    (t.takeIdVia h).2.registered? n = (t.registered? n).map fun e => if h = ⟨n, e.registration⟩ then
      e.mapBatch fun b => { b with feed := b.feed.takeId.2 } else e := by
  unfold takeIdVia
  cases hfed : t.fedBy? h with
  | none => exact registered?_of_fedBy_none hfed n _
  | some b => exact registered?_modifyBatch_of_fedBy hfed n _

theorem id_takeIdVia (he : t.registered? n = some e) :
    (t.takeIdVia ⟨n, e.registration⟩).1 = e.batch.feed.nextId := by
  have hfed : t.fedBy? ⟨n, e.registration⟩ = some e.batch := fedBy?_eq_some.mpr he
  rw [takeIdVia, hfed]
  rfl

theorem registered?_spawnVia (t : SpeciesTable) (h : Spawner) (placement : Placement) (tint : Vec4)
    (n : String) : (t.spawnVia h placement tint).2.registered? n =
      (t.registered? n).map fun e => if h = ⟨n, e.registration⟩ then
        e.mapBatch fun b => { b with feed := (b.feed.spawn placement tint).2 } else e := by
  unfold spawnVia
  rw [registered?_sendVia, registered?_takeIdVia]
  cases he : t.registered? n with
  | none => rfl
  | some e =>
    by_cases heq : h = ⟨n, e.registration⟩
    · subst heq
      simp only [Option.map_some, if_true, Registered.registration_mapBatch, id_takeIdVia he]
      rfl
    · simp only [Option.map_some, if_neg heq]

/-! ### Histories -/

inductive Action where
  | register (species : String) (s : BatchSettings)
  | unregister (species : String)
  | spawn (species : String) (placement : Placement) (tint : Vec4)
  | add (species : String) (s : Sprite)
  | remove (species : String) (id : Nat)
  | refresh (species : String) (c : Camera)
  | update (c : Camera) (dt : Single)
  | takeIdVia (h : Spawner)
  | spawnVia (h : Spawner) (placement : Placement) (tint : Vec4)
  | addVia (h : Spawner) (s : Sprite)
  | removeVia (h : Spawner) (id : Nat)

/-- The table after an action. One that is refused leaves it as it is. -/
def perform (t : SpeciesTable) : Action → SpeciesTable
  | .register species s => (t.register species s).toOption.getD t
  | .unregister species => (t.unregister? species).getD t
  | .spawn species placement tint => ((t.spawn? species placement tint).map Prod.snd).getD t
  | .add species s => t.send species (.add s)
  | .remove species id => t.send species (.remove id)
  | .refresh species c => t.refresh species c
  | .update c dt => (t.update c dt).2
  | .takeIdVia h => (t.takeIdVia h).2
  | .spawnVia h placement tint => (t.spawnVia h placement tint).2
  | .addVia h s => t.sendVia h (.add s)
  | .removeVia h id => t.sendVia h (.remove id)

/-- The table after a history that starts with no species. -/
def after (history : List Action) : SpeciesTable := history.foldl perform empty

theorem after_append (history acts : List Action) :
    after (history ++ acts) = acts.foldl perform (after history) :=
  List.foldl_append

/-- What an action asks of the batch that is registered under `n` and has spawner `h`. -/
def Action.request? (n : String) (h : Spawner) : Action → Option Batch.Request
  | .register .. => none
  | .unregister _ => none
  | .spawn species placement tint => if species = n then some (.spawn placement tint) else none
  | .add species s => if species = n then some (.add s) else none
  | .remove species id => if species = n then some (.remove id) else none
  | .refresh species c => if species = n then some (.refresh c) else none
  | .update c dt => some (.update c dt)
  | .takeIdVia k => if k = h then some .reserve else none
  | .spawnVia k placement tint => if k = h then some (.spawn placement tint) else none
  | .addVia k s => if k = h then some (.add s) else none
  | .removeVia k id => if k = h then some (.remove id) else none

/-- A registration fills a vacant place, if the settings are accepted, and does nothing else. -/
theorem registered?_perform_register (t : SpeciesTable) (m : String) (s : BatchSettings)
    (n : String) : (t.perform (.register m s)).registered? n = (t.registered? n).or
      (if m = n then (Batch.create m s).toOption.map (⟨t.nextRegistration, ·⟩) else none) := by
  show ((t.register m s).toOption.getD t).registered? n = _
  cases hreg : t.register m s with
  | error err =>
    show t.registered? n = _
    by_cases hm : m = n
    · subst hm
      cases he : t.registered? m with
      | some e => rfl
      | none =>
        -- Nothing stands in the way of the registration but its settings.
        cases hb : Batch.create m s with
        | error err => simp [Except.toOption]
        | ok b =>
          have hvacant : t.contains m = false := by simp [contains, he]
          have hok := register_eq_ok_iff.mpr ⟨hvacant, b, hb, rfl⟩
          rw [hreg] at hok
          cases hok
    · simp [hm]
  | ok t' =>
    obtain ⟨hvacant, b, hb, rfl⟩ := register_eq_ok_iff.mp hreg
    show (⟨_, _, _⟩ : SpeciesTable).registered? n = _
    rw [registered?_insert, hb]
    by_cases hm : m = n
    · subst hm
      have hnone : t.registered? m = none := by simpa [contains] using hvacant
      simp [hnone, Except.toOption]
    · simp [hm]

theorem registered?_perform_unregister (t : SpeciesTable) (m n : String) :
    (t.perform (.unregister m)).registered? n = if m = n then none else t.registered? n := by
  show ((t.unregister? m).getD t).registered? n = _
  cases hgone : t.unregister? m with
  | none =>
    have hm : t.registered? m = none := by simpa [unregister?] using hgone
    show t.registered? n = _
    split
    · rename_i heq
      rw [← heq, hm]
    · rfl
  | some t' => exact registered?_unregister hgone n

/-- Any other action asks something of the batch of a species or asks nothing of it, and it is
served accordingly. -/
theorem registered?_perform_of_request (t : SpeciesTable) {a : Action}
    (hreg : ∀ m s, a ≠ .register m s) (hun : ∀ m, a ≠ .unregister m) (n : String) :
    (t.perform a).registered? n =
      (t.registered? n).map fun e => e.mapBatch fun b =>
        ((a.request? n ⟨n, e.registration⟩).map b.serve).getD b := by
  have named (m : String) (r : Batch.Request) : (t.modifyBatch m (·.serve r)).registered? n =
      (t.registered? n).map
        (.mapBatch fun b => ((if m = n then some r else none).map b.serve).getD b) := by
    rw [registered?_modifyBatch]
    split
    · rfl
    · cases t.registered? n <;> rfl
  have held (r : Batch.Request) (h : Spawner) :
      ((t.registered? n).map fun e =>
        if h = ⟨n, e.registration⟩ then e.mapBatch (·.serve r) else e) =
        (t.registered? n).map fun e => e.mapBatch fun b =>
          ((if h = ⟨n, e.registration⟩ then some r else none).map b.serve).getD b := by
    congr 1
    funext e
    split <;> rfl
  cases a with
  | register m s => exact absurd rfl (hreg m s)
  | unregister m => exact absurd rfl (hun m)
  | spawn m placement tint =>
    have hspawn : t.perform (.spawn m placement tint) =
        ((t.batch? m).map fun _ => t.modifyBatch m (·.serve (.spawn placement tint))).getD t := by
      simp only [perform, spawn?, Option.map_map]
      rfl
    rw [hspawn]
    cases hm : t.batch? m with
    | some b => exact named m _
    | none =>
      show t.registered? n = _
      cases he : t.registered? n with
      | none => rfl
      | some e =>
        have hne : m ≠ n := by
          rintro rfl
          simp [batch?, he] at hm
        simp [Action.request?, hne, Registered.mapBatch]
  | add m s => exact named m (.add s)
  | remove m id => exact named m (.remove id)
  | refresh m c => exact named m (.refresh c)
  | update c dt => exact registered?_update ..
  | takeIdVia h => exact (registered?_takeIdVia ..).trans (held .reserve h)
  | spawnVia h placement tint =>
    exact (registered?_spawnVia ..).trans (held (.spawn placement tint) h)
  | addVia h s => exact (registered?_sendVia ..).trans (held (.add s) h)
  | removeVia h id => exact (registered?_sendVia ..).trans (held (.remove id) h)

/-- What an action makes of a registered batch: it serves the request that the action addresses to
it, if any, and nothing else happens to it. -/
theorem registered?_perform (he : t.registered? n = some e) {a : Action} (ha : a ≠ .unregister n) :
    (t.perform a).registered? n = some (e.mapBatch fun b =>
      ((a.request? n ⟨n, e.registration⟩).map b.serve).getD b) := by
  cases a with
  | register m s => rw [registered?_perform_register, he, Option.some_or]; rfl
  | unregister m =>
    have hne : m ≠ n := fun h => ha (congrArg _ h)
    rw [registered?_perform_unregister, if_neg hne, he]
    rfl
  | _ =>
    rw [registered?_perform_of_request t (fun _ _ => Action.noConfusion)
      (fun _ => Action.noConfusion), he]
    rfl

/-- A species that has no batch gets one from a registration only, under a number of its own. -/
theorem registered_of_perform (hn : t.registered? n = none) {a : Action}
    (he : (t.perform a).registered? n = some e) :
    ∃ s b, a = .register n s ∧ Batch.create n s = .ok b ∧ e = ⟨t.nextRegistration, b⟩ ∧
      (t.perform a).nextRegistration = t.nextRegistration + 1 := by
  cases a with
  | register m s =>
    rw [registered?_perform_register, hn, Option.none_or] at he
    split at he
    · rename_i hm
      subst hm
      cases hb : Batch.create m s with
      | error err => simp [hb, Except.toOption] at he
      | ok b =>
        have hvacant : t.contains m = false := by simp [contains, hn]
        have hreg := register_eq_ok_iff.mpr ⟨hvacant, b, hb, rfl⟩
        refine ⟨s, b, rfl, hb, by simpa [hb, Except.toOption, eq_comm] using he, ?_⟩
        show ((t.register m s).toOption.getD t).nextRegistration = _
        rw [hreg]
        rfl
    · cases he
  | unregister m => simp [registered?_perform_unregister, hn] at he
  | _ =>
    rw [registered?_perform_of_request t (fun _ _ => Action.noConfusion)
      (fun _ => Action.noConfusion), hn] at he
    cases he

/-- Along a history in which a registration stands, its batch serves the requests addressed to it,
in their order. -/
theorem registered?_foldl_perform {acts : List Action} (he : t.registered? n = some e)
    (hkept : .unregister n ∉ acts) :
    (acts.foldl perform t).registered? n = some (e.mapBatch fun b =>
      (acts.filterMap (Action.request? n ⟨n, e.registration⟩)).foldl Batch.serve b) := by
  induction acts generalizing t e with
  | nil => exact he
  | cons a acts ih =>
    obtain ⟨ha, hacts⟩ : a ≠ .unregister n ∧ .unregister n ∉ acts := by
      simpa [eq_comm] using hkept
    rw [List.foldl_cons, ih (registered?_perform he ha) hacts, Registered.registration_mapBatch,
      List.filterMap_cons]
    cases a.request? n ⟨n, e.registration⟩ <;> rfl

/-! ### Numbers of registrations -/

theorem nextRegistration_takeIdVia (t : SpeciesTable) (h : Spawner) :
    (t.takeIdVia h).2.nextRegistration = t.nextRegistration := by
  unfold takeIdVia
  split <;> rfl

theorem nextRegistration_sendVia (t : SpeciesTable) (h : Spawner) (c : Command) :
    (t.sendVia h c).nextRegistration = t.nextRegistration := by
  unfold sendVia
  split <;> rfl

theorem nextRegistration_perform (t : SpeciesTable) (a : Action) :
    t.nextRegistration ≤ (t.perform a).nextRegistration := by
  cases a with
  | register m s =>
    show _ ≤ ((t.register m s).toOption.getD t).nextRegistration
    cases hreg : t.register m s with
    | error err => exact Nat.le_refl _
    | ok t' =>
      obtain ⟨-, b, -, rfl⟩ := register_eq_ok_iff.mp hreg
      exact Nat.le_succ _
  | unregister m =>
    show _ ≤ ((t.unregister? m).getD t).nextRegistration
    unfold unregister?
    cases t.registered? m <;> exact Nat.le_refl _
  | spawn m placement tint =>
    show _ ≤ (((t.spawn? m placement tint).map Prod.snd).getD t).nextRegistration
    unfold spawn?
    cases t.batch? m <;> exact Nat.le_refl _
  | takeIdVia h => exact Nat.le_of_eq (t.nextRegistration_takeIdVia h).symm
  | spawnVia h placement tint =>
    have htake := t.nextRegistration_takeIdVia h
    exact Nat.le_of_eq ((nextRegistration_sendVia _ h _).trans htake).symm
  | addVia h s => exact Nat.le_of_eq (t.nextRegistration_sendVia h _).symm
  | removeVia h id => exact Nat.le_of_eq (t.nextRegistration_sendVia h _).symm
  | _ => exact Nat.le_refl _

/-- Every registration has a number that was given out. -/
def Numbered (t : SpeciesTable) : Prop :=
  ∀ n e, t.registered? n = some e → e.registration < t.nextRegistration

theorem Numbered.perform (h : t.Numbered) (a : Action) : (t.perform a).Numbered := by
  intro n e he
  cases hn : t.registered? n with
  | none =>
    obtain ⟨s, b, -, -, rfl, hnext⟩ := registered_of_perform hn he
    rw [hnext]
    exact Nat.lt_succ_self _
  | some e' =>
    by_cases ha : a = .unregister n
    · rw [ha, registered?_perform_unregister, if_pos rfl] at he
      cases he
    · rw [registered?_perform hn ha] at he
      obtain rfl := Option.some.inj he
      exact Nat.lt_of_lt_of_le (h n e' hn) (t.nextRegistration_perform a)

theorem numbered_after (history : List Action) : (after history).Numbered := by
  have hrun (t : SpeciesTable) (h : t.Numbered) :
      (history.foldl SpeciesTable.perform t).Numbered := by
    induction history generalizing t with
    | nil => exact h
    | cons a history ih => exact ih _ (h.perform a)
  refine hrun empty fun n e he => ?_
  simp [empty, registered?] at he

theorem nextRegistration_foldl (t : SpeciesTable) (acts : List Action) :
    t.nextRegistration ≤ (acts.foldl perform t).nextRegistration := by
  induction acts generalizing t with
  | nil => exact Nat.le_refl _
  | cons a acts ih => exact Nat.le_trans (t.nextRegistration_perform a) (ih _)

/-! ### The latest registration -/

/-- Every registered batch goes back to one registration, which has stood ever since. -/
theorem exists_registration {history : List Action} (he : (after history).registered? n = some e) :
    ∃ before s later b, history = before ++ .register n s :: later ∧
      (after before).registered? n = none ∧ Batch.create n s = .ok b ∧ .unregister n ∉ later ∧
      e.registration = (after before).nextRegistration := by
  induction history using List.reverseRecOn generalizing e with
  | nil => simp [after, empty, registered?] at he
  | append_singleton history a ih =>
    rw [after_append, List.foldl_cons, List.foldl_nil] at he
    cases hn : (after history).registered? n with
    | none =>
      obtain ⟨s, b, rfl, hb, rfl, -⟩ := registered_of_perform hn he
      exact ⟨history, s, [], b, rfl, hn, hb, List.not_mem_nil, rfl⟩
    | some e' =>
      have ha : a ≠ .unregister n := by
        rintro rfl
        rw [registered?_perform_unregister, if_pos rfl] at he
        cases he
      rw [registered?_perform hn ha] at he
      obtain rfl := Option.some.inj he
      obtain ⟨before, s, later, b, rfl, hvacant, hb, hkept, hnumber⟩ := ih hn
      refine ⟨before, s, later ++ [a], b, by simp, hvacant, hb, ?_, hnumber⟩
      simp [hkept, ha.symm]

theorem registered?_after_registration {before later : List Action} {s : BatchSettings} {b : Batch}
    (hvacant : (after before).registered? n = none) (hb : Batch.create n s = .ok b)
    (hkept : .unregister n ∉ later) :
    (after (before ++ .register n s :: later)).registered? n =
      some ⟨(after before).nextRegistration,
        (later.filterMap (Action.request? n ⟨n, (after before).nextRegistration⟩)).foldl
          Batch.serve b⟩ := by
  have hentry : ((after before).perform (.register n s)).registered? n =
      some ⟨(after before).nextRegistration, b⟩ := by
    simp [registered?_perform_register, hvacant, hb, Except.toOption]
  rw [after_append, List.foldl_cons, registered?_foldl_perform hentry hkept]
  rfl

/-! ### The order of an update -/

def updating (c : Camera) (dt : Single) (t : SpeciesTable) (m : String) : SpeciesTable :=
  ((t.updateOne? m c dt).map Prod.snd).getD t

theorem updating_of_some {b : Batch} (hb : t.batch? m = some b) (c : Camera) (dt : Single) :
    updating c dt t m = t.modifyBatch m fun _ => (b.update c dt).2 := by
  simp only [updating, updateOne?, hb, Option.map_some, Option.getD_some]

theorem updating_of_none (hb : t.batch? m = none) (c : Camera) (dt : Single) :
    updating c dt t m = t := by
  rw [updating, updateOne?, hb]
  rfl

theorem updating_keeps (c : Camera) (dt : Single) (t : SpeciesTable) (m : String) :
    (updating c dt t m).retired = t.retired ∧
      (updating c dt t m).nextRegistration = t.nextRegistration := by
  cases hb : t.batch? m with
  | none => rw [updating_of_none hb]; exact ⟨rfl, rfl⟩
  | some b => rw [updating_of_some hb]; exact ⟨rfl, rfl⟩

theorem registered?_updating (c : Camera) (dt : Single) (t : SpeciesTable) (m n : String) :
    (updating c dt t m).registered? n =
      if m = n then (t.registered? n).map (.mapBatch fun b => (b.update c dt).2)
      else t.registered? n := by
  cases hb : t.batch? m with
  | none =>
    rw [updating_of_none hb]
    split
    · rename_i hm
      subst hm
      have hnone : t.registered? m = none := by simpa [batch?] using hb
      rw [hnone, Option.map_none]
    · rfl
  | some b =>
    rw [updating_of_some hb, registered?_modifyBatch]
    split
    · rename_i hm
      subst hm
      obtain ⟨e, he, rfl⟩ := Option.map_eq_some_iff.mp hb
      -- Unfolded first: the two functions agree at this batch only.
      simp only [he, Option.map_some, Registered.mapBatch]
    · rfl

/-- An update of all batches, one after the other in whatever order, is the update of the table. -/
theorem update_eq_foldl_updating (t : SpeciesTable) (c : Camera) (dt : Single) {order : List String}
    (hnodup : order.Nodup) (hall : ∀ m, m ∈ order ↔ t.contains m = true) :
    order.foldl (updating c dt) t = (t.update c dt).2 := by
  have hentry (order : List String) (hnodup : order.Nodup) (t : SpeciesTable) (n : String) :
      (order.foldl (updating c dt) t).registered? n =
        if n ∈ order then (t.registered? n).map (.mapBatch fun b => (b.update c dt).2)
        else t.registered? n := by
    induction order generalizing t with
    | nil => rfl
    | cons m order ih =>
      obtain ⟨hm, horder⟩ := List.nodup_cons.mp hnodup
      rw [List.foldl_cons, ih horder, registered?_updating]
      by_cases hn : m = n
      · subst hn
        simp [hm]
      · simp [hn, Ne.symm hn]
  have hkeeps (order : List String) (t : SpeciesTable) :
      (order.foldl (updating c dt) t).retired = t.retired ∧
        (order.foldl (updating c dt) t).nextRegistration = t.nextRegistration := by
    induction order generalizing t with
    | nil => exact ⟨rfl, rfl⟩
    | cons m order ih =>
      obtain ⟨hr, hn⟩ := ih (updating c dt t m)
      obtain ⟨hr', hn'⟩ := updating_keeps c dt t m
      exact ⟨hr.trans hr', hn.trans hn'⟩
  have hentries : (order.foldl (updating c dt) t).entries = (t.update c dt).2.entries := by
    apply Std.ExtTreeMap.ext_getElem?
    intro n
    show (order.foldl (updating c dt) t).registered? n = (t.update c dt).2.registered? n
    rw [hentry order hnodup, registered?_update]
    split
    · rfl
    · rename_i hn
      have hnone : t.registered? n = none := by simpa [hall, contains] using hn
      rw [hnone]
      rfl
  obtain ⟨hretired, hnext⟩ := hkeeps order t
  calc order.foldl (updating c dt) t
    _ = ⟨_, _, _⟩ := rfl
    _ = (t.update c dt).2 := by rw [hentries, hretired, hnext]; rfl

/-! ### One species among all -/

theorem contains_eq_false : t.contains n = false ↔ t.registered? n = none :=
  Option.isSome_eq_false_iff.trans Option.isNone_iff_eq_none

theorem spawner?_after_registration {before : List Action} {s : BatchSettings} {b : Batch}
    (hvacant : (after before).registered? n = none) (hb : Batch.create n s = .ok b) :
    (after (before ++ [.register n s])).spawner? n = some ⟨n, (after before).nextRegistration⟩ := by
  rw [spawner?, registered?_after_registration hvacant hb List.not_mem_nil]
  rfl

theorem ne_spawner_of_earlier {earlier before : List Action} (hpre : earlier <+: before)
    {m : String} {h : Spawner} (hh : (after earlier).spawner? m = some h) :
    h ≠ ⟨n, (after before).nextRegistration⟩ := by
  obtain ⟨e, he, rfl⟩ := Option.map_eq_some_iff.mp hh
  obtain ⟨rest, rfl⟩ := hpre
  have hlt := numbered_after earlier m e he
  have hle : (after earlier).nextRegistration ≤ (after (earlier ++ rest)).nextRegistration := by
    rw [after_append]
    exact nextRegistration_foldl ..
  intro heq
  have hnumber := congrArg Spawner.registration heq
  simp only at hnumber
  omega

/-- Whatever is done to a table, the batch that stands under a name is settled by the settings of
its registration and by the requests addressed to that registration since, in their order; two
histories that agree on these have the same batch. Other names, refused registrations and spawners
that were taken before the registration have no part in it, and neither has the order in which an
update goes through the species. -/
theorem batch_settled_by_own_requests {history : List Action} {b : Batch}
    (hb : (after history).batch? n = some b) :
    ∃ before s later fresh h, history = before ++ .register n s :: later ∧
      (after before).contains n = false ∧ Batch.create n s = .ok fresh ∧ .unregister n ∉ later ∧
      (after (before ++ [.register n s])).spawner? n = some h ∧
      b = (later.filterMap (Action.request? n h)).foldl Batch.serve fresh ∧
      (∀ earlier m, earlier <+: before → (after earlier).spawner? m ≠ some h) ∧
      (∀ a, a ≠ .unregister n → a.request? n h = none →
        (after (history ++ [a])).batch? n = some b) ∧
      (∀ before' later' h', (after before').contains n = false → .unregister n ∉ later' →
        (after (before' ++ [.register n s])).spawner? n = some h' →
        later'.filterMap (Action.request? n h') = later.filterMap (Action.request? n h) →
        (after (before' ++ .register n s :: later')).batch? n = some b) ∧
      ∀ c dt (order : List String), order.Nodup →
        (∀ m, m ∈ order ↔ (after history).contains m = true) →
        order.foldl (updating c dt) (after history) = after (history ++ [.update c dt]) := by
  obtain ⟨e, he, rfl⟩ := Option.map_eq_some_iff.mp hb
  obtain ⟨before, s, later, fresh, rfl, hvacant, hfresh, hkept, -⟩ := exists_registration he
  have hentry := registered?_after_registration hvacant hfresh hkept
  obtain rfl := Option.some.inj (he.symm.trans hentry)
  refine ⟨before, s, later, fresh, _, rfl, contains_eq_false.mpr hvacant, hfresh, hkept,
    spawner?_after_registration hvacant hfresh, rfl, ?_, ?_, ?_, ?_⟩
  · intro earlier m hpre hh
    exact ne_spawner_of_earlier hpre hh rfl
  · intro a ha hnone
    have hstep := registered?_perform hentry ha
    rw [hnone] at hstep
    rw [after_append, List.foldl_cons, List.foldl_nil, batch?, hstep]
    rfl
  · intro before' later' h' hvacant' hkept' hh' hsame
    have hnone := contains_eq_false.mp hvacant'
    rw [spawner?_after_registration hnone hfresh] at hh'
    obtain rfl := Option.some.inj hh'
    rw [batch?, registered?_after_registration hnone hfresh hkept', hsame]
    rfl
  · intro c dt order hnodup hall
    exact (update_eq_foldl_updating _ c dt hnodup hall).trans (after_append _ [.update c dt]).symm

/-- A species that is registered, dropped and registered anew with another capacity, while an old
spawner goes on sending and another species has a life of its own. -/
def renewal : List Action :=
  [.register "tree" {}, .spawnVia ⟨"tree", 0⟩ (.standingAt .zero) .ones, .register "tuft" {},
    .unregister "tree", .register "tree" { capacity := 1 }, .register "tree" {},
    .spawnVia ⟨"tree", 0⟩ (.standingAt .zero) .ones, .spawn "tuft" (.standingAt .zero) .ones,
    .spawnVia ⟨"tree", 2⟩ (.standingAt .zero) .ones, .remove "grass" 1, .refresh "tree" .standard]

theorem batch_settled_by_own_requests_renewed :
    ∃ b, (after renewal).batch? "tree" = some b ∧ b.capacity = 1 ∧ b.feed.nextId = 2 ∧
      ∃ before s later fresh h, renewal = before ++ .register "tree" s :: later ∧
        (after before).contains "tree" = false ∧ Batch.create "tree" s = .ok fresh ∧
        b = (later.filterMap (Action.request? "tree" h)).foldl Batch.serve fresh := by
  obtain ⟨b, hb, hcapacity, hnext⟩ : ∃ b, (after renewal).batch? "tree" = some b ∧
      b.capacity = 1 ∧ b.feed.nextId = 2 := by
    have hrun : (((after renewal).batch? "tree").any fun b =>
        b.capacity == 1 && b.feed.nextId == 2) = true := by decide +kernel
    simpa [Option.any_eq_true] using hrun
  obtain ⟨before, s, later, fresh, h, hsplit, hvacant, hfresh, -, -, hserved, -⟩ :=
    batch_settled_by_own_requests hb
  exact ⟨b, hb, hcapacity, hnext, before, s, later, fresh, h, hsplit, hvacant, hfresh, hserved⟩

end SpeciesTable

end VoxelScene
