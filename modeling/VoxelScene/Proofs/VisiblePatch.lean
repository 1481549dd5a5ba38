import VoxelScene.Proofs.VisibleSprites

/-!
Updates between sorts.

An update that does not sort leaves the visible sprites in their order. Those that are no longer
live drop out, and the room behind the others goes to the sprites added with this update, first
come, first served. Nothing that is still live has to make way.
-/

namespace VoxelScene

namespace Batch

variable {b old new : Batch}

/-- What is live after changes: the removed ids are not, the other added ones are, and the rest is
as before. -/
theorem isLive_apply (b : Batch) (cs : List Command) (id : Nat) :
    (b.apply cs).isLive id = true ↔
      .remove id ∉ cs ∧ ((∃ s, .add s ∈ cs ∧ s.id = id) ∨ b.isLive id = true) := by
  rw [isLive, sprite?_apply]
  by_cases hrem : .remove id ∈ cs
  · simp [hrem]
  · simp only [hrem, if_false, Option.isSome_or, Bool.or_eq_true, List.find?_isSome,
      List.mem_reverse, Command.mem_added, decide_eq_true_eq, not_false_eq_true, true_and, isLive]

/-! ### Who joins -/

/-- The added ids that may join: those that are live and not shown, each where it first comes. -/
def newcomers (isLive : Nat → Bool) (shown added : List Nat) : List Nat :=
  (added.filter fun id => isLive id && !shown.contains id).eraseDups

variable {capacity : Nat} {isLive : Nat → Bool} {shown added : List Nat} {id : Nat}

theorem mem_newcomers :
    id ∈ newcomers isLive shown added ↔ id ∈ added ∧ isLive id = true ∧ id ∉ shown := by
  simp [newcomers, List.mem_eraseDups]

theorem newcomers_cons_of_join (hlive : isLive id = true) (hnew : id ∉ shown) :
    newcomers isLive shown (id :: added) = id :: newcomers isLive (shown ++ [id]) added := by
  have hjoin : (isLive id && !shown.contains id) = true := by simp [hlive, hnew]
  have hrest (k : Nat) : (!k == id && (isLive k && !shown.contains k)) =
      (isLive k && !(shown ++ [id]).contains k) := by
    by_cases hk : k = id <;> by_cases hs : k ∈ shown <;> simp [hk, hs]
  rw [newcomers, List.filter_cons, if_pos hjoin, List.eraseDups_cons, List.filter_filter]
  simp only [hrest, newcomers]

theorem newcomers_cons_of_stay (h : ¬ (isLive id && !shown.contains id) = true) :
    newcomers isLive shown (id :: added) = newcomers isLive shown added := by
  rw [newcomers, List.filter_cons, if_neg h, newcomers]

/-- The loop that lets ids join one by one takes as many newcomers as there is room for. -/
theorem joinShown_eq (capacity : Nat) (isLive : Nat → Bool) (shown added : List Nat) :
    joinShown capacity isLive shown added =
      shown ++ (newcomers isLive shown added).take (capacity - shown.length) := by
  induction added generalizing shown with
  | nil => simp [joinShown, newcomers]
  | cons id rest ih =>
    rw [joinShown]
    by_cases hfull : capacity ≤ shown.length
    · have hroom : capacity - shown.length = 0 := by omega
      rw [if_pos hfull, hroom, List.take_zero, List.append_nil]
    · rw [if_neg hfull]
      by_cases hjoin : (isLive id && !shown.contains id) = true
      · obtain ⟨hlive, hnew⟩ : isLive id = true ∧ id ∉ shown := by simpa using hjoin
        have hroom : capacity - shown.length = (capacity - (shown ++ [id]).length) + 1 := by
          rw [List.length_append, List.length_singleton]
          omega
        rw [if_pos hjoin, ih, newcomers_cons_of_join hlive hnew, hroom, List.take_succ_cons,
          List.append_assoc, List.singleton_append]
      · rw [if_neg hjoin, ih, newcomers_cons_of_stay hjoin]

/-- Who may join and does not finds no room. -/
theorem length_of_left_out (hfits : shown.length ≤ capacity)
    (hid : id ∈ newcomers isLive shown added)
    (hout : id ∉ shown ++ (newcomers isLive shown added).take (capacity - shown.length)) :
    (shown ++ (newcomers isLive shown added).take (capacity - shown.length)).length = capacity := by
  have hmore : capacity - shown.length < (newcomers isLive shown added).length := by
    apply Nat.lt_of_not_le
    intro hall
    rw [List.take_of_length_le hall] at hout
    exact hout (List.mem_append_right _ hid)
  rw [List.length_append, List.length_take]
  omega

/-! ### One update -/

/-- The visible ids that are still live. -/
def kept (old new : Batch) : List Nat := old.visible.filter new.isLive

theorem visible_of_idle {n : Nat} {c : Camera} {dt : Single}
    (h : old.updateTaking n c dt = (false, new)) (hidle : old.feed.queue.toList.take n = []) :
    new.visible = old.visible ∧ new.packed = old.packed ∧ ∀ id, new.isLive id = old.isLive id := by
  rw [updateTaking, hidle] at h
  obtain hsort | ⟨-, hnothing⟩ | ⟨hsome, -⟩ :=
    ({ old with feed := _ } : Batch).advance_cases [] c dt
  · cases hsort.symm.trans h
  · obtain rfl := (Prod.mk.inj (hnothing.symm.trans h)).2
    exact ⟨rfl, rfl, fun id => rfl⟩
  · exact absurd rfl hsome

theorem visible_of_busy {n : Nat} {c : Camera} {dt : Single}
    (h : old.updateTaking n c dt = (false, new)) (hbusy : old.feed.queue.toList.take n ≠ []) :
    new.visible = old.kept new ++ (newcomers new.isLive (old.kept new)
      (((old.feed.queue.toList.take n).filterMap Command.added?).map Sprite.id)).take
        (old.capacity - (old.kept new).length) := by
  rw [updateTaking] at h
  obtain hsort | ⟨hnothing, -⟩ | ⟨-, hpatch⟩ :=
    ({ old with feed := _ } : Batch).advance_cases (old.feed.queue.toList.take n) c dt
  · cases hsort.symm.trans h
  · exact absurd hnothing hbusy
  · obtain rfl := (Prod.mk.inj (hpatch.symm.trans h)).2
    exact joinShown_eq ..

theorem isLive_updateTaking {n : Nat} {c : Camera} {dt : Single} {sorted : Bool}
    (h : old.updateTaking n c dt = (sorted, new)) (id : Nat) : new.isLive id = true ↔
      .remove id ∉ old.feed.queue.toList.take n ∧
        ((∃ s, .add s ∈ old.feed.queue.toList.take n ∧ s.id = id) ∨ old.isLive id = true) := by
  have hnew : new = (old.updateTaking n c dt).2 := by rw [h]
  rw [← isLive_apply, isLive, hnew, sprite?_updateTaking]
  rfl

/-- An update that does not sort is a stable patch. With no changes taken, what is visible and
packed stays. Otherwise the visible ids that are still live stay in their order, and after them come
the first of the added ones that are live and not shown, as many as there is room for. So nothing
live is evicted, a removed id leaves at once, and an added sprite is missing only if the list is
full. -/
theorem update_between_sorts_is_stable_patch {species : String} {settings : BatchSettings}
    {b old new : Batch} (hb : create species settings = .ok b) {calls : List Call}
    (hold : calls.foldl perform b = old) {n : Nat} {c : Camera} {dt : Single} {taken : List Command}
    (htaken : old.feed.queue.toList.take n = taken)
    (hnew : old.updateTaking n c dt = (false, new)) :
    (∀ id, new.isLive id = true ↔
      .remove id ∉ taken ∧ ((∃ s, .add s ∈ taken ∧ s.id = id) ∨ old.isLive id = true)) ∧
    (taken = [] → new.visible = old.visible ∧ new.packed = old.packed) ∧
    (taken ≠ [] → new.visible = old.kept new ++
      (newcomers new.isLive (old.kept new) ((taken.filterMap Command.added?).map Sprite.id)).take
        (settings.capacity - (old.kept new).length)) ∧
    new.packed.map some = new.visible.map (fun id => (new.sprite? id).map Sprite.pack) ∧
    old.kept new <+: new.visible ∧
    (∀ id, .remove id ∈ taken → id ∉ new.visible) ∧
    ∀ s, .add s ∈ taken → new.isLive s.id = true → s.id ∉ new.visible →
      new.visible.length = settings.capacity := by
  obtain ⟨hline, hsettings⟩ := InLine.of_create hb
  obtain ⟨hold', hsettings'⟩ := hline.run calls
  rw [hold] at hold' hsettings'
  have hcapacity : old.capacity = settings.capacity := by rw [capacity, hsettings', hsettings]
  have hline' : new.InLine := by
    have hstep := (hold'.perform (.update n c dt)).1
    rw [perform, hnew] at hstep
    exact hstep
  have hlive := isLive_updateTaking hnew
  rw [htaken] at hlive
  have hfits : (old.kept new).length ≤ settings.capacity :=
    Nat.le_trans (List.length_filter_le ..) (hcapacity ▸ hold'.fits)
  have hidle (h : taken = []) : new.visible = old.visible ∧ new.packed = old.packed := by
    obtain ⟨hvisible, hpacked, -⟩ := visible_of_idle hnew (htaken.trans h)
    exact ⟨hvisible, hpacked⟩
  have hbusy (h : taken ≠ []) := visible_of_busy hnew (htaken ▸ h)
  rw [hcapacity, htaken] at hbusy
  refine ⟨hlive, hidle, hbusy, hline'.packed, ?_, fun id hid hshown => ?_,
    fun s hs hslive hout => ?_⟩
  · by_cases h : taken = []
    · have hall : old.kept new = old.visible := by
        rw [kept, List.filter_eq_self]
        intro id hid
        exact hline'.live id ((hidle h).1 ▸ hid)
      have hsame : old.kept new = new.visible := hall.trans (hidle h).1.symm
      exact ⟨[], by rw [List.append_nil, hsame]⟩
    · rw [hbusy h]
      exact List.prefix_append ..
  · exact ((hlive id).mp (hline'.live id hshown)).1 hid
  · have h : taken ≠ [] := List.ne_nil_of_mem hs
    rw [hbusy h] at hout ⊢
    refine length_of_left_out hfits (mem_newcomers.mpr ⟨?_, hslive, fun hkept => ?_⟩) hout
    · exact List.mem_map_of_mem (Command.mem_added.mpr hs)
    · exact hout (List.mem_append_left _ hkept)

/-- Two sprites become visible after a first sort of nothing. Then an added id is repeated, one is
removed again, one is visible already, and one visible sprite is removed. -/
def unrest : List Call :=
  [.update 0 .standard .zero, .add ⟨1, .standingAt .zero, .ones⟩,
    .add ⟨2, .standingAt .zero, .ones⟩, .update 2 .standard .zero,
    .add ⟨5, .standingAt .zero, .ones⟩, .add ⟨5, .scaledAt .half .zero, .ones⟩, .remove 1,
    .add ⟨6, .standingAt .zero, .ones⟩, .remove 6, .add ⟨2, .scaledAt .half .zero, .ones⟩,
    .add ⟨7, .standingAt .zero, .ones⟩, .add ⟨8, .standingAt .zero, .ones⟩]

/-- Of the two places that are left next to the kept sprite, the first goes to the repeated id,
once, and the second to the next one that is still live. The last one stays outside. -/
theorem update_between_sorts_is_stable_patch_unrest :
    ∃ b new, create "tree" { capacity := 3 } = .ok b ∧
      (unrest.foldl perform b).updateTaking 8 .standard .zero = (false, new) ∧
      (unrest.foldl perform b).visible = [1, 2] ∧ new.visible = [2, 5, 7] ∧
      new.isLive 8 = true := by
  obtain ⟨b, hb⟩ : ∃ b, create "tree" { capacity := 3 } = .ok b := ⟨_, rfl⟩
  obtain ⟨hunsorted, hvisible, htaken, hlive⟩ :
      ((unrest.foldl perform b).updateTaking 8 .standard .zero).1 = false ∧
      (unrest.foldl perform b).visible = [1, 2] ∧
      (unrest.foldl perform b).feed.queue.toList.take 8 ≠ [] ∧
      ((unrest.foldl perform b).updateTaking 8 .standard .zero).2.isLive 8 = true := by
    obtain rfl := Except.ok.inj hb
    decide +kernel
  obtain ⟨-, -, hpatch, -⟩ := update_between_sorts_is_stable_patch hb rfl rfl
    (Prod.ext hunsorted rfl)
  refine ⟨b, _, hb, Prod.ext hunsorted rfl, hvisible, ?_, hlive⟩
  rw [hpatch htaken]
  obtain rfl := Except.ok.inj hb
  decide +kernel

end Batch

end VoxelScene
