import VoxelScene.Proofs.SingleBits
import VoxelScene.Proofs.VisibleSprites

/-!
Choosing by depth.

Scores stand in a total order of all bit patterns, NaNs and signed zeros included, and ids break
ties, so sprites of different ids never tie. Which ones are the nearest is then a matter of the set
alone, and so is their order. Sorting the whole list and cutting it, or cutting first by a partial
selection and sorting only what is left, come out the same, from whatever order the sprites are in.
-/

namespace VoxelScene

namespace Ranked

variable {a b c r : Ranked} {rs : List Ranked} {capacity : Nat} {chosen shown : List Ranked}

/-! ### The order -/

/-- Nearer than another: by the total order of the scores, then by id. -/
def Nearer (a b : Ranked) : Prop :=
  a.score.Precedes b.score ∨ a.score = b.score ∧ a.id < b.id

instance : Decidable (a.Nearer b) := inferInstanceAs (Decidable (_ ∨ _))

theorem nearer_iff : a.Nearer b ↔
    a.score.rank < b.score.rank ∨ a.score.rank = b.score.rank ∧ a.id < b.id := by
  have hscore : a.score.rank = b.score.rank ↔ a.score = b.score :=
    ⟨Single.rank_injective, congrArg Single.rank⟩
  rw [Nearer, Single.rank_lt_iff, hscore]

theorem le_iff : le a b = true ↔ ¬ b.Nearer a := by
  rw [nearer_iff, le, Bool.or_eq_true, decide_eq_true_iff, Bool.and_eq_true, beq_iff_eq,
    decide_eq_true_iff]
  omega

theorem Nearer.asymm (h : a.Nearer b) : ¬ b.Nearer a := by
  rw [nearer_iff] at *
  omega

theorem Nearer.of_le (h : le a b = true) (hne : a.id ≠ b.id) : a.Nearer b := by
  rw [le_iff, nearer_iff] at h
  rw [nearer_iff]
  omega

theorem le_trans (hab : le a b = true) (hbc : le b c = true) : le a c = true := by
  rw [le_iff, nearer_iff] at *
  omega

theorem le_total (a b : Ranked) : (le a b || le b a) = true := by
  rw [Bool.or_eq_true, le_iff, le_iff, nearer_iff, nearer_iff]
  omega

/-! ### The nearest ones -/

/-- The nearest of a list that fit, each once and the farthest of them first. -/
structure Selects (rs : List Ranked) (capacity : Nat) (chosen : List Ranked) : Prop where
  count : chosen.length = min rs.length capacity
  offered : ∀ r ∈ chosen, r ∈ rs
  ordered : chosen.Pairwise fun a b => b.Nearer a
  nearest : ∀ r ∈ rs, r ∉ chosen → ∀ s ∈ chosen, s.Nearer r

namespace Selects

theorem nodup (h : Selects rs capacity chosen) : chosen.Nodup := by
  apply h.ordered.imp
  rintro a b hnearer rfl
  exact hnearer.asymm hnearer

theorem perm {rs' : List Ranked} (h : Selects rs capacity chosen) (hperm : rs'.Perm rs) :
    Selects rs' capacity chosen where
  count := hperm.length_eq ▸ h.count
  offered r hr := hperm.mem_iff.mpr (h.offered r hr)
  ordered := h.ordered
  nearest r hr := h.nearest r (hperm.mem_iff.mp hr)

/-- One that only the second choice holds would be both nearer and farther than one that only the
first holds. -/
theorem subset (h : Selects rs capacity chosen) (h' : Selects rs capacity shown) :
    chosen ⊆ shown := by
  intro r hr
  by_contra hout
  have hsub : shown ⊆ chosen := by
    intro s hs
    by_contra hs'
    exact (h.nearest s (h'.offered s hs) hs' r hr).asymm (h'.nearest r (h.offered r hr) hout s hs)
  have hperm : shown.Perm chosen :=
    (List.subperm_of_subset h'.nodup hsub).perm_of_length_le
      (Nat.le_of_eq (h.count.trans h'.count.symm))
  exact hout (hperm.mem_iff.mpr hr)

theorem unique (h : Selects rs capacity chosen) (h' : Selects rs capacity shown) :
    chosen = shown := by
  have hperm : chosen.Perm shown :=
    (List.perm_ext_iff_of_nodup h.nodup h'.nodup).mpr fun r =>
      ⟨fun hr => h.subset h' hr, fun hr => h'.subset h hr⟩
  exact hperm.eq_of_pairwise (fun a b _ _ hab hba => absurd hab hba.asymm) h.ordered h'.ordered

end Selects

/-- A list cut in two, where no element of the first part is farther than one of the second. -/
theorem selects_of_cut (hids : (rs.map Ranked.id).Nodup) (near far : List Ranked)
    (hperm : (near ++ far).Perm rs) (hcount : near.length = min rs.length capacity)
    (hcut : ∀ s ∈ near, ∀ r ∈ far, le s r = true) (hshown : shown.Perm near)
    (hordered : shown.Pairwise fun a b => le b a = true) : Selects rs capacity shown := by
  have hdistinct : ((near ++ far).map Ranked.id).Nodup := (hperm.map _).nodup_iff.mpr hids
  rw [List.map_append, List.nodup_append] at hdistinct
  obtain ⟨hnear, -, hapart⟩ := hdistinct
  refine ⟨hshown.length_eq.trans hcount, fun r hr => ?_, ?_, fun r hr hout s hs => ?_⟩
  · exact hperm.mem_iff.mp (List.mem_append_left far (hshown.mem_iff.mp hr))
  · have hapart : shown.Pairwise fun a b => a.id ≠ b.id :=
      List.pairwise_map.mp ((hshown.map Ranked.id).nodup_iff.mpr hnear)
    exact hordered.imp₂ (fun a b hle hne => .of_le hle (Ne.symm hne)) hapart
  · have hs : s ∈ near := hshown.mem_iff.mp hs
    have hfar : r ∈ far := by
      rcases List.mem_append.mp (hperm.mem_iff.mpr hr) with hr | hr
      · exact absurd (hshown.mem_iff.mpr hr) hout
      · exact hr
    exact .of_le (hcut s hs r hfar)
      (hapart s.id (List.mem_map_of_mem hs) r.id (List.mem_map_of_mem hfar))

/-! ### Sorting, then cutting -/

theorem pairwise_sorted (rs : List Ranked) :
    (rs.mergeSort le).Pairwise fun a b => le a b = true :=
  @List.pairwise_mergeSort Ranked le (fun _ _ _ => le_trans) le_total rs

theorem exists_selects (hids : (rs.map Ranked.id).Nodup) (capacity : Nat) :
    ∃ chosen, Selects rs capacity chosen ∧ selectVisible rs capacity = chosen.map Ranked.id := by
  have hsorted := pairwise_sorted rs
  have hperm := List.mergeSort_perm rs le
  rw [← List.take_append_drop capacity (rs.mergeSort le)] at hsorted hperm
  obtain ⟨hnear, -, hcut⟩ := List.pairwise_append.mp hsorted
  refine ⟨((rs.mergeSort le).take capacity).reverse, ?_, ?_⟩
  · refine selects_of_cut hids _ _ hperm ?_ hcut (List.reverse_perm _)
      (List.pairwise_reverse.mpr hnear)
    rw [List.length_take, List.length_mergeSort, Nat.min_comm]
  · rw [selectVisible, List.map_reverse]

theorem selectVisible_eq (h : Selects rs capacity chosen) (hids : (rs.map Ranked.id).Nodup) :
    selectVisible rs capacity = chosen.map Ranked.id := by
  obtain ⟨chosen', h', heq⟩ := exists_selects hids capacity
  rw [heq, h'.unique h]

theorem selectVisible_perm {rs' : List Ranked} (hids : (rs.map Ranked.id).Nodup)
    (hperm : rs'.Perm rs) : selectVisible rs' capacity = selectVisible rs capacity := by
  obtain ⟨chosen, h, heq⟩ := exists_selects hids capacity
  rw [heq]
  exact selectVisible_eq (h.perm hperm) ((hperm.map _).nodup_iff.mpr hids)

/-! ### Cutting, then sorting -/

/-- The list as a partial selection of place `i` leaves it: none before that place is farther than
the one there, and none behind it nearer. -/
def SplitAt (i : Nat) (cut : List Ranked) : Prop :=
  ∀ r, cut[i]? = some r →
    (∀ s ∈ cut.take i, le s r = true) ∧ ∀ s ∈ cut.drop (i + 1), le r s = true

/-- What partial selection, truncation and a sort may leave. A list that fits is only sorted. -/
inductive Chooses (rs : List Ranked) (capacity : Nat) (shown : List Ranked) : Prop
  | nothing : capacity = 0 → shown = [] → Chooses rs capacity shown
  | all : 0 < capacity → rs.length ≤ capacity → shown.Perm rs →
      (shown.Pairwise fun a b => le b a = true) → Chooses rs capacity shown
  | part (cut : List Ranked) : 0 < capacity → capacity < rs.length → cut.Perm rs →
      SplitAt (capacity - 1) cut → shown.Perm (cut.take capacity) →
      (shown.Pairwise fun a b => le b a = true) → Chooses rs capacity shown

theorem SplitAt.le {i : Nat} {cut : List Ranked} (h : SplitAt i cut) (hi : i < cut.length)
    {s t : Ranked} (hs : s ∈ cut.take (i + 1)) (ht : t ∈ cut.drop (i + 1)) :
    Ranked.le s t = true := by
  obtain ⟨hbefore, hbehind⟩ := h cut[i] (List.getElem?_eq_getElem hi)
  rw [List.take_succ_eq_append_getElem hi, List.mem_append, List.mem_singleton] at hs
  rcases hs with hs | rfl
  · exact le_trans (hbefore s hs) (hbehind t ht)
  · exact hbehind t ht

theorem Chooses.selects (h : Chooses rs capacity shown) (hids : (rs.map Ranked.id).Nodup) :
    Selects rs capacity shown := by
  cases h with
  | nothing hzero hnil =>
    subst hzero hnil
    exact ⟨by simp, by simp, .nil, by simp⟩
  | all hpos hfits hperm hordered =>
    refine selects_of_cut hids rs [] ?_ ?_ (by simp) hperm hordered
    · simp
    · omega
  | part cut hpos hmore hcut hsplit hperm hordered =>
    have hlength := hcut.length_eq
    obtain ⟨i, rfl⟩ : ∃ i, capacity = i + 1 := ⟨capacity - 1, by omega⟩
    refine selects_of_cut hids (cut.take (i + 1)) (cut.drop (i + 1)) ?_ ?_ ?_ hperm hordered
    · rw [List.take_append_drop]
      exact hcut
    · rw [List.length_take]
      omega
    · intro s hs r hr
      exact hsplit.le (by omega) hs hr

theorem splitAt_of_pairwise {cut : List Ranked} (h : cut.Pairwise fun a b => le a b = true)
    (i : Nat) : SplitAt i cut := by
  intro r hr
  obtain ⟨hi, rfl⟩ := List.getElem?_eq_some_iff.mp hr
  have hcut : cut.take i ++ cut[i] :: cut.drop (i + 1) = cut := by
    rw [← List.drop_eq_getElem_cons hi, List.take_append_drop]
  have hparts : (cut.take i ++ cut[i] :: cut.drop (i + 1)).Pairwise fun a b => le a b = true := by
    rw [hcut]
    exact h
  obtain ⟨-, hbehind, hbefore⟩ := List.pairwise_append.mp hparts
  exact ⟨fun s hs => hbefore s hs _ (List.mem_cons_self ..), (List.pairwise_cons.mp hbehind).1⟩

theorem exists_chooses (rs : List Ranked) (capacity : Nat) :
    ∃ shown, Chooses rs capacity shown := by
  have hsorted := pairwise_sorted rs
  have hperm := List.mergeSort_perm rs le
  by_cases hzero : capacity = 0
  · exact ⟨[], .nothing hzero rfl⟩
  · by_cases hfits : rs.length ≤ capacity
    · exact ⟨(rs.mergeSort le).reverse, .all (by omega) hfits ((List.reverse_perm _).trans hperm)
        (List.pairwise_reverse.mpr hsorted)⟩
    · exact ⟨((rs.mergeSort le).take capacity).reverse, .part _ (by omega) (by omega) hperm
        (splitAt_of_pairwise hsorted _) (List.reverse_perm _)
        (List.pairwise_reverse.mpr (hsorted.sublist (List.take_sublist ..)))⟩

end Ranked

/-- A sprite as it is offered to a sort. -/
def DepthPolicy.ranked (d : DepthPolicy) (c : Camera) (s : Sprite) : Ranked :=
  ⟨d.score c s.position, s.id⟩

namespace Batch

variable {b new : Batch} {sprites : List Sprite} {settings : BatchSettings} {c : Camera} {n : Nat}
  {dt : Single}

/-- The live sprites in some order, each once. -/
def Lists (b : Batch) (sprites : List Sprite) : Prop :=
  sprites.Nodup ∧ ∀ s, s ∈ sprites ↔ b.sprite? s.id = some s

theorem ids_live (hkeyed : ∀ id s, b.sprite? id = some s → s.id = id) :
    (b.live.toList.map Prod.snd).map Sprite.id = b.live.keys := by
  rw [← Std.ExtTreeMap.map_fst_toList_eq_keys, List.map_map]
  apply List.map_congr_left
  intro e he
  exact hkeyed e.1 e.2 (Std.ExtTreeMap.mem_toList_iff_getElem?_eq_some.mp he)

theorem lists_iff (hkeyed : ∀ id s, b.sprite? id = some s → s.id = id) :
    b.Lists sprites ↔ sprites.Perm (b.live.toList.map Prod.snd) := by
  have hnodup : (b.live.toList.map Prod.snd).Nodup :=
    List.Nodup.of_map Sprite.id (ids_live hkeyed ▸ Std.ExtTreeMap.nodup_keys)
  have hmem (s : Sprite) : s ∈ b.live.toList.map Prod.snd ↔ b.sprite? s.id = some s := by
    rw [List.mem_map]
    constructor
    · rintro ⟨e, he, rfl⟩
      have hlive := Std.ExtTreeMap.mem_toList_iff_getElem?_eq_some.mp he
      rw [hkeyed e.1 e.2 hlive]
      exact hlive
    · intro hs
      exact ⟨(s.id, s), Std.ExtTreeMap.mem_toList_iff_getElem?_eq_some.mpr hs, rfl⟩
  constructor
  · rintro ⟨hdistinct, h⟩
    exact (List.perm_ext_iff_of_nodup hdistinct hnodup).mpr fun s => (h s).trans (hmem s).symm
  · intro hperm
    exact ⟨hperm.nodup_iff.mpr hnodup, fun s => hperm.mem_iff.trans (hmem s)⟩

theorem visible_refresh (hkeyed : ∀ id s, b.sprite? id = some s → s.id = id)
    (h : b.Lists sprites) : (b.refresh c).visible =
      Ranked.selectVisible (sprites.map (b.settings.depth.ranked c)) b.capacity := by
  have hoffered : b.offered c = (b.live.toList.map Prod.snd).map (b.settings.depth.ranked c) := by
    rw [offered, List.map_map]
    apply List.map_congr_left
    intro e he
    have hid := hkeyed e.1 e.2 (Std.ExtTreeMap.mem_toList_iff_getElem?_eq_some.mp he)
    rw [Function.comp_apply, DepthPolicy.ranked, hid]
  have hids : ((b.offered c).map Ranked.id).Nodup :=
    b.ids_offered c ▸ Std.ExtTreeMap.nodup_keys
  show Ranked.selectVisible (b.offered c) b.capacity = _
  exact (Ranked.selectVisible_perm hids (hoffered ▸ ((lists_iff hkeyed).mp h).map _)).symm

/-- What an update that sorted left, after any operations on a new batch. -/
def SortedFor (settings : BatchSettings) (c : Camera) (new : Batch) : Prop :=
  ∃ (species : String) (b : Batch) (calls : List Call) (n : Nat) (dt : Single),
    create species settings = .ok b ∧ (calls.foldl perform b).updateTaking n c dt = (true, new)

theorem SortedFor.keyed (h : SortedFor settings c new) :
    (∀ id s, new.sprite? id = some s → s.id = id) ∧ new.settings = settings := by
  obtain ⟨species, b, calls, n, dt, hb, hnew⟩ := h
  obtain ⟨hline, hsettings⟩ := InLine.of_create hb
  obtain ⟨hrun, hkept⟩ := hline.run (calls ++ [.update n c dt])
  rw [List.foldl_append] at hrun hkept
  have hlast : [Call.update n c dt].foldl perform (calls.foldl perform b) = new :=
    congrArg Prod.snd hnew
  rw [hlast] at hrun hkept
  exact ⟨hrun.keyed, hkept.trans hsettings⟩

theorem exists_refresh (h : b.updateTaking n c dt = (true, new)) :
    ∃ x : Batch, new = x.refresh c := by
  rw [updateTaking] at h
  obtain hsort | ⟨-, hidle⟩ | ⟨-, hpatch⟩ := advance_cases _ _ c dt
  · exact ⟨_, (congrArg Prod.snd (hsort.symm.trans h)).symm⟩
  · cases congrArg Prod.fst (hidle.symm.trans h)
  · cases congrArg Prod.fst (hpatch.symm.trans h)

theorem SortedFor.visible (h : SortedFor settings c new) (hsprites : new.Lists sprites) :
    new.visible =
      Ranked.selectVisible (sprites.map (settings.depth.ranked c)) settings.capacity := by
  obtain ⟨hkeyed, rfl⟩ := h.keyed
  obtain ⟨species, b, calls, n, dt, -, hnew⟩ := h
  -- a sort does not touch the live sprites, so they are listed before it as after it
  obtain ⟨x, rfl⟩ := exists_refresh hnew
  exact visible_refresh hkeyed hsprites

end Batch

/-- Selection is exact and does not depend on the order of the list. The chosen ones are the nearest
that fit, the farthest first; nothing else is that; every order of the list leads to them, by a full
sort as well as by any partial selection and sort. The visible sprites after an update that sorted
are therefore a matter of the live sprites, the camera and the settings alone. -/
theorem selection_is_exact :
    (∀ rs : List Ranked, (rs.map Ranked.id).Nodup → ∀ capacity, ∃ chosen,
      Ranked.Selects rs capacity chosen ∧
      (∀ other, Ranked.Selects rs capacity other → other = chosen) ∧
      (chosen.map Ranked.id).Nodup ∧
      ∀ rs' : List Ranked, rs'.Perm rs →
        Ranked.selectVisible rs' capacity = chosen.map Ranked.id ∧
        (∃ shown, Ranked.Chooses rs' capacity shown) ∧
        ∀ shown, Ranked.Chooses rs' capacity shown → shown = chosen) ∧
    ∀ settings c new, Batch.SortedFor settings c new →
      (∃ sprites, new.Lists sprites) ∧
      (∀ sprites, new.Lists sprites → new.visible =
        Ranked.selectVisible (sprites.map (settings.depth.ranked c)) settings.capacity) ∧
      ∀ settings' new', Batch.SortedFor settings' c new' →
        settings'.capacity = settings.capacity → settings'.depth = settings.depth →
        (∀ id, new'.sprite? id = new.sprite? id) → new'.visible = new.visible := by
  constructor
  · intro rs hids capacity
    obtain ⟨chosen, h, heq⟩ := Ranked.exists_selects hids capacity
    refine ⟨chosen, h, fun other hother => hother.unique h, ?_, fun rs' hperm => ⟨?_, ?_, ?_⟩⟩
    · exact heq ▸ Ranked.nodup_selectVisible capacity hids
    · rw [Ranked.selectVisible_perm hids hperm, heq]
    · exact Ranked.exists_chooses rs' capacity
    · intro shown hshown
      have hids' : (rs'.map Ranked.id).Nodup := (hperm.map _).nodup_iff.mpr hids
      exact (hshown.selects hids').unique (h.perm hperm)
  · intro settings c new h
    obtain ⟨hkeyed, -⟩ := h.keyed
    have hlisted : new.Lists (new.live.toList.map Prod.snd) :=
      (Batch.lists_iff hkeyed).mpr (.refl _)
    refine ⟨⟨_, hlisted⟩, fun sprites hsprites => h.visible hsprites, ?_⟩
    intro settings' new' h' hcapacity hdepth hlive
    have hlisted' : new'.Lists (new.live.toList.map Prod.snd) :=
      ⟨hlisted.1, fun s => by rw [hlive, hlisted.2]⟩
    rw [h.visible hlisted, h'.visible hlisted', hcapacity, hdepth]

/-- Scores that comparing as numbers does not order, with a tie where the list is cut. -/
def unruly : List Ranked :=
  [⟨.nan, 1⟩, ⟨-.zero, 2⟩, ⟨.zero, 3⟩, ⟨.invalid, 4⟩, ⟨.infinity, 5⟩, ⟨.zero, 0⟩, ⟨-.infinity, 6⟩]

/-- Two sprites at one place, with the same score from any camera. -/
def twins : List Batch.Call :=
  [.add ⟨7, .standingAt .zero, .ones⟩, .add ⟨3, .standingAt .zero, .ones⟩]

theorem selection_is_exact_unruly :
    (unruly.map Ranked.id).Nodup ∧ Ranked.selectVisible unruly 4 = [0, 2, 6, 4] ∧
    Ranked.selectVisible unruly.reverse 4 = [0, 2, 6, 4] ∧
    ∃ new, Batch.SortedFor { capacity := 1 } .standard new ∧ new.visible = [3] := by
  have hids : (unruly.map Ranked.id).Nodup := by decide
  obtain ⟨chosen, -, hunique, -, hchosen⟩ := selection_is_exact.1 unruly hids 4
  have hselects : Ranked.Selects unruly 4
      [⟨.zero, 0⟩, ⟨-.zero, 2⟩, ⟨-.infinity, 6⟩, ⟨.invalid, 4⟩] :=
    ⟨by decide, by decide, by decide, by decide⟩
  obtain rfl := hunique _ hselects
  refine ⟨hids, (hchosen _ (.refl _)).1, (hchosen _ (List.reverse_perm _)).1, ?_⟩
  obtain ⟨b, hb⟩ : ∃ b, Batch.create "tree" { capacity := 1 } = .ok b := ⟨_, rfl⟩
  obtain ⟨hsorted, hlive⟩ :
      ((twins.foldl Batch.perform b).updateTaking 2 .standard .zero).1 = true ∧
      ((twins.foldl Batch.perform b).updateTaking 2 .standard .zero).2.live.toList.map Prod.snd =
        [⟨3, .standingAt .zero, .ones⟩, ⟨7, .standingAt .zero, .ones⟩] := by
    obtain rfl := Except.ok.inj hb
    decide +kernel
  have hnew : Batch.SortedFor { capacity := 1 } .standard
      ((twins.foldl Batch.perform b).updateTaking 2 .standard .zero).2 :=
    ⟨"tree", b, twins, 2, .zero, hb, Prod.ext hsorted rfl⟩
  obtain ⟨-, hvisible, -⟩ := selection_is_exact.2 _ _ _ hnew
  have hnearest : Ranked.Selects ([⟨3, .standingAt .zero, .ones⟩, ⟨7, .standingAt .zero, .ones⟩].map
      (DepthPolicy.ranked {} .standard)) 1 [⟨.zero, 3⟩] :=
    ⟨by decide +kernel, by decide +kernel, by decide +kernel, by decide +kernel⟩
  refine ⟨_, hnew, ?_⟩
  rw [hvisible _ ((Batch.lists_iff hnew.keyed.1).mpr (.of_eq hlive.symm))]
  exact Ranked.selectVisible_eq hnearest (by decide +kernel)

end VoxelScene
