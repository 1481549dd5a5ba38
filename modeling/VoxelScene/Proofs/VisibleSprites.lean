import VoxelScene.Proofs.LiveSprites

/-!
Visible sprites.

A batch keeps three things in line: the live sprites, the list of visible ids and the packed sprites.
They change on different paths: a sort chooses the visible ids anew, an update without one patches the
list, and changes that only wait in the queue touch none of the three. After every operation the
visible ids are distinct, live and no more than fit, and what is packed is the visible sprites as they
are now. A sort leaves nothing out that fits.
-/

namespace VoxelScene

/-! ### Choosing -/

namespace Ranked

theorem length_selectVisible (rs : List Ranked) (capacity : Nat) :
    (selectVisible rs capacity).length = min rs.length capacity := by
  have hsorted : (rs.mergeSort le).length = rs.length := List.length_mergeSort rs
  simp only [selectVisible, List.length_reverse, List.length_map, List.length_take, hsorted]
  omega

theorem mem_of_selectVisible {rs : List Ranked} {capacity id : Nat}
    (h : id ∈ selectVisible rs capacity) : id ∈ rs.map Ranked.id := by
  rw [selectVisible, List.mem_reverse, List.mem_map] at h
  obtain ⟨r, hr, rfl⟩ := h
  have hsorted : r ∈ rs.mergeSort le := List.mem_of_mem_take hr
  exact List.mem_map_of_mem (List.mem_mergeSort.mp hsorted)

theorem nodup_selectVisible {rs : List Ranked} (capacity : Nat) (h : (rs.map Ranked.id).Nodup) :
    (selectVisible rs capacity).Nodup := by
  have hsorted : ((rs.mergeSort le).map Ranked.id).Nodup :=
    ((List.mergeSort_perm rs le).map Ranked.id).nodup_iff.mpr h
  rw [selectVisible, List.nodup_reverse]
  exact hsorted.sublist ((List.take_sublist capacity _).map Ranked.id)

end Ranked

namespace Batch

variable {b : Batch}

theorem joinShown_keeps {capacity : Nat} (isLive : Nat → Bool) {shown : List Nat} (added : List Nat)
    (hnodup : shown.Nodup) (hfits : shown.length ≤ capacity)
    (hlive : ∀ id ∈ shown, isLive id = true) :
    (joinShown capacity isLive shown added).Nodup ∧
      (joinShown capacity isLive shown added).length ≤ capacity ∧
      ∀ id ∈ joinShown capacity isLive shown added, isLive id = true := by
  induction added generalizing shown with
  | nil => exact ⟨hnodup, hfits, hlive⟩
  | cons id rest ih =>
    rw [joinShown]
    by_cases hfull : capacity ≤ shown.length
    · rw [if_pos hfull]
      exact ⟨hnodup, hfits, hlive⟩
    · rw [if_neg hfull]
      by_cases hjoin : (isLive id && !shown.contains id) = true
      · rw [if_pos hjoin]
        obtain ⟨hid, hnew⟩ : isLive id = true ∧ id ∉ shown := by simpa using hjoin
        have hnodup' : (shown ++ [id]).Nodup := by
          rw [List.nodup_append]
          refine ⟨hnodup, List.nodup_singleton id, fun k hk j hj => ?_⟩
          obtain rfl := List.mem_singleton.mp hj
          intro heq
          exact hnew (heq ▸ hk)
        have hfits' : (shown ++ [id]).length ≤ capacity := by
          rw [List.length_append, List.length_singleton]
          omega
        have hlive' : ∀ k ∈ shown ++ [id], isLive k = true := by
          intro k hk
          rcases List.mem_append.mp hk with hk | hk
          · exact hlive k hk
          · rw [List.mem_singleton.mp hk]
            exact hid
        exact ih hnodup' hfits' hlive'
      · rw [if_neg hjoin]
        exact ih hnodup hfits hlive

/-- What a sort chooses from. -/
def offered (b : Batch) (c : Camera) : List Ranked :=
  b.live.toList.map fun e => ⟨b.settings.depth.score c e.2.position, e.1⟩

theorem ids_offered (b : Batch) (c : Camera) : (b.offered c).map Ranked.id = b.live.keys := by
  rw [offered, List.map_map, ← Std.ExtTreeMap.map_fst_toList_eq_keys]
  rfl

/-! ### Packing -/

theorem map_some_packed_repack (hlive : ∀ id ∈ b.visible, b.isLive id = true) :
    b.repack.packed.map some = b.visible.map fun id => (b.sprite? id).map Sprite.pack := by
  have hall (ids : List Nat) (h : ∀ id ∈ ids, b.isLive id = true) :
      (ids.filterMap fun id => (b.sprite? id).map Sprite.pack).map some =
        ids.map fun id => (b.sprite? id).map Sprite.pack := by
    induction ids with
    | nil => rfl
    | cons id ids ih =>
      obtain ⟨s, hs⟩ := Option.isSome_iff_exists.mp (h id (List.mem_cons_self ..))
      have hrest := ih fun k hk => h k (List.mem_cons_of_mem _ hk)
      simp [hs, hrest]
  exact hall b.visible hlive

/-! ### What every operation keeps -/

/-- The live sprites, the visible ids and the packed sprites agree. -/
structure InLine (b : Batch) : Prop where
  keyed : ∀ id s, b.sprite? id = some s → s.id = id
  distinct : b.visible.Nodup
  fits : b.visible.length ≤ b.capacity
  live : ∀ id ∈ b.visible, b.isLive id = true
  packed : b.packed.map some = b.visible.map fun id => (b.sprite? id).map Sprite.pack

namespace InLine

theorem of_create {species : String} {settings : BatchSettings}
    (h : create species settings = .ok b) : b.InLine ∧ b.settings = settings := by
  obtain rfl := eq_of_create h
  refine ⟨⟨fun id s hs => ?_, List.nodup_nil, Nat.zero_le _, fun id hid => ?_, rfl⟩, rfl⟩
  · simp [sprite?] at hs
  · cases hid

theorem of_repack (hkeyed : ∀ id s, b.sprite? id = some s → s.id = id) (hnodup : b.visible.Nodup)
    (hfits : b.visible.length ≤ b.capacity) (hlive : ∀ id ∈ b.visible, b.isLive id = true) :
    b.repack.InLine :=
  ⟨hkeyed, hnodup, hfits, hlive, map_some_packed_repack hlive⟩

theorem keyed_apply (h : b.InLine) (cs : List Command) {id : Nat} {s : Sprite}
    (hs : (b.apply cs).sprite? id = some s) : s.id = id := by
  rw [sprite?_apply] at hs
  split at hs
  · cases hs
  · rcases Option.or_eq_some_iff.mp hs with hs | ⟨-, hs⟩
    · simpa using List.find?_some hs
    · exact h.keyed id s hs

theorem refresh (hkeyed : ∀ id s, b.sprite? id = some s → s.id = id) (c : Camera) :
    (b.refresh c).InLine := by
  have hids := b.ids_offered c
  refine of_repack hkeyed ?_ ?_ fun id hid => ?_
  · exact Ranked.nodup_selectVisible b.capacity (hids ▸ Std.ExtTreeMap.nodup_keys)
  · have hlength := Ranked.length_selectVisible (b.offered c) b.capacity
    show (Ranked.selectVisible (b.offered c) b.capacity).length ≤ b.capacity
    omega
  · have hkey : id ∈ (b.offered c).map Ranked.id := Ranked.mem_of_selectVisible hid
    rw [hids, Std.ExtTreeMap.mem_keys] at hkey
    exact Std.ExtTreeMap.isSome_getElem?_iff_mem.mpr hkey

theorem patch (hkeyed : ∀ id s, b.sprite? id = some s → s.id = id) (hnodup : b.visible.Nodup)
    (hfits : b.visible.length ≤ b.capacity) (added : List Nat) : (b.patch added).InLine := by
  have hkept : (b.visible.filter b.isLive).length ≤ b.visible.length := List.length_filter_le ..
  obtain ⟨hnodup', hfits', hlive'⟩ := joinShown_keeps b.isLive added
    (hnodup.filter b.isLive) (Nat.le_trans hkept hfits) fun id hid => (List.mem_filter.mp hid).2
  exact of_repack hkeyed hnodup' hfits' hlive'

theorem advance (h : b.InLine) (taken : List Command) (c : Camera) (dt : Single) :
    (b.advance taken c dt).2.InLine := by
  have hkeyed (timer : Single) (id : Nat) (s : Sprite)
      (hs : ({ b.apply taken with timer := timer } : Batch).sprite? id = some s) : s.id = id :=
    h.keyed_apply taken hs
  obtain hsort | ⟨-, hidle⟩ | ⟨-, hpatch⟩ := b.advance_cases taken c dt
  · rw [hsort]
    exact refresh (hkeyed _) c
  · rw [hidle]
    exact ⟨h.keyed, h.distinct, h.fits, h.live, h.packed⟩
  · rw [hpatch]
    exact patch (hkeyed _) h.distinct h.fits _

/-- A change that waits in the queue leaves what is live, visible and packed. -/
theorem queued (h : b.InLine) (feed : Feed) : InLine { b with feed := feed } :=
  ⟨h.keyed, h.distinct, h.fits, h.live, h.packed⟩

end InLine

theorem length_visible_refresh (b : Batch) (c : Camera) :
    (b.refresh c).visible.length = min b.live.size b.capacity := by
  have hoffered : (b.offered c).length = b.live.size := by
    rw [offered, List.length_map, Std.ExtTreeMap.length_toList]
  show (Ranked.selectVisible (b.offered c) b.capacity).length = _
  rw [Ranked.length_selectVisible, hoffered]

theorem length_visible_advance {taken : List Command} {c : Camera} {dt : Single}
    (h : (b.advance taken c dt).1 = true) : (b.advance taken c dt).2.visible.length =
      min (b.advance taken c dt).2.live.size b.capacity := by
  obtain hsort | ⟨-, hidle⟩ | ⟨-, hpatch⟩ := b.advance_cases taken c dt
  · rw [hsort]
    exact length_visible_refresh ..
  · rw [hidle] at h
    cases h
  · rw [hpatch] at h
    cases h

/-! ### Runs -/

/-- The operations of a batch. An update takes the first `n` changes in the queue. -/
inductive Call where
  | spawn (placement : Placement) (tint : Vec4)
  | add (s : Sprite)
  | remove (id : Nat)
  | update (n : Nat) (c : Camera) (dt : Single)
  | refresh (c : Camera)

def perform (b : Batch) : Call → Batch
  | .spawn placement tint => { b with feed := (b.feed.spawn placement tint).2 }
  | .add s => { b with feed := b.feed.send (.add s) }
  | .remove id => { b with feed := b.feed.send (.remove id) }
  | .update n c dt => (b.updateTaking n c dt).2
  | .refresh c => b.refresh c

theorem InLine.perform (h : b.InLine) (call : Call) :
    (b.perform call).InLine ∧ (b.perform call).settings = b.settings := by
  cases call with
  | spawn placement tint => exact ⟨h.queued _, rfl⟩
  | add s => exact ⟨h.queued _, rfl⟩
  | remove id => exact ⟨h.queued _, rfl⟩
  | update n c dt => exact ⟨(h.queued _).advance _ c dt, (advance_keeps ..).2.2⟩
  | refresh c => exact ⟨.refresh h.keyed c, rfl⟩

theorem InLine.run (h : b.InLine) (calls : List Call) :
    (calls.foldl Batch.perform b).InLine ∧
      (calls.foldl Batch.perform b).settings = b.settings := by
  induction calls generalizing b with
  | nil => exact ⟨h, rfl⟩
  | cons call calls ih =>
    obtain ⟨hstep, hsettings⟩ := h.perform call
    obtain ⟨hrest, hsettings'⟩ := ih hstep
    exact ⟨hrest, hsettings'.trans hsettings⟩

/-- After any operations, with ids chosen by the caller and any passage of time: the visible ids are
distinct, live and no more than fit, and what is packed is the visible sprites as they are, in the
same order. After a sort or a refresh as many are visible as are live and fit. -/
theorem visible_and_packed_in_line {species : String} {settings : BatchSettings} {b : Batch}
    (hb : create species settings = .ok b) (calls : List Call) :
    (calls.foldl perform b).InLine ∧ (calls.foldl perform b).capacity = settings.capacity ∧
    (∀ c, ((calls.foldl perform b).refresh c).visible.length =
      min ((calls.foldl perform b).refresh c).live.size settings.capacity) ∧
    ∀ n c dt, ((calls.foldl perform b).updateTaking n c dt).1 = true →
      ((calls.foldl perform b).updateTaking n c dt).2.visible.length =
        min ((calls.foldl perform b).updateTaking n c dt).2.live.size settings.capacity := by
  obtain ⟨hline, rfl⟩ := InLine.of_create hb
  obtain ⟨hrun, hsettings⟩ := hline.run calls
  have hcapacity : (calls.foldl perform b).capacity = b.settings.capacity := by
    rw [capacity, hsettings]
  refine ⟨hrun, hcapacity, fun c => ?_, fun n c dt hsorted => ?_⟩
  · rw [length_visible_refresh, hcapacity]
    rfl
  · rw [← hcapacity]
    exact length_visible_advance hsorted

/-- Two sprites under ids of the caller's choice, one of them added twice. -/
def crowding : List Call :=
  [.add ⟨7, .standingAt .zero, .ones⟩, .add ⟨3, .standingAt .zero, .ones⟩,
    .add ⟨7, .scaledAt .half .zero, .ones⟩]

/-- Two sprites where there is room for one, and an update after no time that a number tells. -/
theorem visible_and_packed_in_line_crowded :
    ∃ b, create "tree" { capacity := 1 } = .ok b ∧
      ((crowding.foldl perform b).updateTaking 3 .standard .nan).1 = true ∧
      ((crowding.foldl perform b).updateTaking 3 .standard .nan).2.live.size = 2 ∧
      ((crowding.foldl perform b).updateTaking 3 .standard .nan).2.visible.length = 1 := by
  obtain ⟨b, hb⟩ : ∃ b, create "tree" { capacity := 1 } = .ok b := ⟨_, rfl⟩
  obtain ⟨hsorted, hlive⟩ :
      ((crowding.foldl perform b).updateTaking 3 .standard .nan).1 = true ∧
      ((crowding.foldl perform b).updateTaking 3 .standard .nan).2.live.size = 2 := by
    obtain rfl := Except.ok.inj hb
    decide +kernel
  obtain ⟨-, -, -, hcount⟩ := visible_and_packed_in_line hb crowding
  refine ⟨b, hb, hsorted, hlive, ?_⟩
  rw [hcount 3 .standard .nan hsorted, hlive]
  rfl

end Batch

end VoxelScene
