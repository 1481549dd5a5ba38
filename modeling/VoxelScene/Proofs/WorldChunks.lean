import VoxelScene.Proofs.Lattice
import VoxelScene.Proofs.Storage
import VoxelScene.World.Ramp

/-!
What the operations of a world do to its chunks.

Every operation is a change at one chunk, followed by asking for other chunks anew: a chunk that
is asked for gets dirty bits and a higher version, and keeps its cells. The lemmas of the last
section give each operation in this form, so that later proofs look at a change and at a list of
chunks asked for.
-/

namespace VoxelScene

/-! ### Marks -/

namespace Chunk

/-- The two dirty bits are set, kept and cleared independently of each other. -/
theorem dirty_bits (b : UInt8) :
    ((b ||| (meshDirty ||| rampDirty)) &&& meshDirty = meshDirty ∧
      (b ||| (meshDirty ||| rampDirty)) &&& rampDirty = rampDirty) ∧
    ((b ||| meshDirty) &&& meshDirty = meshDirty ∧
      (b ||| meshDirty) &&& rampDirty = b &&& rampDirty) ∧
    ((b &&& ~~~ rampDirty) &&& meshDirty = b &&& meshDirty ∧
      (b &&& ~~~ rampDirty) &&& rampDirty = 0) ∧
    ((b &&& ~~~ meshDirty) &&& meshDirty = 0 ∧
      (b &&& ~~~ meshDirty) &&& rampDirty = b &&& rampDirty) := by
  obtain ⟨b⟩ := b
  revert b
  decide

/-- The chunk after it was asked for `n` times with the same dirty bits. Asking once with both bits is
`touch`, and asking once for a mesh is `invalidateMesh`. -/
def bump (flags : UInt8) (n : Nat) (c : Chunk) : Chunk :=
  if n = 0 then c else { c.markDirty flags with version := c.version + n }

variable (c : Chunk) (flags : UInt8) (n : Nat)

@[simp] theorem bump_zero : c.bump flags 0 = c := rfl

theorem bump_bump (m : Nat) : (c.bump flags m).bump flags n = c.bump flags (m + n) := by
  by_cases hm : m = 0
  · simp [hm]
  · by_cases hn : n = 0
    · simp [hn]
    · have hmn : m + n ≠ 0 := by omega
      simp only [bump, hm, hn, hmn, ite_false, markDirty, UInt8.or_assoc, UInt8.or_self,
        Nat.add_assoc]

@[simp] theorem grid_bump : (c.bump flags n).grid = c.grid := by
  unfold bump
  split <;> rfl

@[simp] theorem generation_bump : (c.bump flags n).generation = c.generation := by
  unfold bump
  split <;> rfl

@[simp] theorem version_bump : (c.bump flags n).version = c.version + n := by
  unfold bump
  split
  · omega
  · rfl

/-- Dirty bits with which chunks are asked for: the mesh always, the ramp masks or not. -/
def IsMark (flags : UInt8) : Prop := flags = meshDirty ||| rampDirty ∨ flags = meshDirty

theorem meshDirty_bump {flags : UInt8} (hf : IsMark flags) (hn : n ≠ 0) :
    (c.bump flags n).isDirty meshDirty = true := by
  have hbits := dirty_bits c.dirty
  simp only [bump, hn, ite_false, isDirty, markDirty, beq_iff_eq]
  rcases hf with rfl | rfl
  · exact hbits.1.1
  · exact hbits.2.1.1

theorem rampDirty_bump_all (hn : n ≠ 0) :
    (c.bump (meshDirty ||| rampDirty) n).isDirty rampDirty = true := by
  simp only [bump, hn, ite_false, isDirty, markDirty, beq_iff_eq]
  exact (dirty_bits c.dirty).1.2

theorem rampDirty_bump_mesh : (c.bump meshDirty n).isDirty rampDirty = c.isDirty rampDirty := by
  unfold bump
  split
  · rfl
  · simp only [isDirty, markDirty, (dirty_bits c.dirty).2.1.2]

@[simp] theorem meshDirty_clear_ramp :
    (c.clearDirty rampDirty).isDirty meshDirty = c.isDirty meshDirty := by
  simp only [isDirty, clearDirty, (dirty_bits c.dirty).2.2.1.1]

@[simp] theorem rampDirty_clear_ramp : (c.clearDirty rampDirty).isDirty rampDirty = false := by
  simp only [isDirty, clearDirty, (dirty_bits c.dirty).2.2.1.2]
  rfl

@[simp] theorem rampDirty_clear_mesh :
    (c.clearDirty meshDirty).isDirty rampDirty = c.isDirty rampDirty := by
  simp only [isDirty, clearDirty, (dirty_bits c.dirty).2.2.2.2]

/-- `c'` is the same load of a chunk as `c`, at the same time or later: a higher version asks for
a new mesh, and an equal version means that no cell of the chunk changed. -/
structure Later (c c' : Chunk) : Prop where
  dims : c'.grid.dims = c.grid.dims
  generation : c'.generation = c.generation
  version : c.version ≤ c'.version
  marked : c.version < c'.version → c'.isDirty meshDirty = true
  kept : c'.version = c.version → c'.grid = c.grid ∧ c'.isDirty meshDirty = c.isDirty meshDirty

theorem Later.refl : c.Later c where
  dims := rfl
  generation := rfl
  version := Nat.le_refl _
  marked h := absurd h (Nat.lt_irrefl _)
  kept _ := ⟨rfl, rfl⟩

variable {c}

theorem Later.trans {c' c'' : Chunk} (h : c.Later c') (h' : c'.Later c'') : c.Later c'' where
  dims := h'.dims.trans h.dims
  generation := h'.generation.trans h.generation
  version := Nat.le_trans h.version h'.version
  marked hlt := by
    have hle := h'.version
    by_cases heq : c''.version = c'.version
    · rw [(h'.kept heq).2]
      exact h.marked (by omega)
    · exact h'.marked (by omega)
  kept heq := by
    have hle := h.version
    have hle' := h'.version
    obtain ⟨hgrid, hmark⟩ := h.kept (by omega)
    obtain ⟨hgrid', hmark'⟩ := h'.kept (by omega)
    exact ⟨hgrid'.trans hgrid, hmark'.trans hmark⟩

theorem Later.of_bump {flags : UInt8} (hf : IsMark flags) (n : Nat) : c.Later (c.bump flags n) where
  dims := by rw [grid_bump]
  generation := c.generation_bump flags n
  version := by rw [version_bump]; omega
  marked hlt := by
    rw [version_bump] at hlt
    exact c.meshDirty_bump n hf (by omega)
  kept heq := by
    rw [version_bump] at heq
    obtain rfl : n = 0 := by omega
    exact ⟨rfl, rfl⟩

/-- `c'` is `c` after a write that asks with these dirty bits; a write outside the box does
nothing. -/
def Written (flags : UInt8) (c c' : Chunk) : Prop :=
  c' = c ∨ ∃ g : Grid, g.dims = c.grid.dims ∧ c' = ({ c with grid := g } : Chunk).bump flags 1

theorem written_setVoxel (c : Chunk) (l : Local) (v : Voxel) :
    Written (meshDirty ||| rampDirty) c ((c.setVoxel? l v).getD c) := by
  unfold setVoxel? Grid.setVoxel?
  split
  · exact .inr ⟨_, c.grid.dims_setVoxel l v, rfl⟩
  · exact .inl rfl

theorem written_setLiquid (c : Chunk) (l : Local) (x : LiquidCell) :
    Written meshDirty c ((c.setLiquid? l x).getD c) := by
  unfold setLiquid? Grid.setLiquid?
  split
  · exact .inr ⟨_, c.grid.dims_setLiquid l x, rfl⟩
  · exact .inl rfl

namespace Written

variable {flags : UInt8} {c' : Chunk}

theorem later (hf : IsMark flags) (h : Written flags c c') : c.Later c' := by
  rcases h with rfl | ⟨g, hg, rfl⟩
  · exact .refl _
  · refine ⟨by rw [grid_bump]; exact hg, generation_bump .., ?_, ?_, ?_⟩
    · rw [version_bump]
      exact Nat.le_succ _
    · exact fun _ => meshDirty_bump _ 1 hf (by omega)
    · intro heq
      rw [version_bump] at heq
      exact absurd heq (Nat.succ_ne_self _)

theorem marked (hf : IsMark flags) (h : Written flags c c')
    (hc : c.isDirty rampDirty = true → c.isDirty meshDirty = true) :
    c'.isDirty rampDirty = true → c'.isDirty meshDirty = true := by
  rcases h with rfl | ⟨g, -, rfl⟩
  · exact hc
  · exact fun _ => meshDirty_bump _ 1 hf (by omega)

theorem eq_of_clean (h : Written (meshDirty ||| rampDirty) c c')
    (hclean : c'.isDirty rampDirty = false) : c' = c := by
  rcases h with rfl | ⟨g, -, rfl⟩
  · rfl
  · rw [rampDirty_bump_all _ 1 (by omega)] at hclean
    cases hclean

theorem rampDirty_eq (h : Written meshDirty c c') : c'.isDirty rampDirty = c.isDirty rampDirty := by
  rcases h with rfl | ⟨g, -, rfl⟩
  · rfl
  · exact rampDirty_bump_mesh _ 1

end Written

theorem Later.of_clear_ramp : c.Later (c.clearDirty rampDirty) where
  dims := rfl
  generation := rfl
  version := Nat.le_refl _
  marked h := absurd h (Nat.lt_irrefl _)
  kept _ := ⟨rfl, meshDirty_clear_ramp c⟩

theorem Later.of_applyRamps (masks : Array RampMask) : c.Later (c.applyRamps masks).2 := by
  unfold applyRamps
  dsimp only
  split
  · exact .of_clear_ramp
  · have hwrite : Written meshDirty c
        ({ c with grid := c.grid.withRamps masks } : Chunk).invalidateMesh :=
      .inr ⟨c.grid.withRamps masks, rfl, rfl⟩
    exact (hwrite.later (.inr rfl)).trans .of_clear_ramp

theorem rampDirty_applyRamps (masks : Array RampMask) :
    (c.applyRamps masks).2.isDirty rampDirty = false :=
  rampDirty_clear_ramp _

/-- The chunk after it was asked for `n` times with both dirty bits, and then `m` times for a
mesh. -/
def asked (n m : Nat) (c : Chunk) : Chunk := (c.bump (meshDirty ||| rampDirty) n).bump meshDirty m

variable {n} {m : Nat}

@[simp] theorem grid_asked : (c.asked n m).grid = c.grid := by
  rw [asked, grid_bump, grid_bump]

@[simp] theorem version_asked : (c.asked n m).version = c.version + n + m := by
  rw [asked, version_bump, version_bump]

theorem Later.of_asked : c.Later (c.asked n m) :=
  (Later.of_bump (.inl rfl) n).trans (.of_bump (.inr rfl) m)

theorem marked_asked (h : c.isDirty rampDirty = true → c.isDirty meshDirty = true) :
    (c.asked n m).isDirty rampDirty = true → (c.asked n m).isDirty meshDirty = true := by
  intro hramp
  have hlater := Later.of_asked (c := c) (n := n) (m := m)
  by_cases heq : (c.asked n m).version = c.version
  · rw [version_asked] at heq
    obtain ⟨rfl, rfl⟩ : n = 0 ∧ m = 0 := by omega
    exact h hramp
  · have hle := hlater.version
    exact hlater.marked (by omega)

theorem rampDirty_asked_zero : (c.asked 0 m).isDirty rampDirty = c.isDirty rampDirty :=
  rampDirty_bump_mesh c m

theorem rampDirty_asked (h : (c.asked n m).isDirty rampDirty = false) :
    n = 0 ∧ c.isDirty rampDirty = false := by
  rw [asked, rampDirty_bump_mesh] at h
  by_cases hn : n = 0
  · subst hn
    exact ⟨rfl, h⟩
  · rw [rampDirty_bump_all c n hn] at h
    cases h

end Chunk

namespace World

/-! ### Looking up chunks -/

theorem chunk?_modifyChunk (w : World) (a b : Address) (f : Chunk → Chunk) :
    (w.modifyChunk a f).chunk? b = if a = b then (w.chunk? b).map f else w.chunk? b := by
  simp only [modifyChunk, chunk?, Std.ExtTreeMap.getElem?_modify,
    Std.LawfulEqOrd.compare_eq_iff_eq]
  split
  · rename_i h
    rw [h]
  · rfl

theorem ext_chunk? {w w' : World} (hdims : w.dims = w'.dims)
    (hnext : w.nextGeneration = w'.nextGeneration) (h : ∀ a, w.chunk? a = w'.chunk? a) :
    w = w' := by
  obtain ⟨d, chunks, next⟩ := w
  obtain ⟨d', chunks', next'⟩ := w'
  obtain rfl : chunks = chunks' := Std.ExtTreeMap.ext_getElem? fun {a} => h a
  simp only at hdims hnext
  rw [hdims, hnext]

/-- The world with the mesh mark of one chunk taken off. -/
def unmark (w : World) (a : Address) : World := w.modifyChunk a fun c => c.clearDirty meshDirty

theorem mem_dirtyAddresses {w : World} {flags : UInt8} {a : Address} :
    a ∈ w.dirtyAddresses flags ↔ ∃ c, w.chunk? a = some c ∧ c.isDirty flags = true := by
  simp only [dirtyAddresses, List.mem_map, List.mem_filter]
  constructor
  · rintro ⟨⟨a, c⟩, ⟨hmem, hdirty⟩, rfl⟩
    exact ⟨c, Std.ExtTreeMap.mem_toList_iff_getElem?_eq_some.mp hmem, hdirty⟩
  · rintro ⟨c, hc, hdirty⟩
    exact ⟨(a, c), ⟨Std.ExtTreeMap.mem_toList_iff_getElem?_eq_some.mpr hc, hdirty⟩, rfl⟩

/-- Asks for each loaded one among the listed chunks, once for every time it is listed. -/
def bumpAll (w : World) (flags : UInt8) (as : List Address) : World :=
  as.foldl (fun w a => w.modifyChunk a (Chunk.bump flags 1)) w

variable (w : World) (flags : UInt8) (as : List Address)

theorem chunk?_bumpAll (b : Address) :
    (w.bumpAll flags as).chunk? b = (w.chunk? b).map (Chunk.bump flags (as.count b)) := by
  induction as generalizing w with
  | nil =>
    cases h : w.chunk? b with
    | none => exact h
    | some c => exact h
  | cons a as ih =>
    have hstep : w.bumpAll flags (a :: as) =
        (w.modifyChunk a (Chunk.bump flags 1)).bumpAll flags as := rfl
    rw [hstep, ih, chunk?_modifyChunk, List.count_cons]
    by_cases hab : a = b
    · have hone : (if (a == b) = true then 1 else 0) = 1 := by simp [hab]
      rw [if_pos hab, hone, Option.map_map]
      congr 1
      funext c
      rw [Function.comp_apply, Chunk.bump_bump, Nat.add_comm]
    · have hnone : (if (a == b) = true then 1 else 0) = 0 := by simp [hab]
      rw [if_neg hab, hnone, Nat.add_zero]

@[simp] theorem dims_bumpAll : (w.bumpAll flags as).dims = w.dims := by
  induction as generalizing w with
  | nil => rfl
  | cons a as ih => exact ih _

@[simp] theorem nextGeneration_bumpAll :
    (w.bumpAll flags as).nextGeneration = w.nextGeneration := by
  induction as generalizing w with
  | nil => rfl
  | cons a as ih => exact ih _

/-- The world with a chunk put in under the next generation, before its neighbours are asked for.
-/
def entered (a : Address) (c : Chunk) : World :=
  ⟨w.dims, w.chunks.insert a (c.enter w.nextGeneration), w.nextGeneration + 1⟩

def left (a : Address) : World := { w with chunks := w.chunks.erase a }

theorem chunk?_entered (a b : Address) (c : Chunk) : (w.entered a c).chunk? b =
    if a = b then some (c.enter w.nextGeneration) else w.chunk? b := by
  simp only [entered, chunk?, Std.ExtTreeMap.getElem?_insert, Std.LawfulEqOrd.compare_eq_iff_eq]

theorem chunk?_left (a b : Address) :
    (w.left a).chunk? b = if a = b then none else w.chunk? b := by
  simp only [left, chunk?, Std.ExtTreeMap.getElem?_erase, Std.LawfulEqOrd.compare_eq_iff_eq]

/-! ### Operations -/

/-- `w'` is `w` with `own` in place of the chunk at `b`, after which the `touched` chunks were
asked for with both dirty bits, and the `invalidated` ones for a mesh. -/
structure Changes (w w' : World) (b : Address) (own : Option Chunk)
    (touched invalidated : List Address) : Prop where
  dims : w'.dims = w.dims
  chunk : ∀ a, w'.chunk? a = (if b = a then own else w.chunk? a).map
    (Chunk.asked (touched.count a) (invalidated.count a))

theorem Changes.of_bumpAll {w w' : World} {b : Address} {own : Option Chunk}
    {touched invalidated : List Address} (w₁ : World) (hdims : w₁.dims = w.dims)
    (h : ∀ a, w₁.chunk? a = if b = a then own else w.chunk? a)
    (hw' : (w₁.bumpAll (meshDirty ||| rampDirty) touched).bumpAll meshDirty invalidated = w') :
    Changes w w' b own touched invalidated where
  dims := by rw [← hw', dims_bumpAll, dims_bumpAll, hdims]
  chunk a := by
    rw [← hw', chunk?_bumpAll, chunk?_bumpAll, h, Option.map_map]
    rfl

theorem Changes.of_modify {w w' : World} {b : Address} {c : Chunk}
    {touched invalidated : List Address} (f : Chunk → Chunk) (hc : w.chunk? b = some c)
    (hw' : ((w.modifyChunk b f).bumpAll (meshDirty ||| rampDirty) touched).bumpAll meshDirty
      invalidated = w') : Changes w w' b (some (f c)) touched invalidated := by
  refine .of_bumpAll (w.modifyChunk b f) rfl (fun a => ?_) hw'
  rw [chunk?_modifyChunk]
  split
  · rename_i hab
    rw [← hab, hc]
    rfl
  · rfl

/-- The ways in which a world changes, each with the chunks that are asked for anew. -/
inductive Step (types : VoxelCatalogue) (w w' : World) : Prop where
  | load (b : Address) (c : Chunk) (ns : List Address) (dims : c.grid.dims = w.dims)
      (mem : ∀ a, a ∈ ns ↔ b.IsNeighbor a) (next : w'.nextGeneration = w.nextGeneration + 1)
      (changes : Changes w w' b (some (c.enter w.nextGeneration)) ns [])
  | unload (b : Address) (ns : List Address) (mem : ∀ a, a ∈ ns ↔ b.IsNeighbor a)
      (next : w'.nextGeneration = w.nextGeneration) (changes : Changes w w' b none ns [])
  | setVoxel (b : Address) (c : Chunk) (l : Local) (v : Voxel) (rest : List Address)
      (loaded : w.chunk? b = some c) (mem : ∀ a, a ∈ b :: rest ↔ Address.IsReader w.dims b l a)
      (next : w'.nextGeneration = w.nextGeneration)
      (changes : Changes w w' b (some ((c.setVoxel? l v).getD c)) rest [])
  | setLiquid (b : Address) (c : Chunk) (l : Local) (x : LiquidCell) (rest : List Address)
      (loaded : w.chunk? b = some c) (mem : ∀ a, a ∈ b :: rest ↔ Address.IsReader w.dims b l a)
      (next : w'.nextGeneration = w.nextGeneration)
      (changes : Changes w w' b (some ((c.setLiquid? l x).getD c)) rest [b.shift .up])
  | resolveRamps (b : Address) (c : Chunk) (origin : Pos) (masks : List RampMask)
      (others : List Address) (loaded : w.chunk? b = some c)
      (at_origin : b.origin w.dims = .ok origin)
      (resolved : w.query.rampsOf types origin c.grid = .ok masks)
      (mem : ∀ i ∈ c.grid.changedRamps masks.toArray, ∀ a,
        Address.IsReader w.dims b (w.dims.position i) a → a ≠ b → w.isLoaded a = true → a ∈ others)
      (next : w'.nextGeneration = w.nextGeneration)
      (changes : Changes w w' b (some (c.applyRamps masks.toArray).2) [] others)

theorem load_eq_none {w : World} {b : Address} {c : Chunk} (h : w.load b c = .ok none) :
    c.grid.dims ≠ w.dims := by
  unfold World.load at h
  split at h
  · assumption
  · obtain ⟨ns, -, h⟩ := Checked.bind_eq_ok_iff.mp h
    cases Checked.pure_eq_ok_iff.mp h

theorem load_eq_some {w w' : World} {b : Address} {c : Chunk} (h : w.load b c = .ok (some w')) :
    ∃ ns, c.grid.dims = w.dims ∧ (∀ a, a ∈ ns ↔ b.IsNeighbor a) ∧
      w'.nextGeneration = w.nextGeneration + 1 ∧
      Changes w w' b (some (c.enter w.nextGeneration)) ns [] := by
  unfold World.load at h
  split at h
  · simp [pure, Except.pure] at h
  · rename_i hdims
    obtain ⟨ns, hns, h⟩ := Checked.bind_eq_ok_iff.mp h
    obtain rfl := Option.some.inj (Checked.pure_eq_ok_iff.mp h)
    exact ⟨ns, by simpa using hdims, fun a => Address.mem_neighbors hns,
      nextGeneration_bumpAll .., .of_bumpAll (w.entered b c) rfl (fun a => w.chunk?_entered b a c) rfl⟩

theorem unload_eq_none {w : World} {b : Address} (h : w.unload b = .ok none) :
    w.chunk? b = none := by
  unfold World.unload at h
  split at h
  · assumption
  · obtain ⟨ns, -, h⟩ := Checked.bind_eq_ok_iff.mp h
    cases Checked.pure_eq_ok_iff.mp h

theorem unload_eq_some {w w' : World} {b : Address} {c : Chunk}
    (h : w.unload b = .ok (some (c, w'))) :
    ∃ ns, w.chunk? b = some c ∧ (∀ a, a ∈ ns ↔ b.IsNeighbor a) ∧
      w'.nextGeneration = w.nextGeneration ∧ Changes w w' b none ns [] := by
  unfold World.unload at h
  split at h
  · simp [pure, Except.pure] at h
  · rename_i c₀ hc
    obtain ⟨ns, hns, h⟩ := Checked.bind_eq_ok_iff.mp h
    obtain ⟨rfl, rfl⟩ := Prod.mk.inj (Option.some.inj (Checked.pure_eq_ok_iff.mp h))
    exact ⟨ns, hc, fun a => Address.mem_neighbors hns, nextGeneration_bumpAll ..,
      .of_bumpAll (w.left b) rfl (w.chunk?_left b) rfl⟩

theorem setVoxel_eq_none {w : World} {p : Pos} {v : Voxel} (h : w.setVoxel p v = .ok none) :
    ∃ b l, w.locate p = .ok (b, l) ∧ w.chunk? b = none := by
  obtain ⟨⟨b, l⟩, hlocate, h⟩ := Checked.bind_eq_ok_iff.mp h
  dsimp only at h
  split at h
  · rename_i hloaded
    exact ⟨b, l, hlocate, by simpa [isLoaded] using hloaded⟩
  · obtain ⟨rs, -, h⟩ := Checked.bind_eq_ok_iff.mp h
    cases Checked.pure_eq_ok_iff.mp h

theorem setVoxel_eq_some {w w' : World} {p : Pos} {v : Voxel}
    (h : w.setVoxel p v = .ok (some w')) :
    ∃ b l c rest, w.locate p = .ok (b, l) ∧ w.chunk? b = some c ∧
      (∀ a, a ∈ b :: rest ↔ Address.IsReader w.dims b l a) ∧
      w'.nextGeneration = w.nextGeneration ∧
      Changes w w' b (some ((c.setVoxel? l v).getD c)) rest [] := by
  obtain ⟨⟨b, l⟩, hlocate, h⟩ := Checked.bind_eq_ok_iff.mp h
  dsimp only at h
  split at h
  · simp [pure, Except.pure] at h
  · rename_i hloaded
    obtain ⟨c, hc⟩ : ∃ c, w.chunk? b = some c :=
      Option.ne_none_iff_exists'.mp (by simpa [isLoaded] using hloaded)
    obtain ⟨rs, hrs, h⟩ := Checked.bind_eq_ok_iff.mp h
    obtain rfl := Option.some.inj (Checked.pure_eq_ok_iff.mp h)
    obtain ⟨rest, rfl, hmem⟩ := Address.readers_eq_cons hrs
    exact ⟨b, l, c, rest, hlocate, hc, hmem, nextGeneration_bumpAll ..,
      .of_modify (fun c => (c.setVoxel? l v).getD c) hc rfl⟩

theorem setLiquid_eq_none {w : World} {p : Pos} {x : LiquidCell}
    (h : w.setLiquid p x = .ok none) : ∃ b l, w.locate p = .ok (b, l) ∧ w.chunk? b = none := by
  obtain ⟨⟨b, l⟩, hlocate, h⟩ := Checked.bind_eq_ok_iff.mp h
  dsimp only at h
  split at h
  · rename_i hloaded
    exact ⟨b, l, hlocate, by simpa [isLoaded] using hloaded⟩
  · obtain ⟨rs, -, h⟩ := Checked.bind_eq_ok_iff.mp h
    obtain ⟨above, -, h⟩ := Checked.bind_eq_ok_iff.mp h
    cases Checked.pure_eq_ok_iff.mp h

theorem setLiquid_eq_some {w w' : World} {p : Pos} {x : LiquidCell}
    (h : w.setLiquid p x = .ok (some w')) :
    ∃ b l c rest, w.locate p = .ok (b, l) ∧ w.chunk? b = some c ∧
      (∀ a, a ∈ b :: rest ↔ Address.IsReader w.dims b l a) ∧
      w'.nextGeneration = w.nextGeneration ∧
      Changes w w' b (some ((c.setLiquid? l x).getD c)) rest [b.shift .up] := by
  obtain ⟨⟨b, l⟩, hlocate, h⟩ := Checked.bind_eq_ok_iff.mp h
  dsimp only at h
  split at h
  · simp [pure, Except.pure] at h
  · rename_i hloaded
    obtain ⟨c, hc⟩ : ∃ c, w.chunk? b = some c :=
      Option.ne_none_iff_exists'.mp (by simpa [isLoaded] using hloaded)
    obtain ⟨rs, hrs, h⟩ := Checked.bind_eq_ok_iff.mp h
    obtain ⟨above, habove, h⟩ := Checked.bind_eq_ok_iff.mp h
    obtain rfl := Option.some.inj (Checked.pure_eq_ok_iff.mp h)
    obtain ⟨rest, rfl, hmem⟩ := Address.readers_eq_cons hrs
    obtain ⟨rfl, -⟩ := Address.offset_eq_ok_iff.mp habove
    exact ⟨b, l, c, rest, hlocate, hc, hmem, nextGeneration_bumpAll ..,
      .of_modify (fun c => (c.setLiquid? l x).getD c) hc rfl⟩

theorem chunk?_of_resolveRamps {types : VoxelCatalogue} {w : World} {b : Address}
    (h : w.resolveRamps types b = .ok none) : w.chunk? b = none := by
  obtain ⟨origin, -, h⟩ := Checked.bind_eq_ok_iff.mp h
  split at h
  · assumption
  · obtain ⟨masks, -, h⟩ := Checked.bind_eq_ok_iff.mp h
    obtain ⟨readers, -, h⟩ := Checked.bind_eq_ok_iff.mp h
    cases Checked.pure_eq_ok_iff.mp h

theorem resolveRamps_eq_some {types : VoxelCatalogue} {w w' : World} {b : Address}
    {report : RampReport} (h : w.resolveRamps types b = .ok (some (report, w'))) :
    ∃ origin c masks others, w.chunk? b = some c ∧ b.origin w.dims = .ok origin ∧
      w.query.rampsOf types origin c.grid = .ok masks ∧
      (∀ i ∈ c.grid.changedRamps masks.toArray, ∀ a,
        Address.IsReader w.dims b (w.dims.position i) a → a ≠ b → w.isLoaded a = true →
          a ∈ others) ∧
      w'.nextGeneration = w.nextGeneration ∧
      Changes w w' b (some (c.applyRamps masks.toArray).2) [] others := by
  obtain ⟨origin, horigin, h⟩ := Checked.bind_eq_ok_iff.mp h
  split at h
  · simp [pure, Except.pure] at h
  · rename_i c hc
    obtain ⟨masks, hmasks, h⟩ := Checked.bind_eq_ok_iff.mp h
    obtain ⟨readers, hreaders, h⟩ := Checked.bind_eq_ok_iff.mp h
    obtain ⟨-, rfl⟩ := Prod.mk.inj (Option.some.inj (Checked.pure_eq_ok_iff.mp h))
    refine ⟨origin, c, masks, _, hc, horigin, hmasks, ?_, nextGeneration_bumpAll ..,
      .of_modify (fun _ => (c.applyRamps masks.toArray).2) hc rfl⟩
    -- A reader of a changed place is in the list of that place, so also in the joined list.
    intro i hi a ha hne hloaded
    obtain ⟨j, hj⟩ := List.mem_iff_getElem?.mp hi
    obtain ⟨rs, hrs, hread⟩ := Checked.getElem?_mapM hreaders hj
    obtain ⟨all, hall, hdrop⟩ := Checked.bind_eq_ok_iff.mp hread
    obtain ⟨rest, rfl, hmem⟩ := Address.readers_eq_cons hall
    have hrest : a ∈ rest := List.mem_of_ne_of_mem hne ((hmem a).mpr ha)
    have hdrop : rest = rs := Checked.pure_eq_ok_iff.mp hdrop
    have hflat : a ∈ readers.flatten :=
      List.mem_flatten.mpr ⟨rs, List.mem_of_getElem? hrs, hdrop ▸ hrest⟩
    exact List.mem_filter.mpr ⟨List.mem_eraseDups.mpr hflat, hloaded⟩

namespace Step

variable {w w' : World} {types : VoxelCatalogue}

theorem of_load {b : Address} {c : Chunk} (h : w.load b c = .ok (some w')) : Step types w w' := by
  obtain ⟨ns, hdims, hmem, hnext, hchanges⟩ := load_eq_some h
  exact .load b c ns hdims hmem hnext hchanges

theorem of_unload {b : Address} {c : Chunk} (h : w.unload b = .ok (some (c, w'))) :
    Step types w w' := by
  obtain ⟨ns, -, hmem, hnext, hchanges⟩ := unload_eq_some h
  exact .unload b ns hmem hnext hchanges

theorem of_setVoxel {p : Pos} {v : Voxel} (h : w.setVoxel p v = .ok (some w')) :
    Step types w w' := by
  obtain ⟨b, l, c, rest, -, hc, hmem, hnext, hchanges⟩ := setVoxel_eq_some h
  exact .setVoxel b c l v rest hc hmem hnext hchanges

theorem of_setLiquid {p : Pos} {x : LiquidCell} (h : w.setLiquid p x = .ok (some w')) :
    Step types w w' := by
  obtain ⟨b, l, c, rest, -, hc, hmem, hnext, hchanges⟩ := setLiquid_eq_some h
  exact .setLiquid b c l x rest hc hmem hnext hchanges

theorem of_resolveRamps {b : Address} {report : RampReport}
    (h : w.resolveRamps types b = .ok (some (report, w'))) : Step types w w' := by
  obtain ⟨origin, c, masks, others, hc, ho, hmasks, hmem, hnext, hchanges⟩ := resolveRamps_eq_some h
  exact .resolveRamps b c origin masks others hc ho hmasks hmem hnext hchanges

end Step

/-! ### Histories -/

/-- The operations that change a world. -/
inductive Edit where
  | load (a : Address) (c : Chunk)
  | unload (a : Address)
  | setVoxel (p : Pos) (v : Voxel)
  | setLiquid (p : Pos) (x : LiquidCell)
  | resolveRamps (a : Address)
  | resolveDirtyRamps

/-- The world that an operation gives, or the old one if the operation does not apply. -/
def after {α : Type} (w : World) (r : Checked (Option α)) (f : α → World) : Checked World := do
  return ((← r).map f).getD w

/-- The world after an operation. -/
def perform (types : VoxelCatalogue) (w : World) : Edit → Checked World
  | .load a c => w.after (w.load a c) id
  | .unload a => w.after (w.unload a) (·.2)
  | .setVoxel p v => w.after (w.setVoxel p v) id
  | .setLiquid p x => w.after (w.setLiquid p x) id
  | .resolveRamps a => w.after (w.resolveRamps types a) (·.2)
  | .resolveDirtyRamps => do return (← w.resolveDirtyRamps types).2

/-- The world after a list of operations, each under the catalogue of its time. -/
def replay (w : World) (es : List (VoxelCatalogue × Edit)) : Checked World :=
  es.foldlM (fun w e => w.perform e.1 e.2) w

theorem after_eq_ok {α : Type} {w w' : World} {r : Checked (Option α)} {f : α → World}
    (h : w.after r f = .ok w') : r = .ok none ∧ w' = w ∨ ∃ x, r = .ok (some x) ∧ w' = f x := by
  obtain ⟨x?, hr, h⟩ := Checked.bind_eq_ok_iff.mp h
  obtain rfl := Checked.pure_eq_ok_iff.mp h
  cases x? with
  | none => exact .inl ⟨hr, rfl⟩
  | some x => exact .inr ⟨x, hr, rfl⟩

/-- What every step keeps, every operation keeps: it is no step, one step, or a step for each chunk
whose ramp masks are out of date. -/
theorem perform_rel {R : World → World → Prop} {types : VoxelCatalogue} (refl : ∀ w, R w w)
    (trans : ∀ u v w, R u v → R v w → R u w) (step : ∀ w w', Step types w w' → R w w')
    {w w' : World} {e : Edit} (h : w.perform types e = .ok w') : R w w' := by
  have ramps {w w' : World} {a : Address} (h : w.perform types (.resolveRamps a) = .ok w') :
      R w w' := by
    obtain ⟨-, rfl⟩ | ⟨⟨report, v⟩, hr, rfl⟩ := after_eq_ok h
    · exact refl w'
    · exact step _ _ (.of_resolveRamps hr)
  cases e with
  | load a c =>
    obtain ⟨-, rfl⟩ | ⟨v, hr, rfl⟩ := after_eq_ok h
    · exact refl w'
    · exact step _ _ (.of_load hr)
  | unload a =>
    obtain ⟨-, rfl⟩ | ⟨⟨c, v⟩, hr, rfl⟩ := after_eq_ok h
    · exact refl w'
    · exact step _ _ (.of_unload hr)
  | setVoxel p v =>
    obtain ⟨-, rfl⟩ | ⟨v, hr, rfl⟩ := after_eq_ok h
    · exact refl w'
    · exact step _ _ (.of_setVoxel hr)
  | setLiquid p x =>
    obtain ⟨-, rfl⟩ | ⟨v, hr, rfl⟩ := after_eq_ok h
    · exact refl w'
    · exact step _ _ (.of_setLiquid hr)
  | resolveRamps a => exact ramps h
  | resolveDirtyRamps =>
    obtain ⟨r, hr, h⟩ := Checked.bind_eq_ok_iff.mp h
    obtain ⟨v, hv, hr⟩ := Checked.bind_eq_ok_iff.mp hr
    obtain rfl := Checked.pure_eq_ok_iff.mp hr
    obtain rfl := Checked.pure_eq_ok_iff.mp h
    exact Checked.foldlM_invariant (P := R w)
      (fun u a t hu ht => trans _ _ _ hu (ramps (a := a) ht)) (refl w) hv

end World

end VoxelScene
