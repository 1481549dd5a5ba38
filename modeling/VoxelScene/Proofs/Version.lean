import VoxelScene.Proofs.SlicedMesh
import VoxelScene.Proofs.SnapshotView

/-!
Versions and generations.

A chunk is loaded under a generation that was never used before, and its version goes up whenever
a cell changes that its meshes can show. So the two numbers together settle the meshes: as long as
they stay, the cells that the meshes are built from stay. A chunk whose version went up, or whose
generation is new, asks for a new mesh.
-/

namespace VoxelScene

namespace World

/-- What holds of the chunks of every world that grew out of an empty one. -/
structure WellKept (w : World) : Prop where
  uniform : w.Uniform
  generation : ∀ a c, w.chunk? a = some c → c.generation < w.nextGeneration
  version : ∀ a c, w.chunk? a = some c → 0 < c.version

theorem wellKept_empty (d : Dims) : (empty d).WellKept := by
  have hnone (a : Address) : (empty d).chunk? a = none := by
    simp [empty, chunk?]
  constructor
  all_goals
    intro a c hc
    rw [hnone] at hc
    cases hc

/-- Taking the mesh mark off a chunk changes nothing else of it. -/
theorem chunk?_unmark {w : World} {a b : Address} {c' : Chunk}
    (h : (w.unmark a).chunk? b = some c') :
    ∃ c, w.chunk? b = some c ∧ c' = if a = b then c.clearDirty meshDirty else c := by
  rw [unmark, chunk?_modifyChunk] at h
  split at h
  · rename_i hab
    obtain ⟨c, hc, rfl⟩ := Option.map_eq_some_iff.mp h
    exact ⟨c, hc, (if_pos hab).symm⟩
  · rename_i hab
    exact ⟨c', h, (if_neg hab).symm⟩

theorem WellKept.unmark {w : World} (hw : w.WellKept) (a : Address) :
    (w.unmark a).WellKept := by
  constructor
  all_goals
    intro b c' hc'
    obtain ⟨c, hc, rfl⟩ := chunk?_unmark hc'
  · split <;> exact hw.uniform b c hc
  · split <;> exact hw.generation b c hc
  · split <;> exact hw.version b c hc

theorem voxel?_unmark (w : World) (a b : Address) (l : Local) :
    (w.unmark a).voxel? b l = w.voxel? b l := by
  rw [voxel?, unmark, chunk?_modifyChunk]
  split
  · rw [Option.bind_map]
    rfl
  · rfl

theorem liquid?_unmark (w : World) (a b : Address) (l : Local) :
    (w.unmark a).liquid? b l = w.liquid? b l := by
  rw [liquid?, unmark, chunk?_modifyChunk]
  split
  · rw [Option.bind_map]
    rfl
  · rfl

theorem meshOf_unmark {w : World} (hw : w.WellKept) (hd : w.dims.Fits) (a b : Address)
    (m : Mesher) : (w.unmark a).meshOf m b = w.meshOf m b := by
  have hsame : w.SameCells (w.unmark a) b :=
    ⟨fun _ _ _ _ => voxel?_unmark .., fun _ _ _ _ => liquid?_unmark ..⟩
  refine hsame.meshOf_eq hd rfl hw.uniform (hw.unmark a).uniform ?_ m
  rw [unmark, chunk?_modifyChunk]
  split
  · rw [Option.map_map]
    rfl
  · rfl

/-- The chunk `c'` of `w'` entered the world after `w`. -/
structure Fresh (w w' : World) (c' : Chunk) : Prop where
  unused : w.nextGeneration ≤ c'.generation
  generation : c'.generation < w'.nextGeneration
  dims : c'.grid.dims = w.dims
  version : 0 < c'.version
  marked : c'.isDirty meshDirty = true

/-- `w'` is `w` at a later time: each chunk of it is new, or is an older state of it, and then an
equal version means that none of the cells behind its meshes changed. -/
structure Advances (w w' : World) : Prop where
  dims : w'.dims = w.dims
  nextGeneration : w.nextGeneration ≤ w'.nextGeneration
  chunk : ∀ a c', w'.chunk? a = some c' → w.Fresh w' c' ∨
    ∃ c, w.chunk? a = some c ∧ c.Later c' ∧ (c'.version = c.version → w.SameCells w' a)

variable {u w w' : World} {a b : Address}

theorem Fresh.later {c c' : Chunk} (h : u.Fresh w c) (hl : c.Later c')
    (hnext : w.nextGeneration ≤ w'.nextGeneration) : u.Fresh w' c' where
  unused := by rw [hl.generation]; exact h.unused
  generation := by rw [hl.generation]; exact Nat.lt_of_lt_of_le h.generation hnext
  dims := hl.dims.trans h.dims
  version := Nat.lt_of_lt_of_le h.version hl.version
  marked := by
    by_cases heq : c'.version = c.version
    · rw [(hl.kept heq).2]
      exact h.marked
    · have hle := hl.version
      exact hl.marked (by omega)

theorem SameCells.refl (w : World) (a : Address) : w.SameCells w a :=
  ⟨fun _ _ _ _ => rfl, fun _ _ _ _ => rfl⟩

theorem SameCells.trans (hdims : w.dims = u.dims) (h : u.SameCells w a) (h' : w.SameCells w' a) :
    u.SameCells w' a where
  voxel b l hl hr := (h'.voxel b l (hdims ▸ hl) (hdims ▸ hr)).trans (h.voxel b l hl hr)
  liquid b l hl hr := (h'.liquid b l (hdims ▸ hl) (hdims ▸ hr)).trans (h.liquid b l hl hr)

namespace Advances

theorem refl (w : World) : w.Advances w :=
  ⟨rfl, Nat.le_refl _, fun a c hc => .inr ⟨c, hc, .refl c, fun _ => .refl w a⟩⟩

theorem trans (h : u.Advances w) (h' : w.Advances w') : u.Advances w' where
  dims := h'.dims.trans h.dims
  nextGeneration := Nat.le_trans h.nextGeneration h'.nextGeneration
  chunk a c' hc' := by
    have hnext := h.nextGeneration
    rcases h'.chunk a c' hc' with hnew | ⟨c₁, hc₁, hlater', hsame'⟩
    · exact .inl ⟨Nat.le_trans hnext hnew.unused, hnew.generation, hnew.dims.trans h.dims,
        hnew.version, hnew.marked⟩
    · rcases h.chunk a c₁ hc₁ with hnew | ⟨c, hc, hlater, hsame⟩
      · exact .inl (hnew.later hlater' h'.nextGeneration)
      · refine .inr ⟨c, hc, hlater.trans hlater', fun heq => ?_⟩
        have hle := hlater.version
        have hle' := hlater'.version
        exact (hsame (by omega)).trans h.dims (hsame' (by omega))

theorem wellKept (h : w.Advances w') (hw : w.WellKept) : w'.WellKept where
  uniform a c' hc' := by
    rw [h.dims]
    rcases h.chunk a c' hc' with hnew | ⟨c, hc, hlater, -⟩
    · exact hnew.dims
    · exact hlater.dims.trans (hw.uniform a c hc)
  generation a c' hc' := by
    rcases h.chunk a c' hc' with hnew | ⟨c, hc, hlater, -⟩
    · exact hnew.generation
    · rw [hlater.generation]
      exact Nat.lt_of_lt_of_le (hw.generation a c hc) h.nextGeneration
  version a c' hc' := by
    rcases h.chunk a c' hc' with hnew | ⟨c, hc, hlater, -⟩
    · exact hnew.version
    · exact Nat.lt_of_lt_of_le (hw.version a c hc) hlater.version

theorem later_of_generation {c c' : Chunk} (h : w.Advances w') (hw : w.WellKept)
    (hc : w.chunk? a = some c) (hc' : w'.chunk? a = some c') (hgen : c'.generation = c.generation) :
    c.Later c' ∧ (c'.version = c.version → w.SameCells w' a) := by
  have hold := hw.generation a c hc
  rcases h.chunk a c' hc' with hnew | ⟨c₀, hc₀, hlater, hsame⟩
  · have hunused := hnew.unused
    omega
  · obtain rfl : c₀ = c := Option.some.inj (hc₀.symm.trans hc)
    exact ⟨hlater, hsame⟩

theorem meshOf_eq {c c' : Chunk} (h : w.Advances w') (hw : w.WellKept) (hd : w.dims.Fits)
    (hc : w.chunk? a = some c) (hc' : w'.chunk? a = some c') (hgen : c'.generation = c.generation)
    (hver : c'.version = c.version) (m : Mesher) : w'.meshOf m a = w.meshOf m a := by
  obtain ⟨hlater, hsame⟩ := h.later_of_generation hw hc hc' hgen
  have hgrid : (w'.chunk? a).map Chunk.grid = (w.chunk? a).map Chunk.grid := by
    rw [hc, hc', Option.map_some, Option.map_some, (hlater.kept hver).1]
  exact (hsame hver).meshOf_eq hd h.dims hw.uniform (h.wellKept hw).uniform hgrid m

/-- A chunk whose meshes changed asks for new ones, under a higher version or a new generation. -/
theorem marked_of_meshOf_ne {c' : Chunk} {m : Mesher} (h : w.Advances w') (hw : w.WellKept)
    (hd : w.dims.Fits) (hc' : w'.chunk? a = some c') (hne : w'.meshOf m a ≠ w.meshOf m a) :
    c'.isDirty meshDirty = true ∧
      ((∃ c, w.chunk? a = some c ∧ c'.generation = c.generation ∧ c.version < c'.version) ∨
        w.nextGeneration ≤ c'.generation) := by
  rcases h.chunk a c' hc' with hnew | ⟨c, hc, hlater, -⟩
  · exact ⟨hnew.marked, .inr hnew.unused⟩
  · have hver : c'.version ≠ c.version := fun heq =>
      hne (h.meshOf_eq hw hd hc hc' hlater.generation heq m)
    have hlt : c.version < c'.version := by
      have hle := hlater.version
      omega
    exact ⟨hlater.marked hlt, .inl ⟨c, hc, hlater.generation, hlt⟩⟩

end Advances

/-! ### One step -/

namespace Changes

variable {own : Option Chunk} {touched invalidated : List Address}

theorem voxel?_eq (h : Changes w w' b own touched invalidated) (a : Address) (l : Local) :
    w'.voxel? a l = (if b = a then own else w.chunk? a).bind fun c => c.grid.voxel? l := by
  rw [World.voxel?, h.chunk, Option.bind_map]
  simp only [Function.comp_def, Chunk.grid_asked]

theorem liquid?_eq (h : Changes w w' b own touched invalidated) (a : Address) (l : Local) :
    w'.liquid? a l = (if b = a then own else w.chunk? a).bind fun c => c.grid.liquid? l := by
  rw [World.liquid?, h.chunk, Option.bind_map]
  simp only [Function.comp_def, Chunk.grid_asked]

/-- A change at one chunk moves the world on if every other chunk whose meshes can show a changed
cell is asked for. -/
theorem advances (h : Changes w w' b own touched invalidated)
    (hnext : w.nextGeneration ≤ w'.nextGeneration)
    (hown : ∀ c₁, own = some c₁ → w.Fresh w' c₁ ∨ ∃ c, w.chunk? b = some c ∧ c.Later c₁)
    (hvoxel : ∀ l a, w.dims.Holds l → Address.IsReader w.dims b l a → a ≠ b → w.isLoaded a = true →
      w'.voxel? b l ≠ w.voxel? b l → a ∈ touched ∨ a ∈ invalidated)
    (hliquid : ∀ l a, w.dims.Holds l → Address.IsReader w.dims b l a ∨ b = a.below → a ≠ b →
      w.isLoaded a = true → w'.liquid? b l ≠ w.liquid? b l → a ∈ touched ∨ a ∈ invalidated) :
    w.Advances w' := by
  refine ⟨h.dims, hnext, fun a c' hc' => ?_⟩
  rw [h.chunk] at hc'
  by_cases hab : b = a
  · -- The changed chunk itself: an equal version leaves its own cells, and all others stay anyway.
    subst hab
    rw [if_pos rfl] at hc'
    obtain ⟨c₁, hc₁, rfl⟩ := Option.map_eq_some_iff.mp hc'
    rcases hown c₁ hc₁ with hnew | ⟨c, hc, hlater⟩
    · exact .inl (hnew.later .of_asked (Nat.le_refl _))
    · have hlater' := hlater.trans (.of_asked (n := touched.count b) (m := invalidated.count b))
      refine .inr ⟨c, hc, hlater', fun heq => ?_⟩
      have hgrid : c₁.grid = c.grid := by
        rw [← (hlater'.kept heq).1, Chunk.grid_asked]
      constructor
      · intro b' l _ _
        rw [h.voxel?_eq]
        split
        · rename_i hbb
          rw [← hbb, hc₁, World.voxel?, hc, Option.bind_some, Option.bind_some, hgrid]
        · rfl
      · intro b' l _ _
        rw [h.liquid?_eq]
        split
        · rename_i hbb
          rw [← hbb, hc₁, World.liquid?, hc, Option.bind_some, Option.bind_some, hgrid]
        · rfl
  · -- Another chunk: an equal version means that it was not asked for, so it shows no changed cell.
    rw [if_neg hab] at hc'
    obtain ⟨c, hc, rfl⟩ := Option.map_eq_some_iff.mp hc'
    refine .inr ⟨c, hc, .of_asked, fun heq => ?_⟩
    rw [Chunk.version_asked] at heq
    have hnot : ¬ (a ∈ touched ∨ a ∈ invalidated) := by
      rw [← List.count_pos_iff, ← List.count_pos_iff]
      omega
    have hloaded : w.isLoaded a = true := by rw [isLoaded, hc]; rfl
    constructor
    · intro b' l hl hr
      by_cases hbb : b = b'
      · subst hbb
        apply Decidable.byContradiction
        intro hne
        exact hnot (hvoxel l a hl hr (Ne.symm hab) hloaded hne)
      · rw [h.voxel?_eq, if_neg hbb]
        rfl
    · intro b' l hl hr
      by_cases hbb : b = b'
      · subst hbb
        apply Decidable.byContradiction
        intro hne
        exact hnot (hliquid l a hl hr (Ne.symm hab) hloaded hne)
      · rw [h.liquid?_eq, if_neg hbb]
        rfl

end Changes

namespace Step

variable {types : VoxelCatalogue}

theorem advances (hw : w.WellKept) (h : Step types w w') : w.Advances w' := by
  -- A chunk that reads a cell of another chunk, or lies above it, is a neighbour of that chunk.
  have neighbor {a b : Address} {l : Local} (h : Address.IsReader w.dims b l a ∨ b = a.below)
      (hne : a ≠ b) : b.IsNeighbor a := by
    rcases h with h | rfl
    · exact h.isNeighbor hne
    · exact a.isNeighbor_of_below
  cases h with
  | load b c ns hdims hmem hnext h =>
    refine h.advances (by omega) (fun c₁ hc₁ => .inl ?_) ?_ ?_
    · obtain rfl := Option.some.inj hc₁
      exact ⟨Nat.le_refl _, by rw [hnext]; exact Nat.lt_succ_self _, hdims, Nat.succ_pos _,
        Chunk.meshDirty_bump _ 1 (.inl rfl) (by omega)⟩
    · exact fun l a _ hr hne _ _ => .inl ((hmem a).mpr (neighbor (.inl hr) hne))
    · exact fun l a _ hr hne _ _ => .inl ((hmem a).mpr (neighbor hr hne))
  | unload b ns hmem hnext h =>
    refine h.advances (by omega) (fun c₁ hc₁ => by cases hc₁) ?_ ?_
    · exact fun l a _ hr hne _ _ => .inl ((hmem a).mpr (neighbor (.inl hr) hne))
    · exact fun l a _ hr hne _ _ => .inl ((hmem a).mpr (neighbor hr hne))
  | setVoxel b c l v rest hc hmem hnext h =>
    refine h.advances (by omega) (fun c₁ hc₁ => .inr ⟨c, hc, ?_⟩) ?_ ?_
    · obtain rfl := Option.some.inj hc₁
      exact (c.written_setVoxel l v).later (.inl rfl)
    · intro l' a _ hr hne _ hdiff
      rw [h.voxel?_eq, if_pos rfl, World.voxel?, hc, Option.bind_some, Option.bind_some,
        Chunk.grid_setVoxel] at hdiff
      obtain rfl : l' = l :=
        Decidable.byContradiction fun hl => hdiff (Grid.voxel?_setVoxel_ne v hl)
      exact .inl (List.mem_of_ne_of_mem hne ((hmem a).mpr hr))
    · intro l' a _ _ _ _ hdiff
      rw [h.liquid?_eq, if_pos rfl, World.liquid?, hc, Option.bind_some, Option.bind_some,
        Chunk.grid_setVoxel] at hdiff
      exact absurd (Grid.liquid?_setVoxel v) hdiff
  | setLiquid b c l x rest hc hmem hnext h =>
    refine h.advances (by omega) (fun c₁ hc₁ => .inr ⟨c, hc, ?_⟩) ?_ ?_
    · obtain rfl := Option.some.inj hc₁
      exact (c.written_setLiquid l x).later (.inr rfl)
    · intro l' a _ _ _ _ hdiff
      rw [h.voxel?_eq, if_pos rfl, World.voxel?, hc, Option.bind_some, Option.bind_some,
        Chunk.grid_setLiquid] at hdiff
      exact absurd (Grid.voxel?_setLiquid x) hdiff
    · intro l' a _ hr hne _ hdiff
      rw [h.liquid?_eq, if_pos rfl, World.liquid?, hc, Option.bind_some, Option.bind_some,
        Chunk.grid_setLiquid] at hdiff
      obtain rfl : l' = l :=
        Decidable.byContradiction fun hl => hdiff (Grid.liquid?_setLiquid_ne x hl)
      rcases hr with hr | rfl
      · exact .inl (List.mem_of_ne_of_mem hne ((hmem a).mpr hr))
      · exact .inr (List.mem_singleton.mpr a.shift_up_below.symm)
  | resolveRamps b c origin masks others hc _ _ hmem hnext h =>
    have hdims := hw.uniform b c hc
    refine h.advances (by omega) (fun c₁ hc₁ => .inr ⟨c, hc, ?_⟩) ?_ ?_
    · obtain rfl := Option.some.inj hc₁
      exact .of_applyRamps _
    · intro l a hl hr hne hloaded hdiff
      rw [h.voxel?_eq, if_pos rfl, World.voxel?, hc, Option.bind_some, Option.bind_some] at hdiff
      have hchanged := Chunk.mem_changedRamps_of_ne (hdims ▸ hl) hdiff
      rw [hdims] at hchanged
      rw [← Dims.position_index hl] at hr
      exact .inr (hmem _ hchanged a hr hne hloaded)
    · intro l a _ _ _ _ hdiff
      rw [h.liquid?_eq, if_pos rfl, World.liquid?, hc, Option.bind_some, Option.bind_some] at hdiff
      exact absurd (Chunk.liquid?_applyRamps _) hdiff

end Step

/-! ### Histories -/

theorem advances_of_perform {types : VoxelCatalogue} {e : Edit} (hw : w.WellKept)
    (h : w.perform types e = .ok w') : w.Advances w' := by
  refine perform_rel (R := fun w w' => w.WellKept → w.Advances w') (fun w _ => .refl w) ?_
    (fun w w' hstep hw => hstep.advances hw) h hw
  intro u v w huv hvw hu
  exact (huv hu).trans (hvw ((huv hu).wellKept hu))

theorem advances_of_replay {es : List (VoxelCatalogue × Edit)} (hw : w.WellKept)
    (h : w.replay es = .ok w') : w.Advances w' := by
  refine Checked.foldlM_invariant (P := w.Advances) (fun u e v hu hv => ?_) (.refl w) h
  exact hu.trans (advances_of_perform (hu.wellKept hw) hv)

theorem replay_append {es es' : List (VoxelCatalogue × Edit)} :
    w.replay (es ++ es') = w.replay es >>= fun v => v.replay es' := by
  rw [replay, List.foldlM_append]
  rfl

/-- At any two times of a history, a chunk with the same generation and version has the same
meshes under every mesher. An operation that alters the meshes of a loaded chunk leaves it marked,
and either raises its version or gives it a generation higher than any that was in use before.
Sizes have to be representable as coordinates; beyond that the division of positions into chunks
is not that of their cells. -/
theorem version_settles_meshes {d : Dims} (hd : d.Fits) {early late : List (VoxelCatalogue × Edit)}
    {w w' : World} (hw : (empty d).replay early = .ok w) (hw' : w.replay late = .ok w') :
    (∀ a c c', w.chunk? a = some c → w'.chunk? a = some c' → c'.generation = c.generation →
      c'.version = c.version → ∀ m, w'.meshOf m a = w.meshOf m a) ∧
    ∀ types e w'', w'.perform types e = .ok w'' → ∀ a c'' m, w''.chunk? a = some c'' →
      w''.meshOf m a ≠ w'.meshOf m a →
      c''.isDirty meshDirty = true ∧
        ((∃ c', w'.chunk? a = some c' ∧ c''.generation = c'.generation ∧ c'.version < c''.version) ∨
          ∀ past rest v b c, early ++ late = past ++ rest → (empty d).replay past = .ok v →
            v.chunk? b = some c → c.generation < c''.generation) := by
  have hempty := wellKept_empty d
  have hadv := advances_of_replay hempty hw
  have hkept := hadv.wellKept hempty
  have hadv' := advances_of_replay hkept hw'
  have hfits : w.dims.Fits := hadv.dims ▸ hd
  refine ⟨fun a c c' hc hc' hgen hver m => hadv'.meshOf_eq hkept hfits hc hc' hgen hver m, ?_⟩
  intro types e w'' he a c'' m hc'' hne
  have hkept' := hadv'.wellKept hkept
  have hfits' : w'.dims.Fits := hadv'.dims ▸ hfits
  obtain ⟨hmark, hold | hnew⟩ :=
    (advances_of_perform hkept' he).marked_of_meshOf_ne hkept' hfits' hc'' hne
  · exact ⟨hmark, .inl hold⟩
  · refine ⟨hmark, .inr fun past rest v b c hsplit hv hc => ?_⟩
    have hkeptv := (advances_of_replay hempty hv).wellKept hempty
    -- The history goes on from `v` to `w'`, and the next generation never goes down on the way.
    have hrest : v.replay rest = .ok w' := by
      have hall : (empty d).replay (past ++ rest) = .ok w' := by
        rw [← hsplit, replay_append, hw]
        exact hw'
      rw [replay_append, hv] at hall
      exact hall
    have hgen := hkeptv.generation b c hc
    have hnext := (advances_of_replay hkeptv hrest).nextGeneration
    omega

/-- A voxel in a chunk, and then a second chunk with a voxel five chunks away. -/
def nearHistory : List (VoxelCatalogue × Edit) :=
  [(.empty, .load ⟨0, 0, 0⟩ (.ofGrid (.filled (.cube 1) (.ofKind 1))))]

def farHistory : List (VoxelCatalogue × Edit) :=
  [(.empty, .load ⟨5, 0, 0⟩ (.ofGrid (.blank (.cube 1)))),
    (.empty, .setVoxel ⟨5, 0, 0⟩ (.ofKind 1))]

/-- What happens far away leaves the meshes of the first chunk. When its voxel is taken away, six
faces are gone from its mesh, its version is higher and the chunk is marked. -/
theorem version_settles_meshes_far_edit :
    ∃ w w' w'' c' c'', (empty (.cube 1)).replay nearHistory = .ok w ∧
      w.replay farHistory = .ok w' ∧ (∀ m, w'.meshOf m ⟨0, 0, 0⟩ = w.meshOf m ⟨0, 0, 0⟩) ∧
      w'.perform .empty (.setVoxel ⟨0, 0, 0⟩ .empty) = .ok w'' ∧
      w''.meshOf .pillarMesher ⟨0, 0, 0⟩ ≠ w'.meshOf .pillarMesher ⟨0, 0, 0⟩ ∧
      w'.chunk? ⟨0, 0, 0⟩ = some c' ∧ w''.chunk? ⟨0, 0, 0⟩ = some c'' ∧
      c''.isDirty meshDirty = true ∧ c'.version < c''.version := by
  obtain ⟨w, hw, hrest⟩ := Checked.exists_of_passes (x := (empty (.cube 1)).replay nearHistory)
    (f := fun w => Checked.passes (w.replay farHistory) fun w' =>
      (w.chunk? ⟨0, 0, 0⟩).map (fun c => (c.generation, c.version)) == some (1, 2) &&
      (w'.chunk? ⟨0, 0, 0⟩).map (fun c => (c.generation, c.version)) == some (1, 2) &&
      Checked.passes (w'.meshOf .pillarMesher ⟨0, 0, 0⟩)
        (fun ms => ms.map MeshSet.quadCount = some 6) &&
      Checked.passes (w'.perform .empty (.setVoxel ⟨0, 0, 0⟩ .empty)) fun w'' =>
        (w''.chunk? ⟨0, 0, 0⟩).map Chunk.generation == some 1 &&
        Checked.passes (w''.meshOf .pillarMesher ⟨0, 0, 0⟩)
          fun ms => ms.map MeshSet.quadCount = some 0)
    (by decide +kernel)
  obtain ⟨w', hw', hrest⟩ := Checked.exists_of_passes hrest
  simp only [Bool.and_eq_true, beq_iff_eq] at hrest
  obtain ⟨⟨⟨hbefore, hafter⟩, hsix⟩, hrest⟩ := hrest
  obtain ⟨w'', hw'', hrest⟩ := Checked.exists_of_passes hrest
  obtain ⟨hload, hgone⟩ := (Bool.and_eq_true _ _).mp hrest
  obtain ⟨ms, hms, hsix⟩ := Checked.exists_of_passes hsix
  obtain ⟨ms', hms', hgone⟩ := Checked.exists_of_passes hgone
  obtain ⟨c, hc, hmarks⟩ := Option.map_eq_some_iff.mp hbefore
  obtain ⟨c', hc', hmarks'⟩ := Option.map_eq_some_iff.mp hafter
  obtain ⟨c'', hc'', hload⟩ := Option.map_eq_some_iff.mp (eq_of_beq hload)
  obtain ⟨hgen, hver⟩ := Prod.mk.inj (hmarks'.trans hmarks.symm)
  obtain ⟨hsettled, hedit⟩ := version_settles_meshes (by decide) hw hw'
  have hne : w''.meshOf .pillarMesher ⟨0, 0, 0⟩ ≠ w'.meshOf .pillarMesher ⟨0, 0, 0⟩ := by
    intro heq
    obtain rfl : ms' = ms := Except.ok.inj (hms'.symm.trans (heq.trans hms))
    exact absurd ((of_decide_eq_true hgone).symm.trans (of_decide_eq_true hsix)) (by decide)
  refine ⟨w, w', w'', c', c'', hw, hw', hsettled _ c c' hc hc' hgen hver, hw'', hne, hc', hc'', ?_⟩
  obtain ⟨hmark, ⟨c₀, hc₀, -, hlt⟩ | hnew⟩ := hedit _ _ _ hw'' _ _ _ hc'' hne
  · obtain rfl : c' = c₀ := Option.some.inj (hc'.symm.trans hc₀)
    exact ⟨hmark, hlt⟩
  · -- The load is not a new one: the chunk was loaded before the voxel was taken away.
    have hlt := hnew nearHistory farHistory w _ c rfl hw hc
    rw [hload, (Prod.mk.inj hmarks).1] at hlt
    exact absurd hlt (Nat.lt_irrefl 1)

end World

end VoxelScene
