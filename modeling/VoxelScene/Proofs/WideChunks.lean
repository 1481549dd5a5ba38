import VoxelScene.Proofs.Atlas
import VoxelScene.Proofs.SceneSteps
import VoxelScene.Proofs.Seams

/-!
Chunks wider than coordinates reach.

A size is a storage word and a position is made of coordinates, which are shorter. A chunk of
2147483648 cells along an axis has a negative extent there, so the chunk at 1 lies to the left of
the chunk at 0: its last cell is the one beside the first cell of the other. A write to that cell
asks for the chunks at 1 and 2. The chunk at 0 keeps its version and gets no mark, and its mesh is
out of date from then on. The module goes through such a run: two wide chunks with one voxel each,
of which the second is taken away when the first chunk is on show.
-/

namespace VoxelScene

/-! ### Grids with one voxel -/

namespace Grid

/-- A dry grid with one voxel in it. -/
def lone (d : Dims) (l : Local) (v : Voxel) : Grid := (blank d).setVoxel l v

/-- No voxel is sloped, and none is of a kind that may be. -/
def IsFlat (types : VoxelCatalogue) (g : Grid) : Prop := ∀ v ∈ g.voxels,
  v.ramp = .none ∧ VoxelCatalogue.isRampCapable types v.kind = false

variable {d : Dims} {l l' : Local} {v v' : Voxel}

@[simp] theorem dims_lone : (lone d l v).dims = d := dims_setVoxel ..

theorem setVoxel_lone : (lone d l v).setVoxel l v' = lone d l v' := by
  by_cases hl : d.Holds l
  · simp [lone, setVoxel, blank, filled, hl, Array.setIfInBounds_setIfInBounds]
  · simp [lone, setVoxel, blank, filled, hl]

theorem voxel_lone (hl : d.Holds l) (hl' : d.Holds l') :
    (lone d l v).voxel l' = if l' = l then v else .empty := by
  rw [voxel]
  split
  · rename_i heq
    rw [heq, lone, voxel?_setVoxel_self v hl]
    rfl
  · rename_i hne
    rw [lone, voxel?_setVoxel_ne v hne, blank, filled, voxel?, if_pos hl',
      Array.getElem?_replicate, if_pos (Dims.index_lt_volume hl')]
    rfl

theorem voxel_lone_self (hl : d.Holds l) : (lone d l v).voxel l = v := by
  rw [voxel_lone hl hl, if_pos rfl]

theorem mem_voxels_lone {x : Voxel} (h : x ∈ (lone d l v).voxels) : x = v ∨ x = .empty := by
  unfold lone setVoxel at h
  split at h
  · rcases Array.mem_or_eq_of_mem_setIfInBounds h with hmem | rfl
    · exact .inr (Array.eq_of_mem_replicate hmem)
    · exact .inl rfl
  · exact .inr (Array.eq_of_mem_replicate h)

theorem isFlat_lone {types : VoxelCatalogue}
    (hv : v.ramp = .none ∧ VoxelCatalogue.isRampCapable types v.kind = false)
    (hempty : VoxelCatalogue.isRampCapable types Voxel.empty.kind = false) :
    (lone d l v).IsFlat types := by
  intro x hx
  rcases mem_voxels_lone hx with rfl | rfl
  · exact hv
  · exact ⟨rfl, hempty⟩

theorem liquidTypes_lone : (lone d l v).liquidTypes = [] := by
  apply List.eq_nil_iff_forall_not_mem.mpr
  intro liquid hmem
  obtain ⟨c, hc, hwet, -⟩ := exists_wet_of_mem_liquidTypes hmem
  have hdry : c = .dry := by
    unfold lone setVoxel at hc
    split at hc <;> exact Array.eq_of_mem_replicate hc
  rw [hdry] at hwet
  cases hwet

end Grid

namespace Mesher

variable {m : Mesher} {q : Query} {a : Address} {origin : Pos} {d : Dims} {l : Local} {v : Voxel}

/-- A mesh is built if there is an answer for the one cell that is drawn. -/
theorem exists_faceMesh_lone (ho : a.origin d = .ok origin) (hl : d.Holds l)
    (hlayers : ∀ y < d.y, Coord.Fits (origin.y + y))
    (hcell : v.occludes = true → ∃ quads,
      m.cellQuads q origin (.lone d l v) m.settings.viewLimit l = .ok quads ∧ quads.length ≤ 6) :
    ∃ mesh, m.faceMesh q a (.lone d l v) = .ok mesh := by
  have hquads (l' : Local) (hl' : (Grid.lone d l v).dims.Holds l') : ∃ quads,
      m.cellQuads q origin (.lone d l v) m.settings.viewLimit l' = .ok quads ∧
        quads.length ≤ 6 := by
    by_cases hopen : ((Grid.lone d l v).voxel l').occludes = false
    · refine ⟨[], ?_, Nat.zero_le _⟩
      simp only [cellQuads, hopen, Bool.not_false, if_true]
      rfl
    · rw [Grid.dims_lone] at hl'
      rw [Grid.voxel_lone hl hl'] at hopen
      split at hopen
      · rename_i heq
        rw [heq]
        exact hcell (by simpa using hopen)
      · exact absurd Voxel.not_occludes_empty hopen
  have hheights : ∀ y ∈ List.range (Grid.lone d l v).dims.y, Coord.Fits (origin.y + y) := by
    rw [Grid.dims_lone]
    exact fun y hy => hlayers y (List.mem_range.mp hy)
  obtain ⟨quads, hcollect⟩ : ∃ quads, collectLayers origin.y m.settings.viewLimit
      (fun y => Checked.collect (m.cellQuads q origin (.lone d l v) m.settings.viewLimit)
        ((Grid.lone d l v).dims.layer y)) (List.range (Grid.lone d l v).dims.y) = .ok quads :=
    (exists_collectLayers hheights fun y hy => exists_layer hquads hy).imp fun _ h => h.1
  refine ⟨.filled quads, ?_⟩
  have ho' : a.origin (Grid.lone d l v).dims = .ok origin := by rw [Grid.dims_lone, ho]
  rw [faceMesh, ho', Checked.ok_bind]
  dsimp only
  rw [hcollect, Checked.ok_bind, Mesh.ofQuads_eq_ok]

theorem meshSet_lone {mesh : FaceMesh} (hwhole : m.settings.sliceMode = .whole)
    (h : m.faceMesh q a (.lone d l v) = .ok mesh) :
    m.meshSet q a (.lone d l v) = .ok ⟨.whole mesh, []⟩ := by
  rw [meshSet, solidMesh, hwhole, h, liquidMeshes, Grid.liquidTypes_lone]
  rfl

/-- A face toward some side is in the mesh exactly if that face of the voxel is seen. -/
theorem mem_faces_lone {mesh : FaceMesh} {f : Face} (hl : d.Holds l)
    (hreg : m.isRegistered v = true) (hlimit : m.settings.viewLimit = none)
    (ho : a.origin d = .ok origin) (h : m.faceMesh q a (.lone d l v) = .ok mesh) :
    (∃ x ∈ mesh.faces, x.direction = f) ↔
      (q.facesOf origin (.lone d l v) none l).contains f = true := by
  obtain ⟨origin', ho', rfl, -⟩ := faceMesh_eq_ok h
  obtain rfl : origin = origin' := by
    rw [Grid.dims_lone] at ho'
    exact Except.ok.inj (ho.symm.trans ho')
  rw [Mesh.faces_filled, hlimit]
  constructor
  · rintro ⟨x, hx, rfl⟩
    obtain ⟨quad, hquad, rfl⟩ := List.mem_map.mp hx
    obtain ⟨⟨l', f⟩, hmem, rfl⟩ := List.mem_map.mp hquad
    obtain ⟨hl', -, -, hf⟩ := mem_drawn.mp hmem
    rw [Grid.dims_lone] at hl'
    by_cases heq : l' = l
    · exact heq ▸ hf
    · rw [contains_facesOf, Grid.voxel_lone hl hl', if_neg heq] at hf
      cases hf
  · intro hf
    refine ⟨_, List.mem_map_of_mem (List.mem_map_of_mem (mem_drawn.mpr ⟨?_, rfl, ?_, hf⟩)), rfl⟩
    · rw [Grid.dims_lone]
      exact hl
    · rw [Grid.voxel_lone_self hl]
      exact hreg

end Mesher

/-! ### Marks of a chunk -/

namespace Chunk

variable (g : Grid) (flags : UInt8) (version generation n : Nat)

theorem bump_mk : bump flags n ⟨g, flags, version, generation⟩ =
    ⟨g, flags, version + n, generation⟩ := by
  unfold bump
  split
  · rename_i hn
    rw [hn, Nat.add_zero]
  · rw [markDirty, UInt8.or_self]

theorem enter_ofGrid :
    (ofGrid g).enter generation = ⟨g, meshDirty ||| rampDirty, 2, generation⟩ :=
  bump_mk g (meshDirty ||| rampDirty) 1 generation 1

theorem touch_mk : touch ⟨g, meshDirty, version, generation⟩ =
    ⟨g, meshDirty ||| rampDirty, version + 1, generation⟩ := by
  have hbits : meshDirty ||| (meshDirty ||| rampDirty) = meshDirty ||| rampDirty := by decide
  rw [touch, markDirty, hbits]

theorem clearDirty_mk : clearDirty ⟨g, meshDirty ||| rampDirty, version, generation⟩ rampDirty =
    ⟨g, meshDirty, version, generation⟩ := by
  have hbits : (meshDirty ||| rampDirty) &&& ~~~ rampDirty = meshDirty := by decide
  rw [clearDirty, hbits]

theorem clearDirty_mesh : clearDirty ⟨g, meshDirty, version, generation⟩ meshDirty =
    ⟨g, 0, version, generation⟩ := by
  have hbits : meshDirty &&& ~~~ meshDirty = 0 := by decide
  rw [clearDirty, hbits]

theorem clearDirty_of_clean {c : Chunk} (h : c.isDirty rampDirty = false) :
    c.clearDirty rampDirty = c := by
  have hbits (b : UInt8) : (b &&& rampDirty == rampDirty) = false → b &&& ~~~ rampDirty = b := by
    obtain ⟨b⟩ := b
    revert b
    decide
  rw [clearDirty, hbits c.dirty h]

end Chunk

/-! ### Operations that are done -/

namespace World

variable {types : VoxelCatalogue} {w w' : World} {a : Address} {c : Chunk}

theorem touchAll_eq {as : List Address} (hdims : w'.dims = w.dims)
    (hnext : w'.nextGeneration = w.nextGeneration) (hchunks : ∀ b,
      (w.chunk? b).map (Chunk.bump (meshDirty ||| rampDirty) (as.count b)) = w'.chunk? b) :
    w.touchAll as = w' := by
  have hbump : w.touchAll as = w.bumpAll (meshDirty ||| rampDirty) as := rfl
  rw [hbump]
  apply ext_chunk?
  · rw [dims_bumpAll, hdims]
  · rw [nextGeneration_bumpAll, hnext]
  · intro b
    rw [chunk?_bumpAll, hchunks]

theorem load_eq {ns : List Address} (hdims : c.grid.dims = w.dims) (hns : a.neighbors = .ok ns) :
    w.perform types (.load a c) = .ok ((w.entered a c).touchAll ns) := by
  have hsize : ¬ c.grid.dims ≠ w.dims := not_not.mpr hdims
  rw [perform, load, if_neg hsize, hns]
  rfl

/-- A ramp pass over a flat chunk takes off the mark and does nothing else. -/
theorem resolveRamps_of_flat {origin : Pos} (ho : a.origin w.dims = .ok origin)
    (hc : w.chunk? a = some c)
    (hcells : ∀ l, c.grid.dims.Holds l → ∃ p, origin.plus l.toPos = .ok p)
    (hflat : c.grid.IsFlat types) :
    w.perform types (.resolveRamps a) = .ok (w.modifyChunk a fun _ => c.clearDirty rampDirty) := by
  have hmasks : w.query.rampsOf types origin c.grid =
      .ok (c.grid.dims.cells.map fun _ => RampMask.none) := by
    apply Checked.mapM_eq_ok
    intro l hl
    obtain ⟨p, hp⟩ := hcells l (Dims.mem_cells.mp hl)
    rw [hp, Checked.ok_bind, Query.rampAt, Query.isSlopable]
    simp only [(hflat _ (Grid.voxel_mem (Dims.mem_cells.mp hl))).2, Bool.and_false]
    rfl
  have hsame : c.grid.changedRamps (c.grid.dims.cells.map fun _ => RampMask.none).toArray = [] := by
    apply List.eq_nil_iff_forall_not_mem.mpr
    intro i hi
    obtain ⟨v, mask, hv, hmask, hne⟩ := Grid.mem_changedRamps.mp hi
    have hnone : mask = .none := by
      simp only [List.getElem?_toArray, List.getElem?_map] at hmask
      obtain ⟨-, -, rfl⟩ := Option.map_eq_some_iff.mp hmask
      rfl
    exact hne ((hflat v (Array.mem_of_getElem? hv)).1.trans hnone.symm)
  simp only [perform, resolveRamps, ho, Checked.ok_bind, hc, hmasks, Chunk.applyRamps, hsame]
  rfl

theorem resolveDirtyRamps_eq (h : (w.dirtyAddresses rampDirty).foldlM
    (fun w a => w.perform types (.resolveRamps a)) w = .ok w') :
    w.perform types .resolveDirtyRamps = .ok w' := by
  show ((w.dirtyAddresses rampDirty).foldlM (fun w a => w.perform types (.resolveRamps a)) w >>=
    _) >>= _ = _
  rw [h]
  rfl

end World

namespace Store

variable {s : Store} {w : World} {p : Pipeline} {a : Address} {c : Chunk}

theorem put_put (s : Store) (a : Address) (st st' : BuildState) :
    (s.put a st).put a st' = s.put a st' := by
  unfold put
  congr 1
  apply Std.ExtTreeMap.ext_getElem?
  intro b
  simp only [Std.ExtTreeMap.getElem?_insert]
  split <;> rfl

theorem visit_of_shown {report : ScheduleReport} (hc : w.chunk? a = some c)
    (hramps : c.isDirty rampDirty = false)
    (hst : s.state? a = some ⟨c.version, c.generation, false⟩) :
    Pass.visit ⟨report, s, w, p⟩ a = .ok ⟨report.count .upToDate, s, w.unmark a, p⟩ := by
  simp only [Pass.visit, request_of_shown hc hramps hst]
  rfl

end Store

namespace Scene

variable {types : VoxelCatalogue} {m : Mesher} {w w' : World} {s : Store} {p : Pipeline}
  {taken : List BuildResult} {a : Address} {c : Chunk} {ms : MeshSet}

theorem run_cons {action : Action} {actions : List Action} {s s' : Scene}
    (h : s.perform action = .ok s') :
    (action :: actions).foldlM Scene.perform s = actions.foldlM Scene.perform s' := by
  rw [List.foldlM_cons, h, Checked.ok_bind]

theorem run_edits {es : List World.Edit} (h : es.foldlM (World.perform types) w = .ok w') :
    (es.map (Action.edit types)).foldlM Scene.perform ⟨w, s, p, taken⟩ =
      .ok ⟨w', s, p, taken⟩ := by
  induction es generalizing w with
  | nil =>
    obtain rfl := Checked.pure_eq_ok_iff.mp h
    rfl
  | cons e es ih =>
    rw [List.foldlM_cons] at h
    obtain ⟨w₁, he, h⟩ := Checked.bind_eq_ok_iff.mp h
    have hstep : Scene.perform ⟨w, s, p, taken⟩ (.edit types e) = .ok ⟨w₁, s, p, taken⟩ := by
      rw [Scene.perform, he]
      rfl
    rw [List.map_cons, run_cons hstep, ih h]

/-- A build is asked for and seen through until its mesh is on show. -/
def seeThrough (a : Address) : List Action := [.request a, .receive, .handIn 0, .release, .collect]

/-- The first build of a load, with nothing else on its way. -/
theorem run_seeThrough (hc : w.chunk? a = some c) (hramps : c.isDirty rampDirty = false)
    (hnew : s.state? a = none) (hv : c.version ≠ 0) (hms : w.meshOf m a = .ok (some ms)) :
    (seeThrough a).foldlM Scene.perform ⟨w, s, .start 1 1 m, []⟩ =
      .ok ⟨w, (s.put a ⟨c.version, c.generation, false⟩).display a ms, .start 1 1 m, []⟩ := by
  obtain ⟨snapshot, hcapture, hbuild⟩ :
      ∃ snapshot, Snapshot.capture w a = .ok (some snapshot) ∧ m.build snapshot = .ok ms := by
    obtain ⟨captured, hcapture, hms⟩ := Checked.bind_eq_ok_iff.mp hms
    cases captured with
    | none => cases Checked.pure_eq_ok_iff.mp hms
    | some snapshot =>
      obtain ⟨built, hbuild, hms⟩ := Checked.bind_eq_ok_iff.mp hms
      obtain rfl := Option.some.inj (Checked.pure_eq_ok_iff.mp hms)
      exact ⟨snapshot, hcapture, hbuild⟩
  have henter : s.enter a c.generation = (.fresh c.generation, s.put a (.fresh c.generation)) := by
    rw [Store.enter, hnew]
    rfl
  have hstale : (BuildState.fresh c.generation).isStale c.version = true := by
    simp [BuildState.fresh, BuildState.isStale, hv.symm]
  have hrun : BuildTask.run ⟨a, snapshot, c.version, c.generation⟩ m =
      .ok ⟨a, ms, c.version, c.generation⟩ := by
    rw [BuildTask.run, hbuild]
    rfl
  have hrequest : Scene.perform ⟨w, s, .start 1 1 m, []⟩ (.request a) =
      .ok ⟨w, s.put a ⟨0, c.generation, true⟩,
        ⟨m, 1, 1, true, 1, [⟨a, snapshot, c.version, c.generation⟩], [], 0, []⟩, []⟩ := by
    rw [Scene.perform, Store.request, hc, ← s.put_put a (.fresh c.generation)]
    simp only [hramps, henter, hstale, hcapture]
    rfl
  have hhandIn : Scene.perform ⟨w, s.put a ⟨0, c.generation, true⟩,
        ⟨m, 1, 1, true, 1, [], [⟨a, snapshot, c.version, c.generation⟩], 0, []⟩, []⟩ (.handIn 0) =
      .ok ⟨w, s.put a ⟨0, c.generation, true⟩,
        ⟨m, 1, 1, true, 1, [], [], 1, [⟨a, ms, c.version, c.generation⟩]⟩, []⟩ := by
    simp only [Scene.perform, Pipeline.handIn, List.getElem?_cons_zero, hrun]
    rfl
  have hpublish : (s.put a ⟨0, c.generation, true⟩).publish w ⟨a, ms, c.version, c.generation⟩ =
      (true, (s.put a ⟨c.version, c.generation, false⟩).display a ms) := by
    rw [← s.put_put a ⟨0, c.generation, true⟩ ⟨c.version, c.generation, false⟩, Store.publish, hc,
      Store.state?_put, if_pos rfl]
    simp only [Option.any_some, beq_self_eq_true, if_true, Option.getD_some, Nat.not_lt_zero,
      if_false]
    rfl
  have hcollect : Scene.perform ⟨w, s.put a ⟨0, c.generation, true⟩,
        ⟨m, 1, 1, true, 0, [], [], 0, [⟨a, ms, c.version, c.generation⟩]⟩, []⟩ .collect =
      .ok ⟨w, (s.put a ⟨c.version, c.generation, false⟩).display a ms, .start 1 1 m, []⟩ := by
    simp only [Scene.perform, Store.collect, Pipeline.drain, Store.publishAll, List.foldl_cons,
      List.foldl_nil, hpublish]
    rfl
  refine (run_cons hrequest).trans ((run_cons rfl).trans ?_)
  exact (run_cons hhandIn).trans ((run_cons rfl).trans (run_cons hcollect))

end Scene

/-! ### Two wide chunks -/

/-- One cell more along x than there are coordinates from 0 on. -/
def Dims.wide : Dims := .ofSizes 2147483648 1 1

/-- The last cell of a wide chunk. -/
def Local.edge : Local := ⟨2147483647, 0, 0⟩

namespace World

variable {types : VoxelCatalogue} {c d : Chunk} {g h : Grid}

/-- A wide chunk by itself. -/
def alone (c : Chunk) : World := ⟨.wide, (∅ : Std.ExtTreeMap Address Chunk).insert ⟨0, 0, 0⟩ c, 2⟩

/-- A wide chunk with the next one. -/
def pair (c d : Chunk) : World := ⟨.wide, (alone c).chunks.insert ⟨1, 0, 0⟩ d, 3⟩

theorem dims_pair : (pair c d).dims = .wide := rfl

theorem chunk?_alone (b : Address) :
    (alone c).chunk? b = if (⟨0, 0, 0⟩ : Address) = b then some c else none := by
  simp only [alone, chunk?, Std.ExtTreeMap.getElem?_insert, Std.LawfulEqOrd.compare_eq_iff_eq,
    Std.ExtTreeMap.getElem?_empty]

theorem chunk?_pair (b : Address) :
    (pair c d).chunk? b = if (⟨1, 0, 0⟩ : Address) = b then some d else (alone c).chunk? b := by
  simp only [pair, chunk?, Std.ExtTreeMap.getElem?_insert, Std.LawfulEqOrd.compare_eq_iff_eq]

/-- What holds of both chunks holds of every loaded one. -/
theorem forall_pair {P : Chunk → Prop} (hc : P c) (hd : P d) {b : Address} {c' : Chunk}
    (hb : (pair c d).chunk? b = some c') : P c' := by
  rw [chunk?_pair, chunk?_alone] at hb
  split at hb
  · exact Option.some.inj hb ▸ hd
  · split at hb
    · exact Option.some.inj hb ▸ hc
    · cases hb

theorem uniform_pair (hc : c.grid.dims = .wide) (hd : d.grid.dims = .wide) : (pair c d).Uniform :=
  fun _ _ => forall_pair (P := fun c => c.grid.dims = .wide) hc hd

theorem modifyChunk_near (f : Chunk → Chunk) :
    (pair c d).modifyChunk ⟨0, 0, 0⟩ f = pair (f c) d := rfl

theorem modifyChunk_far (f : Chunk → Chunk) :
    (pair c d).modifyChunk ⟨1, 0, 0⟩ f = pair c (f d) := rfl

theorem touchAll_alone (as : List Address) : (alone c).touchAll as =
    alone (c.bump (meshDirty ||| rampDirty) (as.count ⟨0, 0, 0⟩)) := by
  refine touchAll_eq rfl rfl fun b => ?_
  rw [chunk?_alone, chunk?_alone]
  split
  · rename_i hb
    rw [hb]
    rfl
  · rfl

theorem touchAll_pair (as : List Address) : (pair c d).touchAll as =
    pair (c.bump (meshDirty ||| rampDirty) (as.count ⟨0, 0, 0⟩))
      (d.bump (meshDirty ||| rampDirty) (as.count ⟨1, 0, 0⟩)) := by
  refine touchAll_eq rfl rfl fun b => ?_
  rw [chunk?_pair, chunk?_pair, chunk?_alone, chunk?_alone]
  split
  · rename_i hb
    rw [hb]
    rfl
  · split
    · rename_i hb
      rw [hb]
      rfl
    · rfl

theorem dirtyAddresses_pair (flags : UInt8) : (pair c d).dirtyAddresses flags =
    (if c.isDirty flags then [⟨0, 0, 0⟩] else []) ++
      if d.isDirty flags then [⟨1, 0, 0⟩] else [] := by
  have hlist : (pair c d).chunks.toList = [(⟨0, 0, 0⟩, c), (⟨1, 0, 0⟩, d)] := rfl
  rw [dirtyAddresses, hlist]
  cases hc : c.isDirty flags <;> cases hd : d.isDirty flags <;> simp [hc, hd]

theorem load_near (hg : g.dims = .wide) :
    (World.empty .wide).perform types (.load ⟨0, 0, 0⟩ (.ofGrid g)) =
      .ok (alone ⟨g, meshDirty ||| rampDirty, 2, 1⟩) := by
  obtain ⟨ns, hns, hself⟩ : ∃ ns, Address.neighbors ⟨0, 0, 0⟩ = .ok ns ∧ ns.count ⟨0, 0, 0⟩ = 0 :=
    ⟨_, rfl, by decide⟩
  rw [load_eq hg hns, entered, Chunk.enter_ofGrid]
  show Except.ok ((alone ⟨g, meshDirty ||| rampDirty, 2, 1⟩).touchAll ns) = _
  rw [touchAll_alone, hself, Chunk.bump_zero]

theorem load_far (hh : h.dims = .wide) :
    (alone ⟨g, meshDirty ||| rampDirty, 2, 1⟩).perform types (.load ⟨1, 0, 0⟩ (.ofGrid h)) =
      .ok (pair ⟨g, meshDirty ||| rampDirty, 3, 1⟩ ⟨h, meshDirty ||| rampDirty, 2, 2⟩) := by
  obtain ⟨ns, hns, hself, hother⟩ : ∃ ns, Address.neighbors ⟨1, 0, 0⟩ = .ok ns ∧
      ns.count ⟨1, 0, 0⟩ = 0 ∧ ns.count ⟨0, 0, 0⟩ = 1 := ⟨_, rfl, by decide, by decide⟩
  rw [load_eq hh hns, entered, Chunk.enter_ofGrid]
  show Except.ok ((pair ⟨g, meshDirty ||| rampDirty, 2, 1⟩
    ⟨h, meshDirty ||| rampDirty, 2, 2⟩).touchAll ns) = _
  rw [touchAll_pair, hself, hother, Chunk.bump_zero, Chunk.bump_mk]

theorem origin_near : Address.origin ⟨0, 0, 0⟩ Dims.wide = .ok ⟨0, 0, 0⟩ := by decide +kernel

theorem origin_far : Address.origin ⟨1, 0, 0⟩ Dims.wide = .ok ⟨-2147483648, 0, 0⟩ := by
  decide +kernel

theorem quotRem_left :
    Pos.quotRem ⟨-1, 0, 0⟩ Dims.wide.extent = .ok (⟨1, 0, 0⟩, ⟨2147483647, 0, 0⟩) := by
  decide +kernel

/-- The write goes to the last cell of the second chunk, and asks for the second and the third
chunk. -/
theorem setVoxel_left (hd : d.grid.dims = .wide) (v : Voxel) :
    (pair c d).perform types (.setVoxel ⟨-1, 0, 0⟩ v) =
      .ok (pair c { d with grid := d.grid.setVoxel .edge v }.touch) := by
  have hlocate : (pair c d).locate ⟨-1, 0, 0⟩ = .ok (⟨1, 0, 0⟩, .edge) := by
    rw [locate, dims_pair, quotRem_left]
    rfl
  have hwrite : d.setVoxel? .edge v = some { d with grid := d.grid.setVoxel .edge v }.touch := by
    rw [Chunk.setVoxel?, Grid.setVoxel?, hd, if_pos (by decide)]
    rfl
  obtain ⟨rs, hrs, hnear, hfar⟩ : ∃ rs, Address.readers ⟨1, 0, 0⟩ .edge .wide = .ok rs ∧
      (rs.drop 1).count ⟨0, 0, 0⟩ = 0 ∧ (rs.drop 1).count ⟨1, 0, 0⟩ = 0 :=
    ⟨_, rfl, by decide, by decide⟩
  have hloaded : ¬ (!(pair c d).isLoaded ⟨1, 0, 0⟩) = true := by simp [isLoaded, chunk?_pair]
  have hset : (pair c d).setVoxel ⟨-1, 0, 0⟩ v =
      .ok (some (pair c { d with grid := d.grid.setVoxel .edge v }.touch)) := by
    rw [setVoxel, hlocate, Checked.ok_bind]
    dsimp only
    rw [if_neg hloaded, dims_pair, hrs, Checked.ok_bind, modifyChunk_far, hwrite, Option.getD_some,
      touchAll_pair, hnear, hfar]
    rfl
  rw [perform, after, hset]
  rfl

/-- All cells of the two chunks have a position. -/
theorem exists_plus_wide {x : Int} (hx : x = 0 ∨ x = -2147483648) {l : Local}
    (hl : Dims.wide.Holds l) : ∃ p, Pos.plus ⟨x, 0, 0⟩ l.toPos = .ok p := by
  have hfits : Pos.Fits ⟨x + l.x, 0 + l.y, 0 + l.z⟩ := by
    obtain ⟨hlx, hly, hlz⟩ : l.x < 2147483648 ∧ l.y < 1 ∧ l.z < 1 := hl
    simp only [Pos.Fits, Coord.Fits, Coord.least, Coord.greatest]
    omega
  exact ⟨_, Pos.plus_eq_ok_iff.mpr ⟨rfl, hfits⟩⟩

theorem resolveDirtyRamps_pair (hc : c.grid.dims = .wide) (hd : d.grid.dims = .wide)
    (hcflat : c.grid.IsFlat types) (hdflat : d.grid.IsFlat types) :
    (pair c d).perform types .resolveDirtyRamps =
      .ok (pair (c.clearDirty rampDirty) (d.clearDirty rampDirty)) := by
  have hnear (d : Chunk) : (pair c d).perform types (.resolveRamps ⟨0, 0, 0⟩) =
      .ok ((pair c d).modifyChunk ⟨0, 0, 0⟩ fun _ => c.clearDirty rampDirty) :=
    resolveRamps_of_flat origin_near rfl (fun _ hl => exists_plus_wide (.inl rfl) (hc ▸ hl)) hcflat
  have hfar (c : Chunk) : (pair c d).perform types (.resolveRamps ⟨1, 0, 0⟩) =
      .ok ((pair c d).modifyChunk ⟨1, 0, 0⟩ fun _ => d.clearDirty rampDirty) :=
    resolveRamps_of_flat origin_far rfl (fun _ hl => exists_plus_wide (.inr rfl) (hd ▸ hl)) hdflat
  apply resolveDirtyRamps_eq
  rw [dirtyAddresses_pair]
  cases hcd : c.isDirty rampDirty with
  | true =>
    rw [if_pos rfl, List.cons_append, List.nil_append, List.foldlM_cons, hnear, Checked.ok_bind,
      modifyChunk_near]
    cases hdd : d.isDirty rampDirty with
    | true =>
      rw [if_pos rfl, List.foldlM_cons, hfar, Checked.ok_bind, modifyChunk_far]
      rfl
    | false =>
      rw [Chunk.clearDirty_of_clean hdd]
      rfl
  | false =>
    rw [Chunk.clearDirty_of_clean hcd]
    cases hdd : d.isDirty rampDirty with
    | true =>
      rw [if_pos rfl, if_neg Bool.false_ne_true, List.nil_append, List.foldlM_cons, hfar,
        Checked.ok_bind, modifyChunk_far]
      rfl
    | false =>
      rw [Chunk.clearDirty_of_clean hdd]
      rfl

/-! ### Their meshes -/

variable {s : Snapshot}

/-- The cells around the first one all have a place in the lattice of chunks. -/
theorem exists_locate (hs : s.IsOf (pair c d) ⟨0, 0, 0⟩) {p : Pos}
    (hp : p.Near ⟨0, 0, 0⟩ (.cube 1)) : ∃ found, s.locate p = .ok found := by
  have hsteps : p.x ∈ Address.axisSteps ∧ p.y ∈ Address.axisSteps ∧ p.z ∈ Address.axisSteps := by
    simp only [Pos.Near, Dims.cube, Dims.ofSizes] at hp
    simp only [Address.mem_axisSteps]
    omega
  have hall : ∀ x ∈ Address.axisSteps, ∀ y ∈ Address.axisSteps, ∀ z ∈ Address.axisSteps,
      Checked.passes (do Pos.quotRem (← Pos.minus ⟨x, y, z⟩ ⟨0, 0, 0⟩) Dims.wide.extent)
        (fun _ => true) = true := by
    decide +kernel
  obtain ⟨parts, hparts, -⟩ := Checked.exists_of_passes
    (hall p.x hsteps.1 p.y hsteps.2.1 p.z hsteps.2.2)
  obtain ⟨rel, hrel, hparts⟩ := Checked.bind_eq_ok_iff.mp hparts
  rw [Snapshot.locate_of_isOf hs, dims_pair, origin_near, Checked.ok_bind, hrel, Checked.ok_bind,
    hparts]
  exact ⟨_, rfl⟩

theorem sees_near (hs : s.IsOf (pair c d) ⟨0, 0, 0⟩) : s.query.Sees ⟨0, 0, 0⟩ (.cube 1) := by
  refine ⟨by decide, fun p hp => ?_, fun p hp => ?_⟩
  · simp only [Pos.Near, Dims.cube, Dims.ofSizes] at hp
    simp only [Pos.Fits, Coord.Fits, Coord.least, Coord.greatest]
    omega
  · obtain ⟨found, hfound⟩ := exists_locate hs hp
    refine ⟨found.bind fun x => x.1.voxel? x.2, ?_⟩
    show s.voxelAt p = _
    rw [Snapshot.voxelAt, hfound]
    rfl

/-- The cell to the left of the first one is the last cell of the next chunk. -/
theorem voxelAt_left (hs : s.IsOf (pair c d) ⟨0, 0, 0⟩) (hd : d.grid.dims = .wide) :
    s.query.voxelAt (Face.left.across ⟨0, 0, 0⟩) = .ok (some (d.grid.voxel .edge)) := by
  have hrel : Pos.minus ⟨-1, 0, 0⟩ ⟨0, 0, 0⟩ = .ok ⟨-1, 0, 0⟩ := by decide +kernel
  have hplace : slot? 1 0 0 = some 14 := by decide
  have hedge : d.grid.voxel? .edge = some (d.grid.voxel .edge) :=
    Grid.voxel?_of_holds (hd ▸ (by decide))
  show s.voxelAt ⟨-1, 0, 0⟩ = _
  rw [Snapshot.voxelAt, Snapshot.locate_of_isOf hs, dims_pair, origin_near, Checked.ok_bind, hrel,
    Checked.ok_bind, quotRem_left, Checked.ok_bind]
  dsimp only
  rw [hplace]
  exact congrArg Except.ok hedge

/-- The left face of the first voxel is drawn unless the next chunk ends in a voxel that occludes.
-/
theorem exists_meshOf_near (hc : c.grid = .lone .wide ⟨0, 0, 0⟩ (.ofKind 1))
    (hd : d.grid.dims = .wide) (hflat : (d.grid.voxel .edge).ramp = .none) :
    ∃ mesh, (pair c d).meshOf Mesher.pillarMesher ⟨0, 0, 0⟩ = .ok (some ⟨.whole mesh, []⟩) ∧
      ((∃ x ∈ mesh.faces, x.direction = .left) ↔ (d.grid.voxel .edge).occludes = false) := by
  obtain ⟨s, hs⟩ := exists_capture (w := pair c d) (a := ⟨0, 0, 0⟩) rfl rfl
  have hdims : c.grid.dims = .wide := by rw [hc, Grid.dims_lone]
  have hof := Snapshot.isOf_capture (uniform_pair hdims hd) hs
  have hcenter : s.center = .lone .wide ⟨0, 0, 0⟩ (.ofKind 1) :=
    (Option.some.inj hof.center).symm.trans hc
  have hfirst : Dims.wide.Holds ⟨0, 0, 0⟩ := by decide
  have hown : (Grid.lone .wide ⟨0, 0, 0⟩ (.ofKind 1)).voxel ⟨0, 0, 0⟩ = .ofKind 1 :=
    Grid.voxel_lone_self hfirst
  have hin : Pos.Inside ⟨0, 0, 0⟩ ⟨0, 0, 0⟩ (.cube 1) :=
    ⟨⟨by decide, by decide⟩, ⟨by decide, by decide⟩, by decide, by decide⟩
  obtain ⟨faces, hfaces⟩ := (sees_near hof).exists_visibleFaces hin (.ofKind 1) none
  -- Only the first cell is drawn, so it is enough that the cells around it can be looked up.
  obtain ⟨mesh, hmesh⟩ := Mesher.exists_faceMesh_lone (m := .pillarMesher) (q := s.query)
    (v := .ofKind 1) origin_near hfirst (by decide) fun _ => by
      obtain ⟨quads, hquads, hlen⟩ := Mesher.exists_quads .pillarMesher (g := .blank (.cube 1))
        (l := ⟨0, 0, 0⟩) (sees_near hof) (by decide) (.ofKind 1) faces
      have hsolid : ¬ (!(Voxel.ofKind 1).occludes) = true := by decide
      have hplus : Pos.plus ⟨0, 0, 0⟩ (Local.toPos ⟨0, 0, 0⟩) = .ok ⟨0, 0, 0⟩ := by decide +kernel
      refine ⟨quads, ?_, hlen⟩
      rw [Mesher.cellQuads, hown, if_neg hsolid, hplus, Checked.ok_bind]
      exact (congrArg (· >>= _) hfaces).trans hquads
  refine ⟨mesh, ?_, ?_⟩
  · rw [meshOf_of_capture hs, Mesher.build, hof.address, hcenter, Mesher.meshSet_lone rfl hmesh]
    rfl
  · have hdrawn : s.query.facesOf ⟨0, 0, 0⟩ (.lone .wide ⟨0, 0, 0⟩ (.ofKind 1)) none ⟨0, 0, 0⟩ =
        faces := Query.facesOf_eq (by rw [hown]; exact hfaces)
    have hleft (x : Option Voxel) (hx : s.query.voxelAt (Face.left.across ⟨0, 0, 0⟩) = .ok x) :
        x = some (d.grid.voxel .edge) :=
      Except.ok.inj (hx.symm.trans (voxelAt_left hof hd))
    have hexposed : Face.left.isExposed (Voxel.ofKind 1).ramp .none = false := by decide
    have hsolid : (Voxel.ofKind 1).occludes = true := by decide
    rw [Mesher.mem_faces_lone hfirst (by decide) rfl origin_near hmesh, hdrawn,
      Query.contains_visibleFaces hleft (by decide) hfaces, hflat, hexposed, hsolid,
      Bool.true_and, Bool.or_false, Bool.not_eq_true']

/-- Nothing is drawn of the next chunk once its voxel is gone. -/
theorem exists_meshOf_far (hc : c.grid.dims = .wide) (hd : d.grid = .lone .wide .edge .empty) :
    ∃ ms, (pair c d).meshOf Mesher.pillarMesher ⟨1, 0, 0⟩ = .ok (some ms) := by
  obtain ⟨s, hs⟩ := exists_capture (w := pair c d) (a := ⟨1, 0, 0⟩) rfl rfl
  have hdims : d.grid.dims = .wide := by rw [hd, Grid.dims_lone]
  have hof := Snapshot.isOf_capture (uniform_pair hc hdims) hs
  have hcenter : s.center = .lone .wide .edge .empty :=
    (Option.some.inj hof.center).symm.trans hd
  obtain ⟨mesh, hmesh⟩ := Mesher.exists_faceMesh_lone (m := .pillarMesher) (q := s.query)
    (v := .empty) (l := .edge) origin_far (by decide) (by decide) fun hsolid => by cases hsolid
  refine ⟨⟨.whole mesh, []⟩, ?_⟩
  rw [meshOf_of_capture hs, Mesher.build, hof.address, hcenter, Mesher.meshSet_lone rfl hmesh]
  rfl

end World

/-! ### The run -/

namespace Scene

open Mesher (pillarMesher)

theorem voxel_edge (v : Voxel) : (Grid.lone .wide .edge v).voxel .edge = v :=
  Grid.voxel_lone_self (by decide)

/-- Two wide chunks are loaded, one with a voxel in its first cell and one with a voxel to the left
of it. The first is shown, and then the voxel in the other is taken away. -/
def borderWrite : List Action :=
  [.load ⟨0, 0, 0⟩ (.ofGrid (.lone .wide ⟨0, 0, 0⟩ (.ofKind 1))),
    .load ⟨1, 0, 0⟩ (.ofGrid (.lone .wide .edge (.ofKind 1))),
    .resolveDirtyRamps].map (Action.edit pillarMesher.voxelTypes) ++ seeThrough ⟨0, 0, 0⟩ ++
  [.setVoxel ⟨-1, 0, 0⟩ .empty].map (Action.edit pillarMesher.voxelTypes)

/-- Then all that is marked is brought up to date. -/
def settling : List Action :=
  [.resolveDirtyRamps].map (Action.edit pillarMesher.voxelTypes) ++ seeThrough ⟨1, 0, 0⟩ ++
    [.schedule]

/-- Only the second chunk is asked for. The mesh on show is without the left face. -/
theorem run_borderWrite : ∃ mesh : FaceMesh,
    borderWrite.foldlM Scene.perform (start .wide 1 1 pillarMesher) =
      .ok ⟨.pair ⟨.lone .wide ⟨0, 0, 0⟩ (.ofKind 1), meshDirty, 3, 1⟩
          ⟨.lone .wide .edge .empty, meshDirty ||| rampDirty, 3, 2⟩,
        (Store.empty.put ⟨0, 0, 0⟩ ⟨3, 1, false⟩).display ⟨0, 0, 0⟩ ⟨.whole mesh, []⟩,
        .start 1 1 pillarMesher, []⟩ ∧ ¬ ∃ x ∈ mesh.faces, x.direction = .left := by
  have hopened : [.load ⟨0, 0, 0⟩ (.ofGrid (.lone .wide ⟨0, 0, 0⟩ (.ofKind 1))),
      .load ⟨1, 0, 0⟩ (.ofGrid (.lone .wide .edge (.ofKind 1))), .resolveDirtyRamps].foldlM
        (World.perform pillarMesher.voxelTypes) (.empty .wide) =
      .ok (.pair ⟨.lone .wide ⟨0, 0, 0⟩ (.ofKind 1), meshDirty, 3, 1⟩
        ⟨.lone .wide .edge (.ofKind 1), meshDirty, 2, 2⟩) := by
    rw [List.foldlM_cons, World.load_near Grid.dims_lone, Checked.ok_bind, List.foldlM_cons,
      World.load_far Grid.dims_lone, Checked.ok_bind, List.foldlM_cons,
      World.resolveDirtyRamps_pair Grid.dims_lone Grid.dims_lone
        (Grid.isFlat_lone (by decide) (by decide)) (Grid.isFlat_lone (by decide) (by decide)),
      Chunk.clearDirty_mk, Chunk.clearDirty_mk]
    rfl
  obtain ⟨mesh, hmesh, hleft⟩ := World.exists_meshOf_near
    (c := ⟨.lone .wide ⟨0, 0, 0⟩ (.ofKind 1), meshDirty, 3, 1⟩)
    (d := ⟨.lone .wide .edge (.ofKind 1), meshDirty, 2, 2⟩) rfl Grid.dims_lone
    (by rw [voxel_edge]; rfl)
  have hwritten : [.setVoxel ⟨-1, 0, 0⟩ .empty].foldlM (World.perform pillarMesher.voxelTypes)
      (.pair ⟨.lone .wide ⟨0, 0, 0⟩ (.ofKind 1), meshDirty, 3, 1⟩
        ⟨.lone .wide .edge (.ofKind 1), meshDirty, 2, 2⟩) =
      .ok (.pair ⟨.lone .wide ⟨0, 0, 0⟩ (.ofKind 1), meshDirty, 3, 1⟩
        ⟨.lone .wide .edge .empty, meshDirty ||| rampDirty, 3, 2⟩) := by
    rw [List.foldlM_cons, World.setVoxel_left Grid.dims_lone, Checked.ok_bind, Grid.setVoxel_lone,
      Chunk.touch_mk]
    rfl
  refine ⟨mesh, ?_, ?_⟩
  · rw [borderWrite, List.foldlM_append, List.foldlM_append, start, run_edits hopened,
      Checked.ok_bind, run_seeThrough rfl rfl rfl (by decide) hmesh, Checked.ok_bind,
      run_edits hwritten]
  · rw [hleft, voxel_edge]
    decide

/-- With the voxel gone the left face is to be drawn, and a mesh without it is out of date. -/
theorem exists_newer_mesh {mesh : FaceMesh} (hnone : ¬ ∃ x ∈ mesh.faces, x.direction = .left)
    (b b' : UInt8) (v v' : Nat) : ∃ ms, (World.pair ⟨.lone .wide ⟨0, 0, 0⟩ (.ofKind 1), b, v, 1⟩
      ⟨.lone .wide .edge .empty, b', v', 2⟩).meshOf pillarMesher ⟨0, 0, 0⟩ = .ok (some ms) ∧
        ms ≠ ⟨.whole mesh, []⟩ := by
  obtain ⟨newer, hnewer, hleft⟩ := World.exists_meshOf_near
    (c := ⟨.lone .wide ⟨0, 0, 0⟩ (.ofKind 1), b, v, 1⟩)
    (d := ⟨.lone .wide .edge .empty, b', v', 2⟩) rfl Grid.dims_lone (by rw [voxel_edge]; rfl)
  refine ⟨_, hnewer, fun heq => hnone ?_⟩
  obtain rfl : newer = mesh := SolidMesh.whole.inj (congrArg MeshSet.solid heq)
  apply hleft.mpr
  rw [voxel_edge]
  rfl

/-- Chunks that are shown as they are lose their marks. -/
theorem schedule_pair {c d : Chunk} {s : Store} {p : Pipeline} {t : List BuildResult}
    (hc : c.isDirty meshDirty = true) (hcramps : c.isDirty rampDirty = false)
    (hcshown : s.state? ⟨0, 0, 0⟩ = some ⟨c.version, c.generation, false⟩)
    (hd : d.isDirty meshDirty = true) (hdramps : d.isDirty rampDirty = false)
    (hdshown : s.state? ⟨1, 0, 0⟩ = some ⟨d.version, d.generation, false⟩) :
    Scene.perform ⟨.pair c d, s, p, t⟩ .schedule =
      .ok ⟨.pair (c.clearDirty meshDirty) (d.clearDirty meshDirty), s, p, t⟩ := by
  have hnear (report : ScheduleReport) : Store.Pass.visit ⟨report, s, .pair c d, p⟩ ⟨0, 0, 0⟩ =
      .ok ⟨report.count .upToDate, s, .pair (c.clearDirty meshDirty) d, p⟩ :=
    Store.visit_of_shown rfl hcramps hcshown
  have hfar (report : ScheduleReport) (c : Chunk) :
      Store.Pass.visit ⟨report, s, .pair c d, p⟩ ⟨1, 0, 0⟩ =
        .ok ⟨report.count .upToDate, s, .pair c (d.clearDirty meshDirty), p⟩ :=
    Store.visit_of_shown rfl hdramps hdshown
  have hpass : s.schedule (.pair c d) p = .ok ⟨(ScheduleReport.count {} .upToDate).count .upToDate,
      s, .pair (c.clearDirty meshDirty) (d.clearDirty meshDirty), p⟩ := by
    rw [Store.schedule, World.dirtyAddresses_pair, if_pos hc, if_pos hd, List.cons_append,
      List.nil_append, List.foldlM_cons, hnear, Checked.ok_bind, List.foldlM_cons, hfar]
    rfl
  rw [Scene.perform, hpass]
  rfl

/-- The second chunk is built anew, and the first is found up to date. -/
theorem run_settling (ms : MeshSet) : ∃ ms' : MeshSet, settling.foldlM Scene.perform
      ⟨.pair ⟨.lone .wide ⟨0, 0, 0⟩ (.ofKind 1), meshDirty, 3, 1⟩
          ⟨.lone .wide .edge .empty, meshDirty ||| rampDirty, 3, 2⟩,
        (Store.empty.put ⟨0, 0, 0⟩ ⟨3, 1, false⟩).display ⟨0, 0, 0⟩ ms,
        .start 1 1 pillarMesher, []⟩ =
      .ok ⟨.pair ⟨.lone .wide ⟨0, 0, 0⟩ (.ofKind 1), 0, 3, 1⟩ ⟨.lone .wide .edge .empty, 0, 3, 2⟩,
        (((Store.empty.put ⟨0, 0, 0⟩ ⟨3, 1, false⟩).display ⟨0, 0, 0⟩ ms).put ⟨1, 0, 0⟩
          ⟨3, 2, false⟩).display ⟨1, 0, 0⟩ ms', .start 1 1 pillarMesher, []⟩ := by
  have hresolved : [.resolveDirtyRamps].foldlM (World.perform pillarMesher.voxelTypes)
      (.pair ⟨.lone .wide ⟨0, 0, 0⟩ (.ofKind 1), meshDirty, 3, 1⟩
        ⟨.lone .wide .edge .empty, meshDirty ||| rampDirty, 3, 2⟩) =
      .ok (.pair ⟨.lone .wide ⟨0, 0, 0⟩ (.ofKind 1), meshDirty, 3, 1⟩
        ⟨.lone .wide .edge .empty, meshDirty, 3, 2⟩) := by
    rw [List.foldlM_cons, World.resolveDirtyRamps_pair Grid.dims_lone Grid.dims_lone
        (Grid.isFlat_lone (by decide) (by decide)) (Grid.isFlat_lone (by decide) (by decide)),
      Chunk.clearDirty_mk, Chunk.clearDirty_of_clean rfl]
    rfl
  obtain ⟨ms', hms'⟩ := World.exists_meshOf_far
    (c := ⟨.lone .wide ⟨0, 0, 0⟩ (.ofKind 1), meshDirty, 3, 1⟩)
    (d := ⟨.lone .wide .edge .empty, meshDirty, 3, 2⟩) Grid.dims_lone rfl
  refine ⟨ms', ?_⟩
  rw [settling, List.foldlM_append, List.foldlM_append, run_edits hresolved, Checked.ok_bind,
    run_seeThrough rfl rfl rfl (by decide) hms', Checked.ok_bind]
  have hpass := schedule_pair (p := .start 1 1 pillarMesher) (t := [])
    (c := ⟨.lone .wide ⟨0, 0, 0⟩ (.ofKind 1), meshDirty, 3, 1⟩)
    (d := ⟨.lone .wide .edge .empty, meshDirty, 3, 2⟩)
    (s := (((Store.empty.put ⟨0, 0, 0⟩ ⟨3, 1, false⟩).display ⟨0, 0, 0⟩ ms).put ⟨1, 0, 0⟩
      ⟨3, 2, false⟩).display ⟨1, 0, 0⟩ ms') rfl rfl rfl rfl rfl rfl
  rw [Chunk.clearDirty_mesh, Chunk.clearDirty_mesh] at hpass
  exact run_cons hpass

end Scene

end VoxelScene
