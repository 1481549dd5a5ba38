import VoxelScene.Proofs.SolidFaces

/-!
Textures of meshes.

A catalogue refuses types that refer to textures outside its atlas, so all its types but the
reserved one refer to textures inside. A grid that passes validation holds registered types only.
Nothing is drawn of empty and dry cells, which are the ones of reserved type. It follows that a mesh
of such a grid leaves out no visible face for want of a type, and that its vertices refer to the
atlas.
-/

namespace VoxelScene

/-! ### Pieces of meshes -/

theorem Checked.mem_of_collect {α β : Type} {f : α → Checked (List β)} {xs : List α}
    {zs : List β} {z : β} (h : collect f xs = .ok zs) (hz : z ∈ zs) :
    ∃ x ys, f x = .ok ys ∧ z ∈ ys := by
  obtain ⟨pieces, hpieces, h⟩ := bind_eq_ok_iff.mp h
  obtain rfl := pure_eq_ok_iff.mp h
  obtain ⟨ys, hys, hz⟩ := List.mem_flatten.mp hz
  obtain ⟨x, -, hx⟩ := mem_of_mapM hpieces hys
  exact ⟨x, ys, hx, hz⟩

theorem mem_of_collectLayers {β : Type} {floor : Int} {limit : Option Int}
    {f : Nat → Checked (List β)} {ys : List Nat} {zs : List β} {z : β}
    (h : collectLayers floor limit f ys = .ok zs) (hz : z ∈ zs) :
    ∃ y here, f y = .ok here ∧ z ∈ here := by
  induction ys generalizing zs with
  | nil =>
    obtain rfl := Checked.pure_eq_ok_iff.mp h
    cases hz
  | cons y ys ih =>
    obtain ⟨above, -, h⟩ := Checked.bind_eq_ok_iff.mp h
    split at h
    · obtain rfl := Checked.pure_eq_ok_iff.mp h
      cases hz
    · obtain ⟨here, hhere, h⟩ := Checked.bind_eq_ok_iff.mp h
      obtain ⟨rest, hrest, h⟩ := Checked.bind_eq_ok_iff.mp h
      obtain rfl := Checked.pure_eq_ok_iff.mp h
      rcases List.mem_append.mp hz with hz | hz
      · exact ⟨y, here, hhere, hz⟩
      · exact ih hrest hz

theorem Loop.exists_of_mem_map {α β : Type} {k : α → β} {l : Loop α} {x : β}
    (h : x ∈ (l.map k).toList) : ∃ y, x = k y := by
  simp only [map, toList, List.mem_cons, List.not_mem_nil, or_false] at h
  rcases h with rfl | rfl | rfl | rfl <;> exact ⟨_, rfl⟩

/-! ### Catalogues -/

namespace Catalogue

variable {α ι : Type} [Catalogued α ι] {c : Catalogue α ι} {count : UInt16} {t : α}

@[simp] theorem size_push (c : Catalogue α ι) (t : α) : (c.push t).size = c.size + 1 :=
  Array.size_push t

theorem get?_push (c : Catalogue α ι) (t : α) (id : ι) :
    (c.push t).get? id = if Catalogued.place α id = c.size then some t else c.get? id :=
  Array.getElem?_push

theorem lt_size_of_get? {id : ι} (h : c.get? id = some t) : Catalogued.place α id < c.size :=
  (Array.getElem?_eq_some_iff.mp h).1

/-- A registration either changes nothing or gives out the next number. -/
theorem register_cases (c : Catalogue α ι) (t : α) :
    (∃ e, c.refusal? t = some e ∧ c.register t = (.error e, c)) ∨
      c.refusal? t = none ∧ c.register t = (.ok (Catalogued.number α c.size), c.push t) := by
  unfold register
  cases c.refusal? t with
  | some e => exact .inl ⟨e, rfl, rfl⟩
  | none => exact .inr ⟨rfl, rfl⟩

/-- What every accepted type keeps, every history keeps. -/
theorem registerEach_keeps {P : Catalogue α ι → Prop}
    (step : ∀ c t, P c → c.refusal? t = none → P (c.push t)) (h : P c) (ts : List α) :
    P (c.registerEach ts).2 := by
  induction ts generalizing c with
  | nil => exact h
  | cons t ts ih =>
    refine ih (c := (c.register t).2) ?_
    rcases c.register_cases t with ⟨e, -, heq⟩ | ⟨ht, heq⟩
    · rw [heq]
      exact h
    · rw [heq]
      exact step c t h ht

/-- All types but the reserved one refer to the first `count` textures. -/
structure InAtlas (c : Catalogue α ι) (count : UInt16) : Prop where
  textureCount : c.textureCount = count
  texture_lt : ∀ id t, 0 < Catalogued.place α id → c.get? id = some t →
    ∀ x ∈ Catalogued.textures t, x < count

theorem inAtlas_withTextureCount (count : UInt16) :
    (withTextureCount count : Catalogue α ι).InAtlas count := by
  refine ⟨rfl, fun id t hid ht => ?_⟩
  have hsmall : Catalogued.place α id < 1 := lt_size_of_get? ht
  omega

theorem texture_lt_of_refusal? (h : c.refusal? t = none) :
    ∀ x ∈ Catalogued.textures t, x < c.textureCount := by
  unfold refusal? at h
  dsimp only at h
  split at h
  · cases h
  · split at h
    · cases h
    · have hfind := List.find?_eq_none.mp (Option.map_eq_none_iff.mp h)
      intro x hx
      simpa using hfind x hx

theorem InAtlas.push (h : c.InAtlas count) (ht : c.refusal? t = none) :
    (c.push t).InAtlas count := by
  refine ⟨h.textureCount, fun id t' hid ht' => ?_⟩
  rw [get?_push] at ht'
  split at ht'
  · obtain rfl := Option.some.inj ht'
    rw [← h.textureCount]
    exact texture_lt_of_refusal? ht
  · exact h.texture_lt id t' hid ht'

theorem InAtlas.registerEach (h : c.InAtlas count) (ts : List α) :
    (c.registerEach ts).2.InAtlas count :=
  registerEach_keeps (P := (InAtlas · count)) (fun _ _ h ht => h.push ht) h ts

end Catalogue

/-- The textures of a type's faces are among those it is checked for. -/
theorem VoxelType.ofFace_mem_textures (t : VoxelType) (ramped : Bool) (f : Face) :
    (t.texturesFor ramped).ofFace f ∈ Catalogued.textures t := by
  have hmem (x : FaceTextures) : x.ofFace f ∈ x.toList := by
    cases f <;> simp [FaceTextures.ofFace, FaceTextures.toList]
  show _ ∈ t.textures.toList ++ (t.rampTextures.map FaceTextures.toList).getD []
  rw [List.mem_append, texturesFor]
  cases ramped with
  | false => exact .inl (hmem _)
  | true =>
    cases t.rampTextures with
    | none => exact .inl (hmem _)
    | some x => exact .inr (hmem _)

/-! ### Validated grids -/

namespace Grid

variable {g : Grid} {l : Local}

theorem voxel_mem (hl : g.dims.Holds l) : g.voxel l ∈ g.voxels := by
  have h := voxel?_of_holds hl
  rw [voxel?, if_pos hl] at h
  exact Array.mem_of_getElem? h

theorem exists_wet_of_mem_liquidTypes {liquid : UInt8} (h : liquid ∈ g.liquidTypes) :
    ∃ c ∈ g.liquids, c.isWet = true ∧ c.liquid = liquid := by
  have hseen := List.elem_iff.mp (List.mem_filter.mp h).2
  revert hseen
  apply Array.foldl_induction
    (motive := fun _ ts => liquid ∈ ts → ∃ c ∈ g.liquids, c.isWet = true ∧ c.liquid = liquid)
  · intro hnone
    cases hnone
  · intro i ts ih hmem
    split at hmem
    · rename_i hnew
      rcases List.mem_cons.mp hmem with rfl | hmem
      · exact ⟨_, Array.getElem_mem i.isLt, (Bool.and_eq_true_iff.mp hnew).1, rfl⟩
      · exact ih hmem
    · exact ih hmem

end Grid

/-- A search for a number that is not in use finds none. -/
theorem Catalogue.exists_get?_of_find? {α β ι : Type} [Catalogued α ι] {c : Catalogue α ι}
    {xs : Array β} {id : β → ι} (h : xs.find? (fun x => c.size ≤ Catalogued.place α (id x)) = none)
    {x : β} (hx : x ∈ xs) : ∃ t, c.get? (id x) = some t := by
  have hlt : Catalogued.place α (id x) < c.size := by simpa using Array.find?_eq_none.mp h x hx
  exact ⟨_, Array.getElem?_eq_getElem hlt⟩

theorem VoxelCatalogue.exists_type_of_validate {c : VoxelCatalogue} {g : Grid}
    (h : validate c g = .ok ()) {v : Voxel} (hv : v ∈ g.voxels) :
    ∃ t, type? c v.kind = some t := by
  unfold validate at h
  split at h
  · cases h
  · rename_i hnone
    exact Catalogue.exists_get?_of_find? hnone hv

theorem LiquidCatalogue.exists_type_of_validate {c : LiquidCatalogue} {g : Grid}
    (h : validate c g = .ok ()) {x : LiquidCell} (hx : x ∈ g.liquids) :
    ∃ t, type? c x.liquid = some t := by
  unfold validate at h
  split at h
  · cases h
  · rename_i hnone
    exact Catalogue.exists_get?_of_find? hnone hx

/-! ### Solid meshes -/

/-- The cells with a voxel whose top does not show. -/
def Query.hiddenTops (q : Query) (origin : Pos) (g : Grid) : List Local :=
  g.dims.cells.filter fun l =>
    (g.voxel l).occludes && !(q.facesOf origin g none l).contains .top

namespace Mesher

variable {m : Mesher} {q : Query} {g : Grid} {a : Address} {origin : Pos} {l : Local}

theorem isRegistered_of_validate (h : VoxelCatalogue.validate m.voxelTypes g = .ok ())
    (hl : g.dims.Holds l) : m.isRegistered (g.voxel l) = true := by
  obtain ⟨t, ht⟩ := VoxelCatalogue.exists_type_of_validate h (g.voxel_mem hl)
  rw [isRegistered, ht]
  rfl

/-- In a validated grid all visible faces are drawn. -/
theorem drawn_eq_shown (h : VoxelCatalogue.validate m.voxelTypes g = .ok ()) (limit : Option Int) :
    m.drawn q origin g limit = q.shown origin g limit := by
  rw [drawn_eq_filter_shown]
  apply List.filter_eq_self.mpr
  intro e he
  obtain ⟨l, hl, he⟩ := List.mem_flatMap.mp (List.mem_of_mem_filter he)
  obtain ⟨f, -, rfl⟩ := List.mem_map.mp he
  exact isRegistered_of_validate h (Dims.mem_cells.mp hl)

theorem capped_eq_hiddenTops (h : VoxelCatalogue.validate m.voxelTypes g = .ok ()) :
    m.capped q origin g =
      if m.settings.sliceMode = .layers then q.hiddenTops origin g else [] := by
  unfold capped
  cases m.settings.sliceMode with
  | whole => rfl
  | layers =>
    rw [if_pos rfl]
    apply List.filter_congr
    intro l hl
    rw [isCapped, isRegistered_of_validate h (Dims.mem_cells.mp hl), Bool.and_true]

theorem textureOf_lt {count : UInt16} (h : m.voxelTypes.InAtlas count) {v : Voxel}
    (hv : v.occludes = true) (hreg : m.isRegistered v = true) (f : Face) :
    m.textureOf v f < count := by
  obtain ⟨t, ht⟩ := Option.isSome_iff_exists.mp hreg
  have hkind : 0 < v.kind.toNat := by
    apply Nat.pos_of_ne_zero
    intro hzero
    have hempty : v.kind = 0 := UInt16.toNat_inj.mp hzero
    simp [Voxel.occludes, Voxel.isEmpty, hempty] at hv
  rw [textureOf, ht]
  exact h.texture_lt _ t hkind ht _ (t.ofFace_mem_textures _ f)

/-- Both what is drawn of the visible faces and the caps belong to occluding voxels. -/
theorem exists_face_of_mem_parts {solid : SolidMesh} (h : m.solidMesh q a g = .ok solid)
    {part : FaceMesh} (hpart : part ∈ solid.parts) {quad : SolidQuad} (hquad : quad ∈ part.quads) :
    ∃ origin l f, quad = m.quadAt origin g l f ∧ (g.voxel l).occludes = true ∧
      m.isRegistered (g.voxel l) = true := by
  obtain ⟨origin, -, hbodies, hcaps, -⟩ := solidMesh_eq_ok h
  rcases SolidMesh.mem_bodies_or_caps hpart hquad with hquad | hquad
  · rw [hbodies] at hquad
    obtain ⟨⟨l, f⟩, hmem, rfl⟩ := List.mem_map.mp hquad
    obtain ⟨-, -, hreg, hface⟩ := mem_drawn.mp hmem
    rw [contains_facesOf] at hface
    exact ⟨origin, l, f, rfl, (Bool.and_eq_true_iff.mp hface).1, hreg⟩
  · rw [hcaps] at hquad
    obtain ⟨l, hmem, rfl⟩ := List.mem_map.mp hquad
    unfold capped at hmem
    split at hmem
    · cases hmem
    · obtain ⟨hv, -⟩ := Bool.and_eq_true_iff.mp (List.mem_filter.mp hmem).2
      obtain ⟨hv, hreg⟩ := Bool.and_eq_true_iff.mp hv
      exact ⟨origin, l, .top, rfl, hv, hreg⟩

theorem solid_texture_lt {count : UInt16} (hatlas : m.voxelTypes.InAtlas count)
    {solid : SolidMesh} (h : m.solidMesh q a g = .ok solid) {part : FaceMesh}
    (hpart : part ∈ solid.parts) {x : SolidVertex} (hx : x ∈ part.vertices) :
    x.texture.toNat < count.toNat := by
  obtain ⟨quad, hquad, hx⟩ := exists_quad_of_mem_vertices h hpart hx
  obtain ⟨origin, l, f, rfl, hv, hreg⟩ := exists_face_of_mem_parts h hpart hquad
  obtain ⟨c, rfl⟩ := Loop.exists_of_mem_map hx
  rw [cornerVertex, UInt16.toNat_toUInt32]
  exact UInt16.lt_iff_toNat_lt.mp (textureOf_lt hatlas hv hreg f)

/-! ### Liquid meshes -/

theorem texture_of_liquidQuads {liquid : UInt8} {depths : Array Nat} {quads : List LiquidQuad}
    (h : m.liquidQuads q origin g liquid depths l = .ok quads) :
    ∀ quad ∈ quads, ∀ x ∈ quad.corners.toList, x.texture = m.liquidTexture liquid := by
  intro quad hquad x hx
  unfold liquidQuads at h
  dsimp only at h
  split at h
  · obtain rfl := Checked.pure_eq_ok_iff.mp h
    cases hquad
  · obtain ⟨p, -, h⟩ := Checked.bind_eq_ok_iff.mp h
    obtain ⟨faces, -, h⟩ := Checked.bind_eq_ok_iff.mp h
    split at h
    · obtain rfl := Checked.pure_eq_ok_iff.mp h
      cases hquad
    · obtain ⟨up, -, h⟩ := Checked.bind_eq_ok_iff.mp h
      obtain ⟨covered, -, h⟩ := Checked.bind_eq_ok_iff.mp h
      obtain ⟨tallies, -, h⟩ := Checked.bind_eq_ok_iff.mp h
      obtain rfl := Checked.pure_eq_ok_iff.mp h
      obtain ⟨f, -, rfl⟩ := List.mem_map.mp hquad
      obtain ⟨corner, rfl⟩ := Loop.exists_of_mem_map hx
      rfl

theorem texture_of_liquidMesh {liquid : UInt8} {x : LiquidMesh}
    (h : m.liquidMesh q a g liquid = .ok x) :
    x.liquid = liquid ∧ ∀ v ∈ x.mesh.vertices, v.texture = m.liquidTexture liquid := by
  obtain ⟨origin, -, h⟩ := Checked.bind_eq_ok_iff.mp h
  obtain ⟨depths, -, h⟩ := Checked.bind_eq_ok_iff.mp h
  obtain ⟨quads, hquads, h⟩ := Checked.bind_eq_ok_iff.mp h
  rw [Mesh.ofQuads_eq_ok, Checked.ok_bind] at h
  obtain rfl := Checked.pure_eq_ok_iff.mp h
  refine ⟨rfl, fun v hv => ?_⟩
  obtain ⟨quad, hquad, hv⟩ := List.mem_flatMap.mp hv
  obtain ⟨y, layer, hlayer, hquad⟩ := mem_of_collectLayers hquads hquad
  obtain ⟨l, cell, hcell, hquad⟩ := Checked.mem_of_collect hlayer hquad
  exact texture_of_liquidQuads hcell quad hquad v hv

theorem liquidTexture_lt {count : UInt16} (hatlas : m.liquidTypes.InAtlas count)
    (h : LiquidCatalogue.validate m.liquidTypes g = .ok ()) {liquid : UInt8}
    (hmem : liquid ∈ g.liquidTypes) :
    ∃ t, LiquidCatalogue.type? m.liquidTypes liquid = some t ∧
      m.liquidTexture liquid = t.texture.toUInt32 ∧ t.texture < count := by
  obtain ⟨c, hc, hwet, rfl⟩ := Grid.exists_wet_of_mem_liquidTypes hmem
  obtain ⟨t, ht⟩ := LiquidCatalogue.exists_type_of_validate h hc
  have hkind : 0 < c.liquid.toNat := by
    apply Nat.pos_of_ne_zero
    intro hzero
    have hdry : c.liquid = 0 := UInt8.toNat_inj.mp hzero
    simp [LiquidCell.isWet, hdry] at hwet
  refine ⟨t, ht, by rw [liquidTexture, ht]; rfl, ?_⟩
  exact hatlas.texture_lt _ t hkind ht _ (List.mem_singleton_self _)

/-- The mesh of a validated chunk draws each visible face of each voxel in view, in both layouts,
and refers to registered textures of the atlas only. -/
theorem validated_mesh_is_complete (m : Mesher) (s : Snapshot) {voxelCount liquidCount : UInt16}
    {voxelTypes : List VoxelType} {liquidTypes : List LiquidType} {set : MeshSet}
    (hvoxels : m.voxelTypes = ((Catalogue.withTextureCount voxelCount).registerEach voxelTypes).2)
    (hliquids : m.liquidTypes =
      ((Catalogue.withTextureCount liquidCount).registerEach liquidTypes).2)
    (hv : VoxelCatalogue.validate m.voxelTypes s.center = .ok ())
    (hl : LiquidCatalogue.validate m.liquidTypes s.center = .ok ())
    (h : m.build s = .ok set) :
    (∃ origin, s.address.origin s.dims = .ok origin ∧
      (∀ l, s.dims.Holds l → inView origin m.cutLimit l = true →
        s.query.visibleFaces (origin.cell l) (s.center.voxel l) m.cutLimit =
          .ok (s.query.facesOf origin s.center m.cutLimit l)) ∧
      (set.solid.bodies = (s.query.shown origin s.center m.cutLimit).map fun e =>
        m.quadAt origin s.center e.1 e.2) ∧
      set.solid.caps = (if m.settings.sliceMode = .layers then s.query.hiddenTops origin s.center
        else []).map fun l => m.quadAt origin s.center l .top) ∧
    (∀ part ∈ set.solid.parts, ∀ x ∈ part.vertices, x.texture.toNat < voxelCount.toNat) ∧
    ∀ x ∈ set.liquids, ∃ t, LiquidCatalogue.type? m.liquidTypes x.liquid = some t ∧
      ∀ v ∈ x.mesh.vertices, v.texture = t.texture.toUInt32 ∧
        v.texture.toNat < liquidCount.toNat := by
  have hvatlas : m.voxelTypes.InAtlas voxelCount := by
    rw [hvoxels]
    exact (Catalogue.inAtlas_withTextureCount voxelCount).registerEach voxelTypes
  have hlatlas : m.liquidTypes.InAtlas liquidCount := by
    rw [hliquids]
    exact (Catalogue.inAtlas_withTextureCount liquidCount).registerEach liquidTypes
  obtain ⟨solid, hsolid, h⟩ := Checked.bind_eq_ok_iff.mp h
  obtain ⟨liquids, hmeshes, h⟩ := Checked.bind_eq_ok_iff.mp h
  obtain rfl := Checked.pure_eq_ok_iff.mp h
  refine ⟨?_, fun part hpart x hx => solid_texture_lt hvatlas hsolid hpart hx, fun x hx => ?_⟩
  · obtain ⟨origin, ho, hbodies, hcaps, hfaces⟩ := solidMesh_eq_ok hsolid
    refine ⟨origin, ho, hfaces, ?_, ?_⟩
    · rw [hbodies, drawn_eq_shown hv]
    · rw [hcaps, capped_eq_hiddenTops hv]
  · obtain ⟨meshes, hmapped, h⟩ := Checked.bind_eq_ok_iff.mp hmeshes
    obtain rfl := Checked.pure_eq_ok_iff.mp h
    obtain ⟨liquid, hmem, hx⟩ := Checked.mem_of_mapM hmapped (List.mem_of_mem_filter hx)
    obtain ⟨rfl, htextures⟩ := texture_of_liquidMesh hx
    obtain ⟨t, ht, htexture, hlt⟩ := liquidTexture_lt hlatlas hl hmem
    refine ⟨t, ht, fun v hv => ?_⟩
    rw [htextures v hv, htexture, UInt16.toNat_toUInt32]
    exact ⟨rfl, UInt16.lt_iff_toNat_lt.mp hlt⟩

end Mesher

/-- A stone over a well. -/
def coveredWell : Snapshot :=
  { well 0 with center := (well 0).center.setVoxel ⟨0, 1, 0⟩ (.ofKind 1) }

/-- Each catalogue has registered one type and refused one for its texture. -/
def wellMesher : Mesher :=
  .ofSettings Noise.still
    ((Catalogue.withTextureCount 2).registerEach
      [⟨"stone", false, .uniform 2, none⟩, ⟨"stone", false, ⟨1, 0, 1⟩, none⟩]).2
    ((Catalogue.withTextureCount 4).registerEach [⟨"water", 3⟩, ⟨"brine", 4⟩]).2 {}

theorem size_wellMesher : wellMesher.voxelTypes.size = 2 ∧ wellMesher.liquidTypes.size = 2 := by
  constructor <;>
    simp [wellMesher, Mesher.ofSettings, Catalogue.registerEach, Catalogue.register,
      Catalogue.refusal?, Catalogue.withTextureCount, Catalogue.push, Catalogue.size,
      Catalogued.name, Catalogued.textures, Catalogued.limit, Catalogued.reserved, FaceTextures.toList,
      FaceTextures.uniform]

theorem exists_build_coveredWell (m : Mesher) : ∃ set, m.build coveredWell = .ok set := by
  have hdims : coveredWell.dims = (well 0).dims := Grid.dims_setVoxel ..
  have hfits : coveredWell.address.BlockFits coveredWell.dims := by
    rw [hdims]
    exact blockFits_well (by decide) (by decide)
  obtain ⟨origin, ho⟩ := hfits.exists_origin
  have hroom : ¬ coveredWell.Brims m.settings.maxColumnScan := fun hbrims =>
    absurd hbrims.lowest (by decide)
  obtain ⟨set, hset, -⟩ := m.exists_meshSet ho (Snapshot.answers_of_blockFits hfits ho)
    (by decide)
    fun liquid hmem hover => hroom ((Snapshot.brims_iff hfits ho m).mpr ⟨liquid, hmem, hover⟩)
  exact ⟨set, hset⟩

theorem Mesher.validated_mesh_is_complete_well : ∃ set,
    VoxelCatalogue.validate wellMesher.voxelTypes coveredWell.center = .ok () ∧
    LiquidCatalogue.validate wellMesher.liquidTypes coveredWell.center = .ok () ∧
    wellMesher.build coveredWell = .ok set ∧ set.solid.bodies.length = 6 ∧
    (∀ part ∈ set.solid.parts, ∀ x ∈ part.vertices, x.texture.toNat < 2) ∧
    ∀ x ∈ set.liquids, ∀ v ∈ x.mesh.vertices, v.texture.toNat < 4 := by
  obtain ⟨set, hset⟩ := exists_build_coveredWell wellMesher
  have hv : VoxelCatalogue.validate wellMesher.voxelTypes coveredWell.center = .ok () := by
    rw [VoxelCatalogue.validate, size_wellMesher.1]
    rfl
  have hl : LiquidCatalogue.validate wellMesher.liquidTypes coveredWell.center = .ok () := by
    rw [LiquidCatalogue.validate, size_wellMesher.2]
    rfl
  obtain ⟨⟨origin, ho, -, hbodies, -⟩, hsolid, hliquid⟩ :=
    wellMesher.validated_mesh_is_complete coveredWell rfl rfl hv hl hset
  have horigin : coveredWell.address.origin coveredWell.dims = .ok ⟨0, 0, 0⟩ := by decide +kernel
  obtain rfl := Except.ok.inj (horigin.symm.trans ho)
  refine ⟨set, hv, hl, hset, ?_, hsolid, fun x hx v hmem => ?_⟩
  · rw [hbodies, List.length_map]
    decide +kernel
  · obtain ⟨t, -, ht⟩ := hliquid x hx
    exact (ht v hmem).2

end VoxelScene
