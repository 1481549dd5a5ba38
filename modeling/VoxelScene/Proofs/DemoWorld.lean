import VoxelScene.Demo.Terrain
import VoxelScene.Proofs.CellMap
import VoxelScene.Proofs.MeshTotal

/-!
The demo world and the size of its chunks.

The world is built chunk by chunk, each from its own corner. `Terrain.cellAt` says what a position
holds without a word of chunks, and every world that is built shows just that, so two worlds of one
terrain agree wherever both have cells. The only sizes that come to nothing are those whose cells
are too many to be stored.
-/

namespace VoxelScene

/-! ### Storage -/

/-- The cells of a chunk can be stored. -/
def Dims.Storable (d : Dims) : Prop := Grid.voxelBytes * d.volume < Word.pieceBound

instance (d : Dims) : Decidable d.Storable := inferInstanceAs (Decidable (_ < _))

theorem Dims.checkedVolume_of_le {d : Dims} (h : Word.storageBound ≤ d.volume) :
    d.checkedVolume = .error .mulOverflow := by
  rw [checkedVolume]
  rcases Word.mul_cases d.x d.y with hfloor | hfloor
  · rw [hfloor, Checked.ok_bind]
    exact if_neg (Nat.not_lt.mpr h)
  · rw [hfloor]
    rfl

theorem Dims.cells_eq_flatMap (d : Dims) : d.cells =
    (List.range d.y).flatMap fun y => (d.layer 0).map fun l => ⟨l.x, y, l.z⟩ := by
  simp only [cells, layer, List.map_flatMap, List.map_map]
  rfl

namespace Grid

theorem reserve_of_storable {d : Dims} (h : d.Storable) :
    reserve d = .ok (voxelBytes * d.volume) := by
  have hvolume : d.volume < Word.storageBound := by
    unfold Dims.Storable voxelBytes Word.pieceBound at h
    unfold Word.storageBound
    omega
  rw [reserve, Dims.checkedVolume_eq hvolume, Checked.ok_bind]
  exact Word.below_eq_ok_iff.mpr ⟨h, rfl⟩

theorem reserve_of_not_storable {d : Dims} (h : ¬ d.Storable) :
    (Word.storageBound ≤ d.volume → reserve d = .error .mulOverflow) ∧
      (d.volume < Word.storageBound → reserve d = .error .capacityOverflow) := by
  rw [reserve]
  refine ⟨fun hmany => ?_, fun hcounted => ?_⟩
  · rw [Dims.checkedVolume_of_le hmany]
    rfl
  · rw [Dims.checkedVolume_eq hcounted, Checked.ok_bind]
    exact if_neg h

/-- One part of the listed cells has only numbers below a bound, and so has what fills the rest. -/
theorem find?_listed {β : Type} {part : Voxel × LiquidCell → β} {blank : β} {number : β → Nat}
    {bound size : Nat} {cells : Array (Voxel × LiquidCell)} (hblank : number blank < bound)
    (h : ∀ c ∈ cells, number (part c) < bound) :
    (Array.ofFn fun i : Fin size => (cells[i.val]?.map part).getD blank).find?
      (fun y => decide (bound ≤ number y)) = none := by
  refine Array.find?_eq_none.mpr fun y hy => ?_
  obtain ⟨i, rfl⟩ := Array.mem_ofFn.mp hy
  rw [decide_eq_true_eq, Nat.not_le]
  cases hc : cells[i.val]? with
  | none => exact hblank
  | some c => exact h c (Array.mem_of_getElem? hc)

theorem cell_ofCells {d : Dims} {f : Local → Voxel × LiquidCell} {l : Local} (hl : d.Holds l) :
    (ofCells d (d.cells.map f).toArray).cell l = ⟨(f l).1, (f l).2⟩ := by
  have hlisted : (d.cells.map f)[d.index l]? = some (f l) := by
    rw [List.getElem?_map, Dims.getElem?_cells hl, Option.map_some]
  simp only [cell, voxel, voxel?, liquid, liquid?, ofCells, if_pos hl, Array.getElem?_ofFn,
    dif_pos (Dims.index_lt_volume hl), List.getElem?_toArray, hlisted, Option.map_some,
    Option.getD_some]

end Grid

namespace Palette

theorem size_voxels : voxels.size = 3 := by
  simp [voxels, Catalogue.registerEach, Catalogue.register, Catalogue.refusal?,
    Catalogue.withTextureCount, Catalogue.size, Catalogue.push, Catalogued.name,
    Catalogued.textures, Catalogued.limit, Catalogued.reserved, FaceTextures.toList,
    FaceTextures.uniform, textureCount]

theorem size_liquids : liquids.size = 2 := by
  simp [liquids, Catalogue.registerEach, Catalogue.register, Catalogue.refusal?,
    Catalogue.withTextureCount, Catalogue.size, Catalogue.push, Catalogued.name,
    Catalogued.textures, Catalogued.limit, Catalogued.reserved, textureCount]

end Palette

namespace Terrain

/-! ### Cells by position -/

/-- Height of the topmost ground voxel of a column. -/
def surface (t : Terrain) (x z : Int) : Int := max 1 (min (t.relief x z) (t.maxHeight - 1))

/-- Height of the pillar and the waterfall. -/
def crest (t : Terrain) : Int := max (t.maxHeight - 4) (pondLevel + 2)

/-- What the demo world holds at a position. -/
def cellAt (t : Terrain) (p : Pos) : Cell :=
  let c := t.cell (t.surface p.x p.z) t.crest p
  ⟨c.1, c.2⟩

/-- The chunks of the demo world. -/
def InWorld (a : Address) : Prop :=
  (0 ≤ a.x ∧ a.x < 3) ∧ (0 ≤ a.y ∧ a.y < 2) ∧ (0 ≤ a.z ∧ a.z < 3)

instance (a : Address) : Decidable (InWorld a) := inferInstanceAs (Decidable (_ ∧ _))

/-- Every cell of the demo world has coordinates. -/
def InRange (d : Dims) : Prop := ∀ a, InWorld a → ∀ p, d.Covers a p → p.Fits

theorem mem_addresses {a : Address} : a ∈ addresses ↔ InWorld a := by
  obtain ⟨x, y, z⟩ := a
  simp only [addresses, chunksUp, chunksAcross, List.mem_flatMap, List.mem_map, List.mem_range,
    InWorld, Address.mk.injEq]
  constructor
  · rintro ⟨y', hy, z', hz, x', hx, rfl, rfl, rfl⟩
    omega
  · rintro ⟨⟨hx, hx'⟩, ⟨hy, hy'⟩, hz, hz'⟩
    exact ⟨y.toNat, by omega, z.toNat, by omega, x.toNat, by omega, by omega, by omega, by omega⟩

theorem inRange_of_le {d : Dims} (hx : 3 * d.x ≤ 2147483648) (hy : 2 * d.y ≤ 2147483648)
    (hz : 3 * d.z ≤ 2147483648) : InRange d := by
  -- Along one axis, with at most `count` chunks.
  have axis {k n : Int} {size count : Nat} (hk : 0 ≤ k) (hlast : k < count)
      (hsize : count * size ≤ 2147483648) (hlo : k * size ≤ n) (hhi : n < k * size + size) :
      Coord.Fits n := by
    have hfirst : 0 ≤ k * size := Int.mul_nonneg hk (Int.natCast_nonneg size)
    have hnext : (k + 1) * size ≤ count * size :=
      Int.mul_le_mul_of_nonneg_right (by omega) (Int.natCast_nonneg size)
    rw [Int.add_mul, Int.one_mul] at hnext
    have hcast : (count : Int) * size ≤ 2147483648 := by
      rw [← Int.natCast_mul]
      omega
    unfold Coord.Fits Coord.least Coord.greatest
    omega
  rintro a ⟨⟨hax, hax'⟩, ⟨hay, hay'⟩, haz, haz'⟩ p ⟨⟨hpx, hpx'⟩, ⟨hpy, hpy'⟩, hpz, hpz'⟩
  exact ⟨axis hax hax' hx hpx hpx', axis hay hay' hy hpy hpy', axis haz haz' hz hpz hpz'⟩

section

variable {t : Terrain} {d : Dims} {a : Address} {w : World}

theorem not_occludes_wet (t : Terrain) (p : Pos) :
    ¬ ((t.cellAt p).voxel.occludes = true ∧ (t.cellAt p).liquid.isWet = true) := by
  simp only [cellAt, cell]
  cases ground (t.surface p.x p.z) t.crest p <;> simp [Ground.voxel, Ground.liquid,
    Voxel.not_occludes_empty, LiquidCell.not_isWet_dry]

theorem types_cellAt (t : Terrain) (p : Pos) :
    (t.cellAt p).voxel.kind.toNat < 3 ∧ (t.cellAt p).liquid.liquid.toNat < 2 := by
  simp only [cellAt, cell]
  cases ground (t.surface p.x p.z) t.crest p <;> simp [Ground.voxel, Ground.liquid, Voxel.ofKind,
    Voxel.withColor, Voxel.empty, LiquidCell.dry, Palette.stone, Palette.grass, Palette.water]

/-- The lowest layer is stone, since the surface lies above it. -/
theorem occludes_bottom (t : Terrain) (x z : Int) :
    (t.cellAt ⟨x, 0, z⟩).voxel.occludes = true := by
  have hlow : 0 < t.surface x z := by
    unfold surface
    omega
  have hstone : ground (t.surface x z) t.crest ⟨x, 0, z⟩ = .stone := if_pos (.inl hlow)
  simp only [cellAt, cell, hstone]
  rfl

/-! ### One chunk -/

theorem InRange.fits (hd : InRange d) : d.Fits := by
  have hcovers : d.Covers ⟨1, 1, 1⟩ ⟨d.x, d.y, d.z⟩ := by
    have hx := d.x_pos
    have hy := d.y_pos
    have hz := d.z_pos
    simp only [Dims.Covers, Pos.Inside]
    omega
  exact hd ⟨1, 1, 1⟩ (by decide) _ hcovers

/-- The position of a cell of the chunk at `a`. -/
def place (d : Dims) (a : Address) (l : Local) : Pos :=
  ⟨a.x * d.x + l.x, a.y * d.y + l.y, a.z * d.z + l.z⟩

theorem covers_place {l : Local} (hl : d.Holds l) : d.Covers a (place d a l) := by
  obtain ⟨hx, hy, hz⟩ := hl
  simp only [Dims.Covers, Pos.Inside, place]
  omega

theorem holds_placeIn {p : Pos} (hp : d.Covers a p) :
    d.Holds (d.placeIn a p) ∧ place d a (d.placeIn a p) = p := by
  obtain ⟨px, py, pz⟩ := p
  simp only [Dims.Covers, Pos.Inside] at hp
  simp only [Dims.Holds, Dims.placeIn, place, Pos.mk.injEq]
  omega

theorem origin_eq (hd : InRange d) (ha : InWorld a) :
    a.origin d = .ok ⟨a.x * d.x, a.y * d.y, a.z * d.z⟩ := by
  have hcorner : (place d a ⟨0, 0, 0⟩).Fits :=
    hd a ha _ (covers_place ⟨d.x_pos, d.y_pos, d.z_pos⟩)
  rw [Address.origin, Dims.extent_of_fits hd.fits]
  refine Pos.times_eq_ok_iff.mpr ⟨rfl, ?_⟩
  simpa [place] using hcorner

theorem height_eq (hlow : 2 ≤ t.maxHeight) (hfits : Coord.Fits t.maxHeight) (x z : Int) :
    t.height x z = .ok (t.surface x z) := by
  have hbelow : Coord.Fits (t.maxHeight - 1) := by
    unfold Coord.Fits Coord.least Coord.greatest at *
    omega
  rw [height, Coord.sub_eq_ok_iff.mpr ⟨hbelow, rfl⟩, Checked.ok_bind]
  exact if_neg (by omega)

theorem pillarTop_eq (hlow : 2 ≤ t.maxHeight) (hfits : Coord.Fits t.maxHeight) :
    t.pillarTop = .ok t.crest := by
  have hbelow : Coord.Fits (t.maxHeight - 4) := by
    unfold Coord.Fits Coord.least Coord.greatest at *
    omega
  rw [pillarTop, Coord.sub_eq_ok_iff.mpr ⟨hbelow, rfl⟩, Checked.ok_bind]
  rfl

/-- The cells of the chunk at `a`, each looked up by its position. -/
def chunkCells (t : Terrain) (d : Dims) (a : Address) : Grid :=
  .ofCells d (d.cells.map fun l =>
    ((t.cellAt (place d a l)).voxel, (t.cellAt (place d a l)).liquid)).toArray

theorem cell_chunkCells {p : Pos} (hp : d.Covers a p) :
    (t.chunkCells d a).cell (d.placeIn a p) = t.cellAt p := by
  obtain ⟨hl, hplace⟩ := holds_placeIn hp
  rw [chunkCells, Grid.cell_ofCells hl, hplace]

theorem grid_eq (hlow : 2 ≤ t.maxHeight) (hfits : Coord.Fits t.maxHeight) (hd : InRange d)
    (hs : d.Storable) (ha : InWorld a) : t.grid a d = .ok (t.chunkCells d a) := by
  have hplace {l : Local} (hl : d.Holds l) : (place d a l).Fits := hd a ha _ (covers_place hl)
  have hcolumns : t.columns ⟨a.x * d.x, a.y * d.y, a.z * d.z⟩ d = .ok ((d.layer 0).map fun l =>
      ⟨a.x * d.x + l.x, a.z * d.z + l.z, t.surface (a.x * d.x + l.x) (a.z * d.z + l.z)⟩) := by
    refine Checked.mapM_eq_ok fun l hl => ?_
    obtain ⟨hx, hz, hy⟩ := Dims.mem_layer.mp hl
    obtain ⟨hfx, -, hfz⟩ := hplace ⟨hx, hy ▸ d.y_pos, hz⟩
    rw [Coord.add_eq_ok_iff.mpr ⟨hfx, rfl⟩, Checked.ok_bind, Coord.add_eq_ok_iff.mpr ⟨hfz, rfl⟩,
      Checked.ok_bind, height_eq hlow hfits]
    rfl
  have hlayers : layers ⟨a.x * d.x, a.y * d.y, a.z * d.z⟩ d =
      .ok ((List.range d.y).map fun (y : Nat) => a.y * d.y + y) := by
    refine Checked.mapM_eq_ok fun y hy => ?_
    obtain ⟨-, hfy, -⟩ := hplace (l := ⟨0, y, 0⟩) ⟨d.x_pos, List.mem_range.mp hy, d.z_pos⟩
    exact Coord.add_eq_ok_iff.mpr ⟨hfy, rfl⟩
  rw [grid, origin_eq hd ha, Checked.ok_bind, pillarTop_eq hlow hfits, Checked.ok_bind,
    Grid.reserve_of_storable hs, Checked.ok_bind, hcolumns, Checked.ok_bind, hlayers,
    Checked.ok_bind, chunkCells, Dims.cells_eq_flatMap]
  simp only [List.map_flatMap, List.flatMap_map, List.map_map]
  rfl

theorem validate_chunkCells (t : Terrain) (d : Dims) (a : Address) :
    VoxelCatalogue.validate Palette.voxels (t.chunkCells d a) = .ok () ∧
      LiquidCatalogue.validate Palette.liquids (t.chunkCells d a) = .ok () := by
  have hlisted : ∀ c ∈ (d.cells.map fun l =>
      ((t.cellAt (place d a l)).voxel, (t.cellAt (place d a l)).liquid)).toArray,
      c.1.kind.toNat < 3 ∧ c.2.liquid.toNat < 2 := by
    intro c hc
    obtain ⟨l, -, rfl⟩ := List.mem_map.mp (List.mem_toArray.mp hc)
    exact t.types_cellAt (place d a l)
  have hvoxels : (t.chunkCells d a).voxels.find?
      (fun v => decide (Palette.voxels.size ≤ v.kind.toNat)) = none := by
    rw [Palette.size_voxels]
    exact Grid.find?_listed (by decide) fun c hc => (hlisted c hc).1
  have hliquids : (t.chunkCells d a).liquids.find?
      (fun x => decide (Palette.liquids.size ≤ x.liquid.toNat)) = none := by
    rw [Palette.size_liquids]
    exact Grid.find?_listed (by decide) fun c hc => (hlisted c hc).2
  rw [VoxelCatalogue.validate, LiquidCatalogue.validate, hvoxels, hliquids]
  exact ⟨rfl, rfl⟩

theorem exists_load {c : Chunk} (ha : InWorld a) (hc : c.grid.dims = w.dims) :
    ∃ w', w.load a c = .ok (some w') := by
  obtain ⟨ns, hns⟩ : ∃ ns, a.neighbors = .ok ns := by
    refine Checked.exists_mapM fun s hs => ?_
    obtain ⟨-, hx, hy, hz⟩ := Address.mem_neighborSteps.mp hs
    obtain ⟨hax, hay, haz⟩ := ha
    refine ⟨_, Address.offset_eq_ok_iff.mpr ⟨rfl, ?_⟩⟩
    simp only [Address.shift, Coord.Fits, Coord.least, Coord.greatest]
    omega
  rw [World.load, if_neg (not_not.mpr hc), hns]
  exact ⟨_, rfl⟩

/-! ### The whole world -/

/-- The world has just the listed chunks, with the cells of the terrain. -/
structure Shows (t : Terrain) (d : Dims) (as : List Address) (w : World) : Prop where
  dims : w.dims = d
  loaded : ∀ a, w.isLoaded a = true ↔ a ∈ as
  cells : ∀ p, w.Occupied p → w.cells p = some (t.cellAt p)

theorem shows_empty (t : Terrain) (d : Dims) : t.Shows d [] (.empty d) where
  dims := rfl
  loaded a := by simp [World.isLoaded, World.chunk?, World.empty]
  cells p hp := by
    rw [← World.isSome_cells, World.cells_empty] at hp
    cases hp

/-- A step of the loop: the next chunk comes in with its cells. -/
theorem Shows.loadChunk {as : List Address} (h : t.Shows d as w) (hlow : 2 ≤ t.maxHeight)
    (hfits : Coord.Fits t.maxHeight) (hd : InRange d) (hs : d.Storable) (ha : InWorld a) :
    ∃ w', t.loadChunk w a = Except.ok (Except.ok w') ∧ t.Shows d (as ++ [a]) w' := by
  obtain ⟨hvoxels, hliquids⟩ := validate_chunkCells t d a
  obtain ⟨w', hw'⟩ : ∃ w', w.load a (.ofGrid (t.chunkCells d a)) = .ok (some w') :=
    exists_load ha h.dims.symm
  have hgrid : t.grid a w.dims = .ok (t.chunkCells d a) := by
    rw [h.dims, grid_eq hlow hfits hd hs ha]
  have hrun : t.loadChunk w a = Except.ok (Except.ok w') := by
    unfold Terrain.loadChunk
    rw [hgrid]
    show (do
      ExceptT.mk (pure (VoxelCatalogue.validate Palette.voxels (t.chunkCells d a)))
      ExceptT.mk (pure (LiquidCatalogue.validate Palette.liquids (t.chunkCells d a)))
      return (← w.load a (.ofGrid (t.chunkCells d a))).getD w :
        ExceptT TypeError (Except Fault) World) = _
    rw [hvoxels, hliquids, hw']
    rfl
  obtain ⟨ns', -, -, -, hchanges⟩ := World.load_eq_some hw'
  have hloaded (b : Address) : w'.isLoaded b = true ↔ b ∈ as ++ [a] := by
    rw [World.isLoaded, hchanges.chunk, Option.isSome_map, List.mem_append, List.mem_singleton,
      ← h.loaded]
    split
    · rename_i hab
      exact iff_of_true rfl (.inr hab.symm)
    · rename_i hab
      exact ⟨.inl, fun hb => hb.resolve_right fun he => hab he.symm⟩
  refine ⟨w', hrun, hchanges.dims.trans h.dims, hloaded, fun p hp => ?_⟩
  rw [World.cells_load hw', CellMap.fill, h.dims]
  split
  · rename_i hcovers
    exact congrArg some (cell_chunkCells hcovers)
  · rename_i hcovers
    obtain ⟨b, hb, hin⟩ := hp
    rw [hchanges.dims, h.dims] at hb
    have hold : b ∈ as := by
      refine (List.mem_append.mp ((hloaded b).mp hin)).resolve_right fun he => ?_
      exact hcovers (List.mem_singleton.mp he ▸ hb)
    exact h.cells p ⟨b, by rwa [h.dims], (h.loaded b).mpr hold⟩

/-- The loop over any list of chunks. -/
theorem Shows.foldlM {as : List Address} (h : t.Shows d as w) (hlow : 2 ≤ t.maxHeight)
    (hfits : Coord.Fits t.maxHeight) (hd : InRange d) (hs : d.Storable) (bs : List Address)
    (hbs : ∀ b ∈ bs, InWorld b) :
    ∃ w', bs.foldlM t.loadChunk w = Except.ok (Except.ok w') ∧ t.Shows d (as ++ bs) w' := by
  induction bs generalizing w as with
  | nil => exact ⟨w, rfl, by rwa [List.append_nil]⟩
  | cons b bs ih =>
    obtain ⟨v, hv, hshows⟩ := h.loadChunk hlow hfits hd hs (hbs b (List.mem_cons_self ..))
    obtain ⟨w', hw', hall⟩ := ih hshows fun c hc => hbs c (List.mem_cons_of_mem _ hc)
    rw [List.append_assoc, List.singleton_append] at hall
    refine ⟨w', ?_, hall⟩
    rw [List.foldlM_cons, hv]
    exact hw'

theorem exists_world (hlow : 2 ≤ t.maxHeight) (hfits : Coord.Fits t.maxHeight) (hd : InRange d)
    (hs : d.Storable) : ∃ w, t.world d = Except.ok (Except.ok w) ∧ t.Shows d addresses w :=
  (shows_empty t d).foldlM hlow hfits hd hs addresses fun _ ha => mem_addresses.mp ha

/-- Storage runs out at the first chunk, before any cell is looked at. -/
theorem world_of_reserve {f : Fault} (hlow : 2 ≤ t.maxHeight) (hfits : Coord.Fits t.maxHeight)
    (hd : InRange d) (h : Grid.reserve d = .error f) : t.world d = Except.error f := by
  have hgrid : t.grid ⟨0, 0, 0⟩ d = .error f := by
    rw [grid, origin_eq hd (by decide), Checked.ok_bind, pillarTop_eq hlow hfits,
      Checked.ok_bind, h]
    rfl
  have hload : t.loadChunk (.empty d) ⟨0, 0, 0⟩ = Except.error f := by
    unfold Terrain.loadChunk
    rw [show (World.empty d).dims = d from rfl, hgrid]
    rfl
  rw [world, show addresses = ⟨0, 0, 0⟩ :: addresses.tail from rfl, List.foldlM_cons, hload]
  rfl

theorem shows_of_world (hlow : 2 ≤ t.maxHeight) (hfits : Coord.Fits t.maxHeight)
    (hd : InRange d) (hw : t.world d = Except.ok (Except.ok w)) : t.Shows d addresses w := by
  by_cases hs : d.Storable
  · obtain ⟨v, hv, hshows⟩ := exists_world hlow hfits hd hs
    cases hv.symm.trans hw
    exact hshows
  · obtain ⟨hmany, hcounted⟩ := Grid.reserve_of_not_storable hs
    rcases Nat.lt_or_ge d.volume Word.storageBound with hlt | hge
    · cases (world_of_reserve hlow hfits hd (hcounted hlt)).symm.trans hw
    · cases (world_of_reserve hlow hfits hd (hmany hge)).symm.trans hw

theorem Shows.reads (h : t.Shows d addresses w) (hd : InRange d) {p : Pos}
    (hp : w.Occupied p) : w.voxelAt p = .ok (some (t.cellAt p).voxel) ∧
      w.liquidAt p = .ok (some (t.cellAt p).liquid) := by
  obtain ⟨a, hcovers, hin⟩ := id hp
  rw [h.dims] at hcovers
  have ha : InWorld a := mem_addresses.mp ((h.loaded a).mp hin)
  have hreads := World.reads_of_fits (h.dims.symm ▸ hd.fits : w.dims.Fits) (hd a ha p hcovers)
  rwa [h.cells p hp] at hreads

/-- With every cell the world has the lowest one of the same column. -/
theorem Shows.occupied_bottom (h : t.Shows d addresses w) {p : Pos} (hp : w.Occupied p) :
    w.Occupied ⟨p.x, 0, p.z⟩ := by
  obtain ⟨a, ⟨hx, -, hz⟩, hin⟩ := hp
  have ha : InWorld a := mem_addresses.mp ((h.loaded a).mp hin)
  refine ⟨⟨a.x, 0, a.z⟩, ⟨hx, ?_, hz⟩, ?_⟩
  · have hy := w.dims.y_pos
    simp only
    omega
  · rw [h.loaded, mem_addresses]
    exact ⟨ha.1, by simp only; omega, ha.2.2⟩

end

/-- The demo world does not depend on the size of its chunks. For a size whose cells have
coordinates and can be stored, it is built with all its chunks, and holds no liquid where a voxel
hides it and a solid voxel at the bottom of each column. Two such worlds agree on every position
that both have. A size whose cells cannot be stored is a fault: a product that overflows if they
cannot even be counted, else too much storage. -/
theorem world_ignores_chunk_size (t : Terrain) (hlow : 2 ≤ t.maxHeight)
    (hfits : Coord.Fits t.maxHeight) :
    (∀ d, InRange d → d.Storable → ∃ w, t.world d = Except.ok (Except.ok w) ∧
      w.dims = d ∧ (∀ a, w.isLoaded a = true ↔ InWorld a) ∧
      (∀ p, w.Occupied p → ∃ v x, w.voxelAt p = .ok (some v) ∧ w.liquidAt p = .ok (some x) ∧
        ¬ (v.occludes = true ∧ x.isWet = true)) ∧
      ∀ p, w.Occupied p → ∃ v, w.voxelAt ⟨p.x, 0, p.z⟩ = .ok (some v) ∧ v.occludes = true) ∧
    (∀ d d' w w', InRange d → InRange d' → t.world d = Except.ok (Except.ok w) →
      t.world d' = Except.ok (Except.ok w') → ∀ p, w.Occupied p → w'.Occupied p →
        ∃ v x, w.voxelAt p = .ok (some v) ∧ w'.voxelAt p = .ok (some v) ∧
          w.liquidAt p = .ok (some x) ∧ w'.liquidAt p = .ok (some x)) ∧
    ∀ d, InRange d → ¬ d.Storable →
      (Word.storageBound ≤ d.volume → t.world d = Except.error .mulOverflow) ∧
      (d.volume < Word.storageBound → t.world d = Except.error .capacityOverflow) := by
  refine ⟨fun d hd hs => ?_, fun d d' w w' hd hd' hw hw' p hp hp' => ?_,
    fun d hd hs => (Grid.reserve_of_not_storable hs).imp
      (fun hf hmany => world_of_reserve hlow hfits hd (hf hmany))
      fun hf hcounted => world_of_reserve hlow hfits hd (hf hcounted)⟩
  · obtain ⟨w, hw, h⟩ := exists_world hlow hfits hd hs
    refine ⟨w, hw, h.dims, fun a => ?_, fun p hp => ?_, fun p hp => ?_⟩
    · rw [h.loaded, mem_addresses]
    · obtain ⟨hv, hx⟩ := h.reads hd hp
      exact ⟨_, _, hv, hx, t.not_occludes_wet p⟩
    · exact ⟨_, (h.reads hd (h.occupied_bottom hp)).1, t.occludes_bottom p.x p.z⟩
  · obtain ⟨hv, hx⟩ := (shows_of_world hlow hfits hd hw).reads hd hp
    obtain ⟨hv', hx'⟩ := (shows_of_world hlow hfits hd' hw').reads hd' hp'
    exact ⟨_, _, hv, hv', hx, hx'⟩

/-- Ground that rises towards greater x and falls towards greater z. -/
def hillside : Terrain := ⟨fun x z => 8 + x - z, 16⟩

/-- The column of the waterfall, cut at height 10 in one world and at height 16 in the other. -/
theorem world_ignores_chunk_size_hillside : ∃ w w',
    hillside.world (.mk 4 10 4) = Except.ok (Except.ok w) ∧
      hillside.world (.mk 7 16 5) = Except.ok (Except.ok w') ∧
      ∀ y, 0 ≤ y → y < 20 → ∃ v x,
        w.voxelAt ⟨7, y, 6⟩ = .ok (some v) ∧ w'.voxelAt ⟨7, y, 6⟩ = .ok (some v) ∧
          w.liquidAt ⟨7, y, 6⟩ = .ok (some x) ∧ w'.liquidAt ⟨7, y, 6⟩ = .ok (some x) := by
  have hd : InRange (.mk 4 10 4) := inRange_of_le (by decide) (by decide) (by decide)
  have hd' : InRange (.mk 7 16 5) := inRange_of_le (by decide) (by decide) (by decide)
  obtain ⟨hbuilt, hagree, -⟩ := world_ignores_chunk_size hillside (by decide) (by decide)
  obtain ⟨w, hw, hdims, hloaded, -⟩ := hbuilt _ hd (by decide)
  obtain ⟨w', hw', hdims', hloaded', -⟩ := hbuilt _ hd' (by decide)
  refine ⟨w, w', hw, hw', fun y hlo hhi => hagree _ _ w w' hd hd' hw hw' _ ?_ ?_⟩
  · refine ⟨⟨1, y / 10, 1⟩, ?_, (hloaded _).mpr ?_⟩
    · simp only [hdims, Dims.Covers, Pos.Inside]
      omega
    · simp only [InWorld]
      omega
  · refine ⟨⟨1, y / 16, 1⟩, ?_, (hloaded' _).mpr ?_⟩
    · simp only [hdims', Dims.Covers, Pos.Inside]
      omega
    · simp only [InWorld]
      omega

/-- Coordinates alone are not enough: the cells of such a chunk cannot even be counted. -/
theorem world_of_vast_chunks : InRange (.cube 4194304) ∧
    (ofSeed 0 32).world (.cube 4194304) = Except.error .mulOverflow := by
  have hd : InRange (.cube 4194304) := inRange_of_le (by decide) (by decide) (by decide)
  exact ⟨hd, world_of_reserve (by decide) (by decide) hd rfl⟩

end Terrain

end VoxelScene
