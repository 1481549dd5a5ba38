import VoxelScene.Proofs.DemoWorld

/-!
Open ground.

Sprites are planted at surface points, which are chosen by the height of the ground alone. In the
demo world there is grass below such a point and nothing solid at it, unless the pillar stands in
the way: where it reaches the ground of its column, the point lies on the pillar or inside it. All
that is said here holds for any ground, and for any chunk size that makes a world at least as high
as the ground may get.
-/

namespace VoxelScene

namespace Checked

variable {α β : Type} {f : α → Checked (List β)} {xs : List α}

theorem collect_of_ok {k : α → List β} (h : ∀ x ∈ xs, f x = .ok (k x)) :
    collect f xs = .ok (xs.flatMap k) := by
  rw [collect, mapM_eq_ok h, ok_bind, List.flatMap_def]
  rfl

theorem exists_of_collect {zs : List β} (h : collect f xs = .ok zs) {x : α} (hx : x ∈ xs) :
    ∃ ys, f x = .ok ys := by
  obtain ⟨pieces, hpieces, -⟩ := bind_eq_ok_iff.mp h
  obtain ⟨i, hi⟩ := List.getElem?_of_mem hx
  obtain ⟨ys, -, hys⟩ := getElem?_mapM hpieces hi
  exact ⟨ys, hys⟩

/-- Two steps that may also be refused are done only if each of them is. -/
theorem done_of_bind {ε : Type} {x : ExceptT ε (Except Fault) α}
    {g : α → ExceptT ε (Except Fault) β} {b : β} (h : (x >>= g) = Except.ok (Except.ok b)) :
    ∃ a, x = Except.ok (Except.ok a) ∧ g a = Except.ok (Except.ok b) := by
  cases x with
  | error f => cases h
  | ok r =>
    cases r with
    | error e => cases h
    | ok a => exact ⟨a, rfl, h⟩

end Checked

/-- Grass lies below the position, and nothing solid is at it. -/
structure World.IsOpenGround (w : World) (p : Pos) : Prop where
  grass : ∃ v, w.voxelAt ⟨p.x, p.y - 1, p.z⟩ = .ok (some v) ∧ v.kind = Palette.grass
  clear : w.query.occludesAt p = .ok false

namespace Terrain

/-- The position is just above the ground of a column of the world that is not flooded. -/
def IsSurfacePoint (t : Terrain) (d : Dims) (p : Pos) : Prop :=
  (0 ≤ p.x ∧ p.x < 3 * d.x) ∧ (0 ≤ p.z ∧ p.z < 3 * d.z) ∧
    pondLevel < t.surface p.x p.z ∧ p.y = t.surface p.x p.z + 1

instance (t : Terrain) (d : Dims) (p : Pos) : Decidable (t.IsSurfacePoint d p) :=
  inferInstanceAs (Decidable (_ ∧ _ ∧ _ ∧ _))

/-- The cell below the position is part of the pillar. -/
def OnPillar (t : Terrain) (p : Pos) : Prop :=
  p.x = pillar.x ∧ p.z = pillar.z ∧ p.y - 1 ≤ t.crest

instance (t : Terrain) (p : Pos) : Decidable (t.OnPillar p) := inferInstanceAs (Decidable (_ ∧ _))

variable {t : Terrain} {d : Dims} {w w' : World} {p : Pos}

/-! ### Surface points -/

/-- The surface point of a column, if it has one. -/
def pointOf (t : Terrain) (x z : Nat) : List Pos :=
  if pondLevel < t.surface x z then [⟨x, t.surface x z + 1, z⟩] else []

/-- The surface points of all columns of the world, row by row. -/
def points (t : Terrain) (d : Dims) : List Pos :=
  (List.range (3 * d.z)).flatMap fun z => (List.range (3 * d.x)).flatMap fun x => t.pointOf x z

theorem surfacePoints_eq (hlow : 2 ≤ t.maxHeight) (hfits : Coord.Fits t.maxHeight) (hd : d.Fits)
    (hx : Coord.Fits (3 * d.x)) (hz : Coord.Fits (3 * d.z)) :
    t.surfacePoints d = .ok (t.points d) := by
  have hwidth : Coord.mul chunksAcross d.extent.x = .ok (3 * d.x) := by
    rw [Dims.extent_of_fits hd]
    exact Coord.mul_eq_ok_iff.mpr ⟨hx, rfl⟩
  have hdepth : Coord.mul chunksAcross d.extent.z = .ok (3 * d.z) := by
    rw [Dims.extent_of_fits hd]
    exact Coord.mul_eq_ok_iff.mpr ⟨hz, rfl⟩
  rw [surfacePoints, hwidth, Checked.ok_bind, hdepth, Checked.ok_bind]
  refine Checked.collect_of_ok fun z _ => Checked.collect_of_ok fun x _ => ?_
  rw [height_eq hlow hfits, Checked.ok_bind]
  rfl

theorem mem_points : p ∈ t.points d ↔ t.IsSurfacePoint d p := by
  obtain ⟨px, py, pz⟩ := p
  simp only [points, pointOf, List.mem_flatMap, List.mem_range, List.mem_ite_nil_right,
    List.mem_singleton, Pos.mk.injEq, IsSurfacePoint]
  constructor
  · rintro ⟨z, hz, x, hx, hdry, rfl, rfl, rfl⟩
    omega
  · rintro ⟨⟨hx, hx'⟩, ⟨hz, hz'⟩, hdry, rfl⟩
    refine ⟨pz.toNat, by omega, px.toNat, by omega, ?_⟩
    rw [Int.toNat_of_nonneg hx, Int.toNat_of_nonneg hz]
    exact ⟨hdry, rfl, rfl, rfl⟩

theorem two_le_of_height {x z y : Int} (h : t.height x z = .ok y) : 2 ≤ t.maxHeight := by
  obtain ⟨top, htop, h⟩ := Checked.bind_eq_ok_iff.mp h
  obtain ⟨-, rfl⟩ := Coord.sub_eq_ok_iff.mp htop
  unfold Coord.clamp at h
  split at h
  · cases h
  · omega

/-- Points are given only if the ground has a range to lie in and the world ends inside the
coordinates. -/
theorem bounds_of_surfacePoints (hd : d.Fits) {ps : List Pos} (h : t.surfacePoints d = .ok ps) :
    2 ≤ t.maxHeight ∧ Coord.Fits (3 * d.x) ∧ Coord.Fits (3 * d.z) := by
  rw [surfacePoints, Dims.extent_of_fits hd] at h
  obtain ⟨width, hwidth, h⟩ := Checked.bind_eq_ok_iff.mp h
  obtain ⟨depth, hdepth, h⟩ := Checked.bind_eq_ok_iff.mp h
  obtain ⟨hx, rfl⟩ := Coord.mul_eq_ok_iff.mp hwidth
  obtain ⟨hz, rfl⟩ := Coord.mul_eq_ok_iff.mp hdepth
  have hxpos := d.x_pos
  have hzpos := d.z_pos
  -- There is a first column, so its height was found.
  obtain ⟨row, hrow⟩ := Checked.exists_of_collect h (x := 0)
    (List.mem_range.mpr (by simp only [chunksAcross]; omega))
  obtain ⟨points, hpoints⟩ := Checked.exists_of_collect hrow (x := 0)
    (List.mem_range.mpr (by simp only [chunksAcross]; omega))
  obtain ⟨y, hy, -⟩ := Checked.bind_eq_ok_iff.mp hpoints
  exact ⟨two_le_of_height hy, hx, hz⟩

/-! ### Worlds that were built -/

/-- A step of the loop, looked back on: the chunk had its cells. -/
theorem grid_of_loadChunk {a : Address} (h : t.loadChunk w a = Except.ok (Except.ok w')) :
    (∃ g, t.grid a w.dims = .ok g) ∧ w'.dims = w.dims := by
  obtain ⟨g, hg, h⟩ := Checked.done_of_bind h
  obtain ⟨-, -, h⟩ := Checked.done_of_bind h
  obtain ⟨-, -, h⟩ := Checked.done_of_bind h
  obtain ⟨loaded, hloaded, h⟩ := Checked.done_of_bind h
  cases hgrid : t.grid a w.dims with
  | error f =>
    rw [hgrid] at hg
    cases hg
  | ok g' =>
    refine ⟨⟨g', rfl⟩, ?_⟩
    cases hload : w.load a (.ofGrid g) with
    | error f =>
      rw [hload] at hloaded
      cases hloaded
    | ok result =>
      rw [hload] at hloaded
      cases hloaded
      cases h
      cases loaded with
      | none => rfl
      | some v =>
        obtain ⟨ns, -, -, -, hchanges⟩ := World.load_eq_some hload
        exact hchanges.dims

/-- The whole loop, looked back on. -/
theorem grids_of_foldlM {bs : List Address}
    (h : bs.foldlM t.loadChunk w = Except.ok (Except.ok w')) :
    ∀ b ∈ bs, ∃ g, t.grid b w.dims = .ok g := by
  induction bs generalizing w with
  | nil =>
    intro b hb
    cases hb
  | cons a bs ih =>
    rw [List.foldlM_cons] at h
    obtain ⟨v, hv, hrest⟩ := Checked.done_of_bind h
    obtain ⟨hgrid, hdims⟩ := grid_of_loadChunk hv
    intro b hb
    rcases List.mem_cons.mp hb with rfl | hb
    · exact hgrid
    · rw [← hdims]
      exact ih hrest b hb

/-- A world that was built has all its cells inside the coordinates: the layers of the upper chunks
were counted. -/
theorem inRange_of_world (hd : d.Fits) (hx : Coord.Fits (3 * d.x)) (hz : Coord.Fits (3 * d.z))
    (hw : t.world d = Except.ok (Except.ok w)) : InRange d := by
  obtain ⟨g, hg⟩ := grids_of_foldlM hw ⟨0, 1, 0⟩ (by decide)
  obtain ⟨origin, horigin, hg⟩ := Checked.bind_eq_ok_iff.mp hg
  obtain ⟨_, -, hg⟩ := Checked.bind_eq_ok_iff.mp hg
  obtain ⟨_, -, hg⟩ := Checked.bind_eq_ok_iff.mp hg
  obtain ⟨_, -, hg⟩ := Checked.bind_eq_ok_iff.mp hg
  obtain ⟨ys, hlayers, -⟩ := Checked.bind_eq_ok_iff.mp hg
  obtain rfl := Dims.eq_of_origin hd horigin
  have hpos := d.y_pos
  obtain ⟨y, -, hy⟩ := Checked.getElem?_mapM hlayers
    (List.getElem?_range (by omega : d.y - 1 < d.y))
  have hlast : Coord.Fits (1 * d.y + (d.y - 1 : Nat)) := (Coord.add_eq_ok_iff.mp hy).1
  unfold Coord.Fits Coord.least Coord.greatest at *
  exact inRange_of_le (by omega) (by omega) (by omega)

/-! ### Around a surface point -/

theorem Shows.occupied_iff (h : t.Shows d addresses w) : w.Occupied p ↔
    (0 ≤ p.x ∧ p.x < 3 * d.x) ∧ (0 ≤ p.y ∧ p.y < 2 * d.y) ∧ (0 ≤ p.z ∧ p.z < 3 * d.z) := by
  have axis (n count : Int) {size : Nat} (hs : 0 < size) :
      0 ≤ n / size ∧ n / size < count ↔ 0 ≤ n ∧ n < count * size := by
    have hpos : (0 : Int) < size := Int.natCast_pos.mpr hs
    rw [Int.ediv_nonneg_iff_of_pos hpos, Int.ediv_lt_iff_lt_mul hpos]
  rw [World.occupied_iff, h.loaded, mem_addresses, h.dims, ← axis p.x 3 d.x_pos,
    ← axis p.y 2 d.y_pos, ← axis p.z 3 d.z_pos]
  rfl

theorem ground_surface (surface top x z : Int) : ground surface top ⟨x, surface, z⟩ =
    if x = pillar.x ∧ z = pillar.z ∧ surface ≤ top then .stone else .grass := by
  simp only [ground, Int.lt_irrefl, false_or, if_true]

theorem occludes_above_surface (surface top x z : Int) (shade : Color) :
    ((ground surface top ⟨x, surface + 1, z⟩).voxel shade).occludes =
      decide (x = pillar.x ∧ z = pillar.z ∧ surface + 1 ≤ top) := by
  by_cases hpillar : x = pillar.x ∧ z = pillar.z ∧ surface + 1 ≤ top
  · have hstone : ground surface top ⟨x, surface + 1, z⟩ = .stone := if_pos (.inr hpillar)
    rw [hstone, decide_eq_true hpillar]
    rfl
  · have hrock : ¬ (surface + 1 < surface ∨ x = pillar.x ∧ z = pillar.z ∧ surface + 1 ≤ top) := by
      rintro (hlt | hat)
      · omega
      · exact hpillar hat
    have hgrass : surface + 1 ≠ surface := by omega
    rw [ground, if_neg hrock, if_neg hgrass, decide_eq_false hpillar]
    split
    · rfl
    · split <;> rfl

theorem surface_lt {x z : Int} (h : pondLevel < t.surface x z) : t.surface x z < t.maxHeight := by
  unfold surface pondLevel at *
  omega

theorem IsSurfacePoint.fits (hp : t.IsSurfacePoint d p) (hfits : Coord.Fits t.maxHeight)
    (hx : Coord.Fits (3 * d.x)) (hz : Coord.Fits (3 * d.z)) : p.Fits := by
  obtain ⟨hpx, hpz, hdry, hpy⟩ := hp
  have hlt := surface_lt hdry
  unfold pondLevel at hdry
  unfold Pos.Fits Coord.Fits Coord.least Coord.greatest at *
  omega

theorem InRange.edges_fit (hd : InRange d) :
    Coord.Fits (3 * d.x) ∧ Coord.Fits (3 * d.z) := by
  have hx := d.x_pos
  have hy := d.y_pos
  have hz := d.z_pos
  have hcorner : d.Covers ⟨2, 1, 2⟩ ⟨3 * d.x - 1, 2 * d.y - 1, 3 * d.z - 1⟩ := by
    simp only [Dims.Covers, Pos.Inside]
    omega
  obtain ⟨hfx, -, hfz⟩ := hd ⟨2, 1, 2⟩ (by decide) _ hcorner
  simp only [Coord.Fits, Coord.least, Coord.greatest] at *
  omega

theorem Shows.voxel_below (h : t.Shows d addresses w) (hd : InRange d)
    (hroom : t.maxHeight ≤ 2 * d.y) (hp : t.IsSurfacePoint d p) :
    ∃ v, w.voxelAt ⟨p.x, p.y - 1, p.z⟩ = .ok (some v) ∧
      v.kind = if t.OnPillar p then Palette.stone else Palette.grass := by
  obtain ⟨hx, hz, hdry, hy⟩ := hp
  have hground : p.y - 1 = t.surface p.x p.z := by omega
  have hlt := surface_lt hdry
  have hoccupied : w.Occupied ⟨p.x, p.y - 1, p.z⟩ := by
    refine h.occupied_iff.mpr ⟨hx, ?_, hz⟩
    unfold pondLevel at hdry
    simp only
    omega
  refine ⟨_, (h.reads hd hoccupied).1, ?_⟩
  simp only [cellAt, cell, OnPillar, hground, ground_surface]
  split <;> rfl

theorem Shows.occludesAt_point (h : t.Shows d addresses w) (hd : InRange d) (hfits : p.Fits)
    (hroom : t.maxHeight ≤ 2 * d.y) (hp : t.IsSurfacePoint d p) : w.query.occludesAt p =
      .ok (decide (p.x = pillar.x ∧ p.z = pillar.z ∧ p.y ≤ t.crest)) := by
  obtain ⟨px, py, pz⟩ := p
  obtain ⟨hx, hz, hdry, hy⟩ := hp
  simp only at hx hz hdry hy
  subst hy
  rw [Query.occludesAt]
  by_cases hoccupied : w.Occupied ⟨px, t.surface px pz + 1, pz⟩
  · have hread : w.query.voxelAt ⟨px, t.surface px pz + 1, pz⟩ = .ok (some _) :=
      (h.reads hd hoccupied).1
    rw [hread, Checked.ok_bind, Option.any_some]
    exact congrArg Except.ok (occludes_above_surface ..)
  · -- The point lies on top of the world, and the pillar ends below that.
    have hcells : w.cells ⟨px, t.surface px pz + 1, pz⟩ = none := by
      rwa [← World.isSome_cells, Option.not_isSome_iff_eq_none] at hoccupied
    have hread : w.query.voxelAt ⟨px, t.surface px pz + 1, pz⟩ = .ok none := by
      have hreads := (World.reads_of_fits (h.dims.symm ▸ hd.fits : w.dims.Fits) hfits).1
      rwa [hcells] at hreads
    have hpillar : ¬ (px = pillar.x ∧ pz = pillar.z ∧ t.surface px pz + 1 ≤ t.crest) := by
      have hlt := surface_lt hdry
      rw [h.occupied_iff] at hoccupied
      unfold crest pondLevel at *
      simp only at hoccupied
      omega
    rw [hread, Checked.ok_bind, decide_eq_false hpillar]
    rfl

theorem Shows.isOpenGround_iff (h : t.Shows d addresses w) (hd : InRange d) (hfits : p.Fits)
    (hroom : t.maxHeight ≤ 2 * d.y) (hp : t.IsSurfacePoint d p) :
    w.IsOpenGround p ↔ ¬ t.OnPillar p := by
  obtain ⟨v, hv, hkind⟩ := h.voxel_below hd hroom hp
  constructor
  · intro hopen hpillar
    obtain ⟨u, hu, hgrass⟩ := hopen.grass
    cases hv.symm.trans hu
    rw [if_pos hpillar] at hkind
    exact absurd (hkind.symm.trans hgrass) (by decide)
  · intro hpillar
    rw [if_neg hpillar] at hkind
    refine ⟨⟨v, hv, hkind⟩, ?_⟩
    rw [h.occludesAt_point hd hfits hroom hp]
    refine congrArg Except.ok (decide_eq_false ?_)
    rintro ⟨hx, hz, hy⟩
    exact hpillar ⟨hx, hz, by omega⟩

/-- Surface points and open ground. Where a world as high as the ground may get can be built, the
surface points are found too. They are the places above the ground of all columns that are not
flooded, and in the world each of them is open ground unless the pillar is in the way: then there is
stone below the point, and at the point as well if the pillar goes on above it. -/
theorem surface_points_open_iff_off_pillar (hfits : Coord.Fits t.maxHeight) (hd : d.Fits)
    (hroom : t.maxHeight ≤ 2 * d.y) :
    (2 ≤ t.maxHeight → InRange d → d.Storable →
      ∃ ps w, t.surfacePoints d = .ok ps ∧ t.world d = Except.ok (Except.ok w)) ∧
    ∀ ps w, t.surfacePoints d = .ok ps → t.world d = Except.ok (Except.ok w) →
      (∀ p, p ∈ ps ↔ t.IsSurfacePoint d p) ∧
      ∀ p ∈ ps, (w.IsOpenGround p ↔ ¬ t.OnPillar p) ∧ (t.OnPillar p →
        (∃ v, w.voxelAt ⟨p.x, p.y - 1, p.z⟩ = .ok (some v) ∧ v.kind = Palette.stone) ∧
          w.query.occludesAt p = .ok (decide (p.y ≤ t.crest))) := by
  constructor
  · intro hlow hrange hstorable
    obtain ⟨hx, hz⟩ := hrange.edges_fit
    obtain ⟨w, hw, -⟩ := exists_world hlow hfits hrange hstorable
    exact ⟨_, w, surfacePoints_eq hlow hfits hd hx hz, hw⟩
  · intro ps w hps hw
    obtain ⟨hlow, hx, hz⟩ := bounds_of_surfacePoints hd hps
    have hrange := inRange_of_world hd hx hz hw
    have hshows := shows_of_world hlow hfits hrange hw
    rw [surfacePoints_eq hlow hfits hd hx hz] at hps
    obtain rfl := Except.ok.inj hps
    refine ⟨fun p => mem_points, fun p hp => ?_⟩
    have hpoint := mem_points.mp hp
    have hposition := hpoint.fits hfits hx hz
    refine ⟨hshows.isOpenGround_iff hrange hposition hroom hpoint, fun hpillar => ⟨?_, ?_⟩⟩
    · obtain ⟨v, hv, hkind⟩ := hshows.voxel_below hrange hroom hpoint
      rw [if_pos hpillar] at hkind
      exact ⟨v, hv, hkind⟩
    · rw [hshows.occludesAt_point hrange hposition hroom hpoint]
      simp only [hpillar.1, hpillar.2.1, true_and]

/-- Level ground just above the pond. -/
def meadow : Terrain := ⟨fun _ _ => 10, 16⟩

/-- Beside the pillar the ground is open even below the waterfall. -/
theorem surface_points_open_iff_off_pillar_meadow : ∃ ps w,
    meadow.surfacePoints (.ofSizes 3 8 3) = .ok ps ∧
      meadow.world (.ofSizes 3 8 3) = Except.ok (Except.ok w) ∧
      ⟨7, 11, 6⟩ ∈ ps ∧ w.IsOpenGround ⟨7, 11, 6⟩ := by
  have hrange : InRange (.ofSizes 3 8 3) := inRange_of_le (by decide) (by decide) (by decide)
  obtain ⟨hexists, hpoints⟩ := surface_points_open_iff_off_pillar (t := meadow)
    (d := .ofSizes 3 8 3) (by decide) (by decide) (by decide)
  obtain ⟨ps, w, hps, hw⟩ := hexists (by decide) hrange (by decide)
  obtain ⟨hmem, hopen⟩ := hpoints ps w hps hw
  have hpoint : ⟨7, 11, 6⟩ ∈ ps := (hmem _).mpr (by decide)
  exact ⟨ps, w, hps, hw, hpoint, ((hopen _ hpoint).1).mpr (by decide)⟩

/-- The point of the pillar's own column lies inside the pillar. -/
theorem surface_point_inside_pillar : ∃ ps w,
    meadow.surfacePoints (.ofSizes 3 8 3) = .ok ps ∧
      meadow.world (.ofSizes 3 8 3) = Except.ok (Except.ok w) ∧
      ⟨6, 11, 6⟩ ∈ ps ∧ ¬ w.IsOpenGround ⟨6, 11, 6⟩ ∧ w.query.occludesAt ⟨6, 11, 6⟩ = .ok true := by
  have hrange : InRange (.ofSizes 3 8 3) := inRange_of_le (by decide) (by decide) (by decide)
  have hpoint : meadow.IsSurfacePoint (.ofSizes 3 8 3) ⟨6, 11, 6⟩ := by decide
  obtain ⟨w, hw, hshows⟩ := exists_world (t := meadow) (by decide) (by decide) hrange (by decide)
  refine ⟨_, w, surfacePoints_eq (by decide) (by decide) (by decide) (by decide) (by decide), hw,
    mem_points.mpr hpoint, ?_, ?_⟩
  · rw [hshows.isOpenGround_iff hrange (by decide) (by decide) hpoint, not_not]
    decide
  · exact hshows.occludesAt_point hrange (by decide) (by decide) hpoint

end Terrain

end VoxelScene
