import Mathlib.Data.List.Nodup
import VoxelScene.Proofs.CellMap
import VoxelScene.Proofs.MeshTotal

/-!
Cells, places and positions.

A cell of a chunk has a place in storage, and together with the address of its chunk it has a
position in the world. Both ways of counting are one to one: places run from zero to the volume,
layer by layer, and every position is that of one cell of one chunk. The readers of a cell are the
chunks with a cell at most one step from it, each listed once. Places are storage words and
positions are coordinates, so a cell too far along has no place, and a chunk too far out has no
origin.
-/

namespace VoxelScene

/-! ### Places in storage -/

/-- Storage order: by layer, in a layer by row, in a row along x. -/
def Local.Before (l m : Local) : Prop :=
  l.y < m.y ∨ l.y = m.y ∧ (l.z < m.z ∨ l.z = m.z ∧ l.x < m.x)

instance (l m : Local) : Decidable (l.Before m) := inferInstanceAs (Decidable (_ ∨ _ ∧ _))

/-- Numbers of two digits, the lower one below `n`, are ordered by the upper digit first. -/
theorem digits_lt_iff {n a b a' b' : Nat} (ha : a < n) (ha' : a' < n) :
    a + n * b < a' + n * b' ↔ b < b' ∨ b = b' ∧ a < a' := by
  have step {c c' : Nat} (h : c < c') : n * c + n ≤ n * c' := by
    rw [← Nat.mul_succ]
    exact Nat.mul_le_mul_left n h
  rcases Nat.lt_trichotomy b b' with h | rfl | h
  · have hle := step h
    omega
  · omega
  · have hle := step h
    omega

namespace Dims

variable {d : Dims} {l m : Local} {i : Nat}

theorem index_position (hi : i < d.volume) :
    d.Holds (d.position i) ∧ d.index (d.position i) = i := by
  have hlayers : i < d.x * d.z * d.y := by
    rw [Nat.mul_right_comm]
    exact hi
  refine ⟨⟨Nat.mod_lt _ d.x_pos, Nat.div_lt_of_lt_mul hlayers, Nat.mod_lt _ d.z_pos⟩, ?_⟩
  calc i % d.x + d.x * (i / d.x % d.z + d.z * (i / (d.x * d.z)))
      = i % d.x + d.x * (i / d.x % d.z + d.z * (i / d.x / d.z)) := by
        rw [Nat.div_div_eq_div_mul]
    _ = i % d.x + d.x * (i / d.x) := by rw [Nat.mod_add_div]
    _ = i := Nat.mod_add_div i d.x

theorem index_lt_index_iff (hl : d.Holds l) (hm : d.Holds m) :
    d.index l < d.index m ↔ l.Before m := by
  obtain ⟨hlx, -, hlz⟩ := hl
  obtain ⟨hmx, -, hmz⟩ := hm
  have hrow : l.z + d.z * l.y < m.z + d.z * m.y ↔ l.y < m.y ∨ l.y = m.y ∧ l.z < m.z :=
    digits_lt_iff hlz hmz
  have hrow' : m.z + d.z * m.y < l.z + d.z * l.y ↔ m.y < l.y ∨ m.y = l.y ∧ m.z < l.z :=
    digits_lt_iff hmz hlz
  rw [index, index, digits_lt_iff hlx hmx, Local.Before]
  omega

/-- The place is computed exactly where it is a storage word: no step on the way to it is greater
than the place itself. -/
theorem checkedIndex_eq_ok_iff :
    d.checkedIndex l = .ok i ↔ d.index l < Word.storageBound ∧ i = d.index l := by
  have hrow : l.z + d.z * l.y ≤ d.x * (l.z + d.z * l.y) := Nat.le_mul_of_pos_left _ d.x_pos
  simp only [checkedIndex, Checked.bind_eq_ok_iff, Word.mul_eq_ok_iff, Word.add_eq_ok_iff, index]
  constructor
  · rintro ⟨layer, ⟨-, rfl⟩, row, ⟨-, rfl⟩, before, ⟨-, rfl⟩, hlt, rfl⟩
    exact ⟨hlt, rfl⟩
  · rintro ⟨hlt, rfl⟩
    exact ⟨_, ⟨by omega, rfl⟩, _, ⟨by omega, rfl⟩, _, ⟨by omega, rfl⟩, hlt, rfl⟩

theorem checkedIndex_of_le (h : Word.storageBound ≤ d.index l) :
    d.checkedIndex l = .error .mulOverflow ∨ d.checkedIndex l = .error .addOverflow := by
  rw [checkedIndex]
  rcases Word.mul_cases d.z l.y with hlayer | hlayer
  · rw [hlayer, Checked.ok_bind]
    rcases Word.add_cases l.z (d.z * l.y) with hrow | hrow
    · rw [hrow, Checked.ok_bind]
      rcases Word.mul_cases d.x (l.z + d.z * l.y) with hbefore | hbefore
      · rw [hbefore, Checked.ok_bind]
        exact .inr (if_neg (Nat.not_lt.mpr h))
      · exact .inl (by rw [hbefore]; rfl)
    · exact .inr (by rw [hrow]; rfl)
  · exact .inl (by rw [hlayer]; rfl)

theorem checkedPosition_eq (hd : d.Fits) : d.checkedPosition i = .ok (d.position i) := by
  obtain ⟨⟨-, hx⟩, -, ⟨-, hz⟩⟩ := hd
  have hfloor : d.x * d.z ≤ 2147483647 * 2147483647 :=
    Nat.mul_le_mul (by unfold Coord.greatest at hx; omega) (by unfold Coord.greatest at hz; omega)
  have hlt : d.x * d.z < Word.storageBound := Nat.lt_of_le_of_lt hfloor (by decide)
  rw [checkedPosition, Word.mul_eq_ok_iff.mpr ⟨hlt, rfl⟩]
  rfl

/-- Every cell has a place exactly if the last one has. -/
theorem exists_checkedIndex_iff :
    (∀ l, d.Holds l → ∃ i, d.checkedIndex l = .ok i) ↔ d.volume ≤ Word.storageBound := by
  constructor
  · intro h
    have hpos : 0 < d.volume := Nat.mul_pos (Nat.mul_pos d.x_pos d.y_pos) d.z_pos
    obtain ⟨hlast, hplace⟩ := index_position (Nat.sub_lt hpos Nat.one_pos)
    obtain ⟨i, hi⟩ := h _ hlast
    have hlt := (checkedIndex_eq_ok_iff.mp hi).1
    omega
  · intro h l hl
    exact ⟨_, checkedIndex_eq_ok_iff.mpr ⟨Nat.lt_of_lt_of_le (index_lt_volume hl) h, rfl⟩⟩

/-! ### Positions -/

/-- The cell `l` of the chunk at `a` is at the position. -/
def Names (d : Dims) (a : Address) (l : Local) (p : Pos) : Prop :=
  p.x = a.x * d.x + l.x ∧ p.y = a.y * d.y + l.y ∧ p.z = a.z * d.z + l.z

instance (d : Dims) (a : Address) (l : Local) (p : Pos) : Decidable (d.Names a l p) :=
  inferInstanceAs (Decidable (_ ∧ _ ∧ _))

variable {a : Address} {p : Pos}

theorem cellAt_eq_iff : d.cellAt p = (a, l) ↔ d.Holds l ∧ d.Names a l p := by
  -- Along one axis the quotient and the remainder are told by their sum.
  have axis {n k : Int} {size coord : Nat} (hs : 0 < size) :
      n / size = k ∧ (n % size).toNat = coord ↔ coord < size ∧ n = k * size + coord := by
    have hpos : (0 : Int) < size := Int.natCast_pos.mpr hs
    have hnonneg := Int.emod_nonneg n (Int.ne_of_gt hpos)
    have hlt := Int.emod_lt_of_pos n hpos
    have hsum := Int.mul_ediv_add_emod n size
    constructor
    · rintro ⟨rfl, rfl⟩
      rw [Int.mul_comm] at hsum
      omega
    · rintro ⟨hcoord, rfl⟩
      obtain ⟨hinside, hplace⟩ := quotient_iff_inside (n := k * size + coord) (k := k) hs
      have hk := hinside.mp (by omega)
      have hrest := hplace hk
      exact ⟨hk, by omega⟩
  obtain ⟨ax, ay, az⟩ := a
  obtain ⟨lx, ly, lz⟩ := l
  simp only [cellAt, Prod.mk.injEq, Address.mk.injEq, Local.mk.injEq]
  constructor
  · rintro ⟨⟨hax, hay, haz⟩, hlx, hly, hlz⟩
    obtain ⟨hx, hpx⟩ := (axis d.x_pos).mp ⟨hax, hlx⟩
    obtain ⟨hy, hpy⟩ := (axis d.y_pos).mp ⟨hay, hly⟩
    obtain ⟨hz, hpz⟩ := (axis d.z_pos).mp ⟨haz, hlz⟩
    exact ⟨⟨hx, hy, hz⟩, hpx, hpy, hpz⟩
  · rintro ⟨⟨hx, hy, hz⟩, hpx, hpy, hpz⟩
    obtain ⟨hax, hlx⟩ := (axis d.x_pos).mpr ⟨hx, hpx⟩
    obtain ⟨hay, hly⟩ := (axis d.y_pos).mpr ⟨hy, hpy⟩
    obtain ⟨haz, hlz⟩ := (axis d.z_pos).mpr ⟨hz, hpz⟩
    exact ⟨⟨hax, hay, haz⟩, hlx, hly, hlz⟩

/-- `index` and `position` number the cells of the box in storage order, as far as storage words
go. -/
structure Numbered (d : Dims) : Prop where
  volume : d.volume < Word.storageBound → d.checkedVolume = .ok d.volume
  /-- A cell has its number for its place, or else the number is not a storage word. -/
  place : ∀ l, d.Holds l →
    d.index l < Word.storageBound ∧ d.checkedIndex l = .ok (d.index l) ∨
      Word.storageBound ≤ d.index l ∧
        (d.checkedIndex l = .error .mulOverflow ∨ d.checkedIndex l = .error .addOverflow)
  all_placed : (∀ l, d.Holds l → ∃ i, d.checkedIndex l = .ok i) ↔ d.volume ≤ Word.storageBound
  position_of_index : ∀ l i, d.Holds l → d.checkedIndex l = .ok i →
    i < d.volume ∧ d.checkedPosition i = .ok l
  index_of_position : ∀ i, i < d.volume → i < Word.storageBound →
    ∃ l, d.Holds l ∧ d.checkedPosition i = .ok l ∧ d.checkedIndex l = .ok i
  ordered : ∀ l m i j, d.Holds l → d.Holds m → d.checkedIndex l = .ok i →
    d.checkedIndex m = .ok j → (i < j ↔ l.Before m)

end Dims

theorem Pos.times_of_not_fits {p d : Pos} (h : ¬ Fits ⟨p.x * d.x, p.y * d.y, p.z * d.z⟩) :
    p.times d = .error .mulOverflow := by
  unfold times Coord.mul Coord.guarded
  by_cases hx : Coord.Fits (p.x * d.x)
  · by_cases hy : Coord.Fits (p.y * d.y)
    · have hz : ¬ Coord.Fits (p.z * d.z) := fun hz => h ⟨hx, hy, hz⟩
      rw [if_pos hx, if_pos hy, if_neg hz]
      rfl
    · rw [if_pos hx, if_neg hy]
      rfl
  · rw [if_neg hx]
    rfl

/-- Counting from the origin of a chunk leads to the positions of its cells. -/
theorem Dims.Names.plus_origin {d : Dims} {a : Address} {l : Local} {p : Pos} (hp : d.Names a l p)
    (hd : d.Fits) (hfits : p.Fits) (hcorner : Pos.Fits ⟨a.x * d.x, a.y * d.y, a.z * d.z⟩) :
    ∃ o, a.origin d = .ok o ∧ o.plus l.toPos = .ok p := by
  obtain ⟨hx, hy, hz⟩ := hp
  rw [Address.origin, extent_of_fits hd]
  refine ⟨_, Pos.times_eq_ok_iff.mpr ⟨rfl, hcorner⟩, Pos.plus_eq_ok_iff.mpr ⟨?_, hfits⟩⟩
  simp only [Local.toPos, ← hx, ← hy, ← hz]

theorem Address.origin_of_not_fits {a : Address} {d : Dims} (hd : d.Fits)
    (hcorner : ¬ Pos.Fits ⟨a.x * d.x, a.y * d.y, a.z * d.z⟩) :
    a.origin d = .error .mulOverflow := by
  rw [origin, Dims.extent_of_fits hd]
  exact Pos.times_of_not_fits hcorner

namespace World

variable {w : World}

/-- Positions and cells of chunks are two names of the same thing. -/
structure Locates (w : World) : Prop where
  found : ∀ p, p.Fits → ∃ a l, w.locate p = .ok (a, l)
  named : ∀ p a l, p.Fits → (w.locate p = .ok (a, l) ↔ w.dims.Holds l ∧ w.dims.Names a l p)
  /-- The position of a cell is counted from the origin of its chunk, if the chunk has one. -/
  from_origin : ∀ p a l, p.Fits → w.dims.Names a l p →
    (Pos.Fits ⟨a.x * w.dims.x, a.y * w.dims.y, a.z * w.dims.z⟩ →
      ∃ o, a.origin w.dims = .ok o ∧ o.plus l.toPos = .ok p) ∧
    (¬ Pos.Fits ⟨a.x * w.dims.x, a.y * w.dims.y, a.z * w.dims.z⟩ →
      a.origin w.dims = .error .mulOverflow)

/-- Coordinates correspond one to one. With sizes that are coordinates themselves, cells and their
places in storage determine each other, places follow layers, rows and cells of a row, and a cell
has no place only where its number is not a storage word. Every position is that of just one cell
of one chunk, which is found, and which leads back to the position from the origin of its chunk. -/
theorem coordinates_correspond (hd : w.dims.Fits) : w.dims.Numbered ∧ w.Locates := by
  have hposition {i : Nat} : w.dims.checkedPosition i = .ok (w.dims.position i) :=
    Dims.checkedPosition_eq hd
  refine ⟨⟨Dims.checkedVolume_eq, fun l hl => ?_, Dims.exists_checkedIndex_iff,
    fun l i hl hi => ?_, fun i hi hword => ?_, fun l m i j hl hm hi hj => ?_⟩,
    ⟨fun p hp => ⟨_, _, locate_of_fits hd hp⟩, fun p a l hp => ?_, fun p a l hp hnames => ?_⟩⟩
  · rcases Nat.lt_or_ge (w.dims.index l) Word.storageBound with hlt | hge
    · exact .inl ⟨hlt, Dims.checkedIndex_eq_ok_iff.mpr ⟨hlt, rfl⟩⟩
    · exact .inr ⟨hge, Dims.checkedIndex_of_le hge⟩
  · obtain ⟨-, rfl⟩ := Dims.checkedIndex_eq_ok_iff.mp hi
    rw [hposition, Dims.position_index hl]
    exact ⟨Dims.index_lt_volume hl, rfl⟩
  · obtain ⟨hholds, hplace⟩ := Dims.index_position hi
    have hindex : w.dims.checkedIndex (w.dims.position i) = .ok i :=
      Dims.checkedIndex_eq_ok_iff.mpr ⟨by rwa [hplace], hplace.symm⟩
    exact ⟨w.dims.position i, hholds, hposition, hindex⟩
  · obtain ⟨-, rfl⟩ := Dims.checkedIndex_eq_ok_iff.mp hi
    obtain ⟨-, rfl⟩ := Dims.checkedIndex_eq_ok_iff.mp hj
    exact Dims.index_lt_index_iff hl hm
  · rw [locate_of_fits hd hp, Except.ok.injEq]
    exact Dims.cellAt_eq_iff
  · exact ⟨hnames.plus_origin hd hp, Address.origin_of_not_fits hd⟩

/-- Chunks with almost as many cells as there are storage words. The least position of all lies in
a chunk that has no origin. -/
theorem coordinates_correspond_vast : ∃ w : World,
    w.dims = .ofSizes 2147483647 4 2147483647 ∧ w.dims.Fits ∧
      (∀ l, w.dims.Holds l → ∃ i, w.dims.checkedIndex l = .ok i) ∧
      (∀ i, i < w.dims.volume → ∃ l, w.dims.Holds l ∧ w.dims.checkedPosition i = .ok l ∧
        w.dims.checkedIndex l = .ok i) ∧
      w.locate ⟨-2147483648, -2147483648, -2147483648⟩ =
        .ok (⟨-2, -536870912, -2⟩, ⟨2147483646, 0, 2147483646⟩) ∧
      Address.origin ⟨-2, -536870912, -2⟩ w.dims = .error .mulOverflow := by
  have hd : (Dims.ofSizes 2147483647 4 2147483647).Fits := by decide
  obtain ⟨hnumbered, hlocates⟩ := coordinates_correspond (w := .empty _) hd
  have hvolume : (Dims.ofSizes 2147483647 4 2147483647).volume ≤ Word.storageBound := by decide
  have hnames : (Dims.ofSizes 2147483647 4 2147483647).Names ⟨-2, -536870912, -2⟩
      ⟨2147483646, 0, 2147483646⟩ ⟨-2147483648, -2147483648, -2147483648⟩ := by decide
  refine ⟨.empty _, rfl, hd, hnumbered.all_placed.mpr hvolume, fun i hi => ?_, ?_, ?_⟩
  · exact hnumbered.index_of_position i hi (Nat.lt_of_lt_of_le hi hvolume)
  · exact (hlocates.named _ _ _ (by decide)).mpr ⟨by decide, hnames⟩
  · exact (hlocates.from_origin _ _ _ (by decide) hnames).2 (by decide)

/-- Not every box of such sizes can be numbered, and not every chunk with a cell in the world has
an origin. -/
theorem no_place_or_origin_beyond_words :
    ((Dims.cube 2147483647).Fits ∧
      (Dims.cube 2147483647).Holds ⟨2147483646, 2147483646, 2147483646⟩ ∧
      (Dims.cube 2147483647).checkedIndex ⟨2147483646, 2147483646, 2147483646⟩ =
        .error .mulOverflow) ∧
    ((Dims.ofSizes 3 1 1).Holds ⟨1, 0, 0⟩ ∧
      (Dims.ofSizes 3 1 1).Names ⟨-715827883, 0, 0⟩ ⟨1, 0, 0⟩ ⟨-2147483648, 0, 0⟩ ∧
      Address.origin ⟨-715827883, 0, 0⟩ (.ofSizes 3 1 1) = .error .mulOverflow) := by
  decide

end World

/-! ### Chunks around a cell -/

/-- The greatest of the distances along the three axes. -/
def Pos.distance (p q : Pos) : Nat :=
  max (p.x - q.x).natAbs (max (p.y - q.y).natAbs (p.z - q.z).natAbs)

/-- Every coordinate of the address fits its word. -/
def Address.Fits (a : Address) : Prop := Coord.Fits a.x ∧ Coord.Fits a.y ∧ Coord.Fits a.z

/-- Every size is a storage word. -/
def Dims.InWords (d : Dims) : Prop :=
  d.x < Word.storageBound ∧ d.y < Word.storageBound ∧ d.z < Word.storageBound

instance (d : Dims) : Decidable d.InWords := inferInstanceAs (Decidable (_ ∧ _ ∧ _))

/-- Along one axis: a chunk is beside a coordinate if one of its own is at most one away. -/
theorem beside_iff {k j : Int} {coord size : Nat} (hcoord : coord < size) :
    Beside coord size (j - k) ↔
      ∃ n, (j * size ≤ n ∧ n < j * size + size) ∧ (k * size + coord - n).natAbs ≤ 1 := by
  have hjump : j * size = k * size + (j - k) * size := by
    rw [← Int.add_mul]
    congr 1
    omega
  rw [hjump]
  generalize j - k = step
  generalize k * (size : Int) = base
  constructor
  · rintro (rfl | ⟨rfl, rfl⟩ | ⟨rfl, hlast⟩)
    · exact ⟨base + coord, by omega⟩
    · exact ⟨base - 1, by omega⟩
    · exact ⟨base + size, by omega⟩
  · rintro ⟨n, ⟨hlo, hhi⟩, hnear⟩
    have hstep : -1 ≤ step ∧ step ≤ 1 := by
      constructor
      · by_contra hlow
        have hmul : step * size ≤ -2 * size := Int.mul_le_mul_of_nonneg_right (by omega) (by omega)
        omega
      · by_contra hhigh
        have hmul : 2 * size ≤ step * size := Int.mul_le_mul_of_nonneg_right (by omega) (by omega)
        omega
    obtain rfl | rfl | rfl : step = -1 ∨ step = 0 ∨ step = 1 := by omega
    all_goals
      unfold Beside
      omega

namespace Address

variable {a b : Address} {d : Dims} {l : Local} {p : Pos}

theorem isReader_iff (hl : d.Holds l) (hp : d.Names a l p) :
    IsReader d a l b ↔ ∃ q, d.Covers b q ∧ p.distance q ≤ 1 := by
  obtain ⟨hx, hy, hz⟩ := hl
  obtain ⟨hpx, hpy, hpz⟩ := hp
  rw [IsReader, beside_iff hx, beside_iff hy, beside_iff hz, ← hpx, ← hpy, ← hpz]
  simp only [Dims.Covers, Pos.Inside, Pos.distance, Nat.max_le]
  constructor
  · rintro ⟨⟨x, hbx, hnx⟩, ⟨y, hby, hny⟩, z, hbz, hnz⟩
    exact ⟨⟨x, y, z⟩, ⟨hbx, hby, hbz⟩, hnx, hny, hnz⟩
  · rintro ⟨⟨x, y, z⟩, ⟨hbx, hby, hbz⟩, hnx, hny, hnz⟩
    exact ⟨⟨x, hbx, hnx⟩, ⟨y, hby, hny⟩, z, hbz, hnz⟩

theorem exists_nodup_touchedSteps {coord size : Nat} (hsize : size < Word.storageBound)
    (h : coord < size) : ∃ steps, touchedSteps coord size = .ok steps ∧ steps.Nodup := by
  rw [touchedSteps, Word.add_eq_ok_iff.mpr ⟨Nat.lt_of_le_of_lt h hsize, rfl⟩]
  refine ⟨_, rfl, ?_⟩
  split <;> split <;> decide

theorem shift_injective : Function.Injective a.shift := by
  rintro ⟨x, y, z⟩ ⟨x', y', z'⟩ h
  simp only [shift, mk.injEq] at h
  simp only [Pos.mk.injEq]
  omega

theorem nodup_steps {xs ys zs : List Int} (hx : xs.Nodup) (hy : ys.Nodup) (hz : zs.Nodup) :
    (ys.flatMap fun dy => zs.flatMap fun dz => xs.map fun dx => (⟨dx, dy, dz⟩ : Pos)).Nodup := by
  have hproduct : (ys.flatMap fun dy => zs.flatMap fun dz => xs.map fun dx =>
      (⟨dx, dy, dz⟩ : Pos)) = (ys.product (zs.product xs)).map fun s => ⟨s.2.2, s.1, s.2.1⟩ := by
    simp only [List.product, List.map_flatMap, List.map_map]
    rfl
  rw [hproduct]
  refine (hy.product (hz.product hx)).map ?_
  rintro ⟨y, z, x⟩ ⟨y', z', x'⟩ h
  simp only [Pos.mk.injEq] at h
  obtain ⟨rfl, rfl, rfl⟩ := h
  rfl

/-- A chunk whose neighbours all have addresses has room for a step of one along each axis. -/
theorem fits_shift (ha : ∀ b, a.IsNeighbor b → b.Fits) {s : Pos} (hs : s.IsUnit) :
    (a.shift s).Fits := by
  obtain ⟨hx, hy, hz⟩ := hs
  have room {x y z : Int} (hx : -1 ≤ x ∧ x ≤ 1) (hy : -1 ≤ y ∧ y ≤ 1) (hz : -1 ≤ z ∧ z ≤ 1)
      (hne : x ≠ 0 ∨ y ≠ 0 ∨ z ≠ 0) : (a.shift ⟨x, y, z⟩).Fits := by
    refine ha (a.shift ⟨x, y, z⟩) (isNeighbor_shift.mpr (mem_neighborSteps.mpr ⟨?_, hx, hy, hz⟩))
    rw [ne_eq, Pos.mk.injEq]
    omega
  have hright := room hx (y := 1) (by decide) (z := 0) (by decide) (by omega)
  have hup := room (x := 1) (by decide) hy (z := 0) (by decide) (by omega)
  have hback := room (x := 1) (by decide) (y := 0) (by decide) hz (by omega)
  exact ⟨hright.1, hup.2.1, hback.2.2⟩

/-- Where all neighbours of a chunk have addresses, the readers of a cell of it are listed: each
once, the chunk itself first, and just the chunks that have a cell at a distance of at most one. -/
theorem readers_are_chunks_around (hd : d.InWords) (ha : ∀ b, a.IsNeighbor b → b.Fits)
    (hl : d.Holds l) (hp : d.Names a l p) :
    ∃ rs, a.readers l d = .ok rs ∧ rs.Nodup ∧ rs.head? = some a ∧
      ∀ b, b ∈ rs ↔ ∃ q, d.Covers b q ∧ p.distance q ≤ 1 := by
  obtain ⟨xs, hxs, hx⟩ := exists_nodup_touchedSteps hd.1 hl.1
  obtain ⟨ys, hys, hy⟩ := exists_nodup_touchedSteps hd.2.1 hl.2.1
  obtain ⟨zs, hzs, hz⟩ := exists_nodup_touchedSteps hd.2.2 hl.2.2
  have hrun : a.readers l d = .ok ((ys.flatMap fun dy => zs.flatMap fun dz => xs.map fun dx =>
      (⟨dx, dy, dz⟩ : Pos)).map a.shift) := by
    rw [readers, hxs, hys, hzs]
    refine Checked.mapM_eq_ok fun s hs => offset_eq_ok_iff.mpr ⟨rfl, fits_shift ha ?_⟩
    simp only [List.mem_flatMap, List.mem_map, mem_touchedSteps hxs, mem_touchedSteps hys,
      mem_touchedSteps hzs, Beside] at hs
    obtain ⟨y, hsy, z, hsz, x, hsx, rfl⟩ := hs
    refine ⟨?_, ?_, ?_⟩ <;> simp only <;> omega
  obtain ⟨rest, hrest, hmem⟩ := readers_eq_cons hrun
  refine ⟨_, hrun, (nodup_steps hx hy hz).map shift_injective, ?_, fun b => ?_⟩
  · rw [hrest]
    rfl
  · rw [hrest, hmem]
    exact isReader_iff hl hp

/-- A column of the world that is one cell wide: its cells touch both sides at once along x and
along z, and the lowest one of a chunk also the chunks below. -/
theorem readers_are_chunks_around_column : ∃ rs,
    readers ⟨5, -1, 0⟩ ⟨0, 0, 0⟩ (.ofSizes 1 2 1) = .ok rs ∧ rs.Nodup ∧
      rs.head? = some ⟨5, -1, 0⟩ ∧ rs.length = 18 ∧
      ∀ b, b ∈ rs ↔ ∃ q, (Dims.ofSizes 1 2 1).Covers b q ∧ Pos.distance ⟨5, -2, 0⟩ q ≤ 1 := by
  have ha : ∀ b, IsNeighbor ⟨5, -1, 0⟩ b → b.Fits := by
    rintro b ⟨-, hx, hy, hz⟩
    simp only [Fits, Coord.Fits, Coord.least, Coord.greatest] at *
    omega
  obtain ⟨rs, hrun, hnodup, hhead, hmem⟩ := readers_are_chunks_around (d := .ofSizes 1 2 1)
    (a := ⟨5, -1, 0⟩) (l := ⟨0, 0, 0⟩) (p := ⟨5, -2, 0⟩) (by decide) ha (by decide) (by decide)
  have hlength : (readers ⟨5, -1, 0⟩ ⟨0, 0, 0⟩ (.ofSizes 1 2 1)).map List.length = .ok 18 := by
    decide
  rw [hrun] at hlength
  exact ⟨rs, hrun, hnodup, hhead, Except.ok.inj hlength, hmem⟩

end Address

end VoxelScene
