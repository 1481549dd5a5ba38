import VoxelScene.Chunk.Address
import VoxelScene.Proofs.Checked

/-!
The lattice of chunks.

A cell has two names: its position in the world, and its chunk with its place there. Going from
the first to the second is a Euclidean division along each axis. The readers of a cell are the
chunks with a cell at most one away from it; seen from such a chunk, the positions at most one
cell outside its box are exactly cells that it reads.
-/

namespace VoxelScene

/-! ### Sizes -/

/-- Every size is representable as a coordinate. -/
def Dims.Fits (d : Dims) : Prop := Coord.Fits d.x ∧ Coord.Fits d.y ∧ Coord.Fits d.z

instance (d : Dims) : Decidable d.Fits := inferInstanceAs (Decidable (_ ∧ _))

theorem Dims.extent_of_fits {d : Dims} (hd : d.Fits) : d.extent = ⟨d.x, d.y, d.z⟩ := by
  obtain ⟨hx, hy, hz⟩ := hd
  rw [extent, Coord.ofWord_eq hx.2, Coord.ofWord_eq hy.2, Coord.ofWord_eq hz.2]

/-! ### Sums, differences and quotients of positions -/

namespace Pos

theorem minus_eq_ok_iff {p d r : Pos} :
    p.minus d = .ok r ↔ r = ⟨p.x - d.x, p.y - d.y, p.z - d.z⟩ ∧ r.Fits := by
  simp only [minus, Checked.bind_eq_ok_iff, Checked.pure_eq_ok_iff, Coord.sub_eq_ok_iff]
  constructor
  · rintro ⟨x, ⟨hx, rfl⟩, y, ⟨hy, rfl⟩, z, ⟨hz, rfl⟩, rfl⟩
    exact ⟨rfl, hx, hy, hz⟩
  · rintro ⟨rfl, hx, hy, hz⟩
    exact ⟨_, ⟨hx, rfl⟩, _, ⟨hy, rfl⟩, _, ⟨hz, rfl⟩, rfl⟩

theorem times_eq_ok_iff {p d r : Pos} :
    p.times d = .ok r ↔ r = ⟨p.x * d.x, p.y * d.y, p.z * d.z⟩ ∧ r.Fits := by
  simp only [times, Checked.bind_eq_ok_iff, Checked.pure_eq_ok_iff, Coord.mul_eq_ok_iff]
  constructor
  · rintro ⟨x, ⟨hx, rfl⟩, y, ⟨hy, rfl⟩, z, ⟨hz, rfl⟩, rfl⟩
    exact ⟨rfl, hx, hy, hz⟩
  · rintro ⟨rfl, hx, hy, hz⟩
    exact ⟨_, ⟨hx, rfl⟩, _, ⟨hy, rfl⟩, _, ⟨hz, rfl⟩, rfl⟩

end Pos

/-- A quotient by a size is no larger than the dividend, so it fits where the dividend does. -/
theorem Coord.quot_of_fits {n : Int} {size : Nat} (hs : 0 < size) (hn : Fits n) :
    quot n size = .ok (n / size) := by
  have hne : (size : Int) ≠ 0 := by omega
  have hfits : Fits (n / size) := by
    unfold Fits least greatest at *
    have hlo : -2147483648 ≤ n / (size : Int) := by
      apply Int.le_ediv_of_mul_le (by omega)
      have hmul : (-2147483648 : Int) * size ≤ -2147483648 * 1 :=
        Int.mul_le_mul_of_nonpos_left (by omega) (by omega)
      omega
    have hhi : n / (size : Int) < 2147483648 := by
      apply Int.ediv_lt_of_lt_mul (by omega)
      have hmul : (2147483648 : Int) * 1 ≤ 2147483648 * size :=
        Int.mul_le_mul_of_nonneg_left (by omega) (by omega)
      omega
    omega
  simp only [quot, if_neg hne, guarded, if_pos hfits]

theorem Pos.quotRem_of_fits {p : Pos} {d : Dims} (hp : p.Fits) :
    p.quotRem ⟨d.x, d.y, d.z⟩ = .ok
      (⟨p.x / d.x, p.y / d.y, p.z / d.z⟩, ⟨p.x % d.x, p.y % d.y, p.z % d.z⟩) := by
  obtain ⟨hx, hy, hz⟩ := hp
  simp only [quotRem, Coord.quot_of_fits d.x_pos hx, Coord.quot_of_fits d.y_pos hy,
    Coord.quot_of_fits d.z_pos hz, Checked.ok_bind]
  rfl

/-! ### Readers of a cell -/

/-- Along one axis: the chunk `step` chunks further has a cell at most one away from `coord`. -/
def Beside (coord size : Nat) (step : Int) : Prop :=
  step = 0 ∨ step = -1 ∧ coord = 0 ∨ step = 1 ∧ coord + 1 = size

/-- Along one axis: a coordinate at most one cell outside the box lies in a chunk next to it, and
in a cell there that the box is beside. -/
theorem beside_of_near {n : Int} {size : Nat} (hs : 0 < size) (hlo : -1 ≤ n) (hhi : n ≤ size) :
    (n % size).toNat < size ∧ -1 ≤ n / size ∧ n / size ≤ 1 ∧
      Beside (n % size).toNat size (-(n / size)) := by
  have hmod := Int.emod_lt_of_pos n (by omega : (0 : Int) < size)
  have hnonneg := Int.emod_nonneg n (by omega : (size : Int) ≠ 0)
  have hsum := Int.mul_ediv_add_emod n size
  have hlow : -1 ≤ n / (size : Int) := Int.le_ediv_of_mul_le (by omega) (by omega)
  have hhigh : n / (size : Int) < 2 := Int.ediv_lt_of_lt_mul (by omega) (by omega)
  refine ⟨by omega, hlow, by omega, ?_⟩
  -- The quotient is -1, 0 or 1; in each case the remainder follows from it.
  have hcases : n / (size : Int) = -1 ∨ n / (size : Int) = 0 ∨ n / (size : Int) = 1 := by omega
  unfold Beside
  rcases hcases with h | h | h <;> rw [h] at hsum ⊢ <;> omega

namespace Address

/-- The chunk at `a` has a cell at most one away from cell `l` of the chunk at `b`. -/
def IsReader (d : Dims) (b : Address) (l : Local) (a : Address) : Prop :=
  Beside l.x d.x (a.x - b.x) ∧ Beside l.y d.y (a.y - b.y) ∧ Beside l.z d.z (a.z - b.z)

/-- The chunk directly below. -/
def below (a : Address) : Address := ⟨a.x, a.y - 1, a.z⟩

def shift (a : Address) (s : Pos) : Address := ⟨a.x + s.x, a.y + s.y, a.z + s.z⟩

theorem offset_eq_ok_iff {a b : Address} {dx dy dz : Int} :
    a.offset dx dy dz = .ok b ↔
      b = a.shift ⟨dx, dy, dz⟩ ∧ Coord.Fits b.x ∧ Coord.Fits b.y ∧ Coord.Fits b.z := by
  simp only [offset, shift, Checked.bind_eq_ok_iff, Checked.pure_eq_ok_iff, Coord.add_eq_ok_iff]
  constructor
  · rintro ⟨x, ⟨hx, rfl⟩, y, ⟨hy, rfl⟩, z, ⟨hz, rfl⟩, rfl⟩
    exact ⟨rfl, hx, hy, hz⟩
  · rintro ⟨rfl, hx, hy, hz⟩
    exact ⟨_, ⟨hx, rfl⟩, _, ⟨hy, rfl⟩, _, ⟨hz, rfl⟩, rfl⟩

theorem mem_touchedSteps {coord size : Nat} {steps : List Int}
    (h : touchedSteps coord size = .ok steps) {s : Int} : s ∈ steps ↔ Beside coord size s := by
  simp only [touchedSteps, Checked.bind_eq_ok_iff, Checked.pure_eq_ok_iff, Word.add_eq_ok_iff] at h
  obtain ⟨next, ⟨-, rfl⟩, rfl⟩ := h
  unfold Beside
  by_cases h0 : coord = 0 <;> by_cases h1 : coord + 1 = size <;> simp [h0, h1] <;> omega

theorem head_touchedSteps {coord size : Nat} {steps : List Int}
    (h : touchedSteps coord size = .ok steps) : ∃ rest, steps = 0 :: rest := by
  simp only [touchedSteps, Checked.bind_eq_ok_iff, Checked.pure_eq_ok_iff] at h
  obtain ⟨next, -, rfl⟩ := h
  exact ⟨_, rfl⟩

theorem shift_sub (a b : Address) : b.shift ⟨a.x - b.x, a.y - b.y, a.z - b.z⟩ = a := by
  obtain ⟨ax, ay, az⟩ := a
  simp only [shift, mk.injEq]
  omega

theorem shift_eq_self {a : Address} {s : Pos} : a.shift s = a ↔ s = ⟨0, 0, 0⟩ := by
  obtain ⟨ax, ay, az⟩ := a
  obtain ⟨sx, sy, sz⟩ := s
  simp only [shift, mk.injEq, Pos.mk.injEq]
  omega

theorem sub_shift_x (a : Address) (s : Pos) : (a.shift s).x - a.x = s.x := by
  simp only [shift]
  omega

theorem sub_shift_y (a : Address) (s : Pos) : (a.shift s).y - a.y = s.y := by
  simp only [shift]
  omega

theorem sub_shift_z (a : Address) (s : Pos) : (a.shift s).z - a.z = s.z := by
  simp only [shift]
  omega

/-- The list of readers starts with the cell's own chunk and holds all readers. -/
theorem readers_eq_cons {b : Address} {l : Local} {d : Dims} {rs : List Address}
    (h : b.readers l d = .ok rs) :
    ∃ rest, rs = b :: rest ∧ ∀ a, a ∈ b :: rest ↔ IsReader d b l a := by
  simp only [readers, Checked.bind_eq_ok_iff] at h
  obtain ⟨xs, hx, ys, hy, zs, hz, h⟩ := h
  have hrs := Checked.mapM_eq_map (g := b.shift) (fun s c hs => (offset_eq_ok_iff.mp hs).1) h
  have hmem : ∀ a, a ∈ rs ↔ IsReader d b l a := by
    intro a
    simp only [hrs, IsReader, List.mem_map, List.mem_flatMap, ← mem_touchedSteps hx,
      ← mem_touchedSteps hy, ← mem_touchedSteps hz]
    constructor
    · rintro ⟨s, ⟨sy, hsy, sz, hsz, sx, hsx, rfl⟩, rfl⟩
      rw [sub_shift_x, sub_shift_y, sub_shift_z]
      exact ⟨hsx, hsy, hsz⟩
    · rintro ⟨hsx, hsy, hsz⟩
      exact ⟨_, ⟨_, hsy, _, hsz, _, hsx, rfl⟩, shift_sub a b⟩
  obtain ⟨xr, rfl⟩ := head_touchedSteps hx
  obtain ⟨yr, rfl⟩ := head_touchedSteps hy
  obtain ⟨zr, rfl⟩ := head_touchedSteps hz
  have hhead : b.shift ⟨0, 0, 0⟩ = b := shift_eq_self.mpr rfl
  simp only [List.flatMap_cons, List.map_cons, List.cons_append, hhead] at hrs
  exact ⟨_, hrs, hrs ▸ hmem⟩

/-! ### Neighbours -/

/-- Two different chunks that touch in a face, an edge or a corner. -/
def IsNeighbor (a b : Address) : Prop :=
  b ≠ a ∧ (-1 ≤ b.x - a.x ∧ b.x - a.x ≤ 1) ∧ (-1 ≤ b.y - a.y ∧ b.y - a.y ≤ 1) ∧
    (-1 ≤ b.z - a.z ∧ b.z - a.z ≤ 1)

theorem mem_axisSteps {s : Int} : s ∈ axisSteps ↔ -1 ≤ s ∧ s ≤ 1 := by
  simp only [axisSteps, List.mem_cons, List.not_mem_nil, or_false]
  omega

theorem mem_neighborSteps {s : Pos} :
    s ∈ neighborSteps ↔ s ≠ ⟨0, 0, 0⟩ ∧ (-1 ≤ s.x ∧ s.x ≤ 1) ∧ (-1 ≤ s.y ∧ s.y ≤ 1) ∧
      (-1 ≤ s.z ∧ s.z ≤ 1) := by
  simp only [neighborSteps, List.mem_filter, List.mem_flatMap, List.mem_map, ← mem_axisSteps,
    decide_eq_true_eq]
  constructor
  · rintro ⟨⟨y, hy, z, hz, x, hx, rfl⟩, hne⟩
    exact ⟨hne, hx, hy, hz⟩
  · rintro ⟨hne, hx, hy, hz⟩
    exact ⟨⟨s.y, hy, s.z, hz, s.x, hx, rfl⟩, hne⟩

theorem neighbors_eq_map {a : Address} {ns : List Address} (h : a.neighbors = .ok ns) :
    ns = neighborSteps.map a.shift :=
  Checked.mapM_eq_map (g := a.shift) (fun _ _ hs => (offset_eq_ok_iff.mp hs).1) h

theorem isNeighbor_shift {a : Address} {s : Pos} :
    a.IsNeighbor (a.shift s) ↔ s ∈ neighborSteps := by
  rw [mem_neighborSteps, IsNeighbor, sub_shift_x, sub_shift_y, sub_shift_z, ne_eq, shift_eq_self]

theorem mem_neighbors {a b : Address} {ns : List Address} (h : a.neighbors = .ok ns) :
    b ∈ ns ↔ IsNeighbor a b := by
  rw [neighbors_eq_map h, List.mem_map]
  constructor
  · rintro ⟨s, hs, rfl⟩
    exact isNeighbor_shift.mpr hs
  · intro hb
    rw [← shift_sub b a] at hb
    exact ⟨_, isNeighbor_shift.mp hb, shift_sub b a⟩

theorem IsReader.isNeighbor {d : Dims} {a b : Address} {l : Local} (h : IsReader d b l a)
    (hne : a ≠ b) : IsNeighbor b a := by
  obtain ⟨hx, hy, hz⟩ := h
  unfold Beside at hx hy hz
  exact ⟨hne, by omega, by omega, by omega⟩

theorem shift_up_below (a : Address) : a.below.shift .up = a := by
  obtain ⟨ax, ay, az⟩ := a
  simp only [shift, below, Pos.up, mk.injEq]
  omega

theorem isNeighbor_of_below (a : Address) : IsNeighbor a.below a := by
  refine ⟨fun he => ?_, ?_, ?_, ?_⟩
  · have hy := congrArg Address.y he
    simp only [below] at hy
    omega
  all_goals
    simp only [below]
    omega

end Address

end VoxelScene
