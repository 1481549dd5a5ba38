import VoxelScene.Proofs.Version

/-!
Meshing a snapshot and meshing the live world.

Around a chunk whose block of 27 chunks fits the coordinate range, a snapshot and the world that
it was taken of answer every question of the mesher alike. So a mesh built from the snapshot is
the mesh that the live world would give at that time.
-/

namespace VoxelScene

/-! ### The live world around a chunk -/

namespace Address

/-- The chunk and the 26 around it have addresses that fit, and so do the positions of their
cells. -/
def BlockFits (a : Address) (d : Dims) : Prop :=
  ∀ b, b = a ∨ IsNeighbor a b →
    (Coord.Fits b.x ∧ Coord.Fits b.y ∧ Coord.Fits b.z) ∧
      ∀ l, d.Holds l → Pos.Fits ⟨b.x * d.x + l.x, b.y * d.y + l.y, b.z * d.z + l.z⟩

namespace BlockFits

variable {a : Address} {d : Dims} {origin p : Pos}

theorem corners (h : a.BlockFits d) :
    Pos.Fits ⟨a.x * d.x - d.x, a.y * d.y - d.y, a.z * d.z - d.z⟩ ∧
      Pos.Fits ⟨a.x * d.x + 2 * d.x - 1, a.y * d.y + 2 * d.y - 1, a.z * d.z + 2 * d.z - 1⟩ := by
  have hx := d.x_pos
  have hy := d.y_pos
  have hz := d.z_pos
  have neighbor {s : Int} (hs : s = -1 ∨ s = 1) : IsNeighbor a (a.shift ⟨s, s, s⟩) := by
    rw [isNeighbor_shift, mem_neighborSteps]
    simp only [ne_eq, Pos.mk.injEq]
    omega
  have hlow := (h _ (.inr (neighbor (.inl rfl)))).2 ⟨0, 0, 0⟩ ⟨hx, hy, hz⟩
  have hhigh := (h _ (.inr (neighbor (.inr rfl)))).2 ⟨d.x - 1, d.y - 1, d.z - 1⟩
    ⟨Nat.sub_lt hx Nat.one_pos, Nat.sub_lt hy Nat.one_pos, Nat.sub_lt hz Nat.one_pos⟩
  have hprev (k n : Int) : (k + -1) * n = k * n - n := by rw [Int.add_mul]; omega
  have hnext (k n : Int) : (k + 1) * n = k * n + n := by rw [Int.add_mul]; omega
  simp only [shift, hprev, hnext] at hlow hhigh
  simp only [Pos.Fits, Coord.Fits] at *
  omega

theorem dims_fits (h : a.BlockFits d) : d.Fits := by
  obtain ⟨hlow, hhigh⟩ := h.corners
  simp only [Pos.Fits, Coord.Fits, Coord.least, Coord.greatest] at hlow hhigh
  simp only [Dims.Fits, Coord.Fits, Coord.least, Coord.greatest]
  omega

/-- Every position that a mesh asks for fits, and so does its distance from the chunk. -/
theorem reach (h : a.BlockFits d) (ho : a.origin d = .ok origin)
    (hp : p.Near origin d ∨ p.Under origin d) : p.Fits ∧ ∃ rel, p.minus origin = .ok rel := by
  obtain ⟨hlow, hhigh⟩ := h.corners
  obtain ⟨hdx, hdy, hdz⟩ := h.dims_fits
  have hx := d.x_pos
  have hy := d.y_pos
  have hz := d.z_pos
  obtain rfl := Dims.eq_of_origin h.dims_fits ho
  unfold Pos.Near Pos.Under at hp
  simp only [Pos.Fits, Coord.Fits, Coord.least, Coord.greatest] at *
  refine ⟨by omega, _, Pos.minus_eq_ok_iff.mpr ⟨rfl, ?_⟩⟩
  simp only [Pos.Fits, Coord.Fits, Coord.least, Coord.greatest]
  omega

theorem neighbors_eq (h : a.BlockFits d) : a.neighbors = .ok (neighborSteps.map a.shift) := by
  apply Checked.mapM_eq_ok
  intro s hs
  exact offset_eq_ok_iff.mpr ⟨rfl, (h _ (.inr (isNeighbor_shift.mpr hs))).1⟩

end BlockFits

end Address

namespace World

variable {w : World} {a : Address} {p : Pos}

theorem agreeFor_of_isOf (hw : w.Uniform) (hb : a.BlockFits w.dims) {s : Snapshot}
    (hs : s.IsOf w a) : s.query.AgreeFor w.query a w.dims := by
  have hd := hb.dims_fits
  intro origin ho
  constructor
  · intro p hp
    obtain ⟨hfits, rel, hrel⟩ := hb.reach ho (.inl hp)
    show s.voxelAt p = w.voxelAt p
    rw [Snapshot.voxelAt_of_reach hd hs ho (.inl hp), voxelAt_of_fits hw hd hfits, hrel]
    rfl
  · intro p hp
    obtain ⟨hfits, rel, hrel⟩ := hb.reach ho hp
    show s.liquidAt p = w.liquidAt p
    rw [Snapshot.liquidAt_of_reach hd hs ho hp, liquidAt_of_fits hw hd hfits, hrel]
    rfl

/-- A snapshot of a loaded chunk gives the meshes and the column depths that the live world gives,
provided that the block of 27 chunks around it has addresses and cells that fit. The two sides are
equal as outcomes, so that where meshing the live world ends in a fault, so does the snapshot. -/
theorem meshes_of_capture {c : Chunk} (hw : w.Uniform) (hc : w.chunk? a = some c)
    (hb : a.BlockFits w.dims) :
    ∃ s, Snapshot.capture w a = .ok (some s) ∧
      (∀ m : Mesher,
        m.solidMesh s.query s.address s.center = m.solidMesh w.query a c.grid ∧
        m.liquidMeshes s.query s.address s.center = m.liquidMeshes w.query a c.grid ∧
        (∀ solid liquids, m.solidMesh w.query a c.grid = .ok solid →
          m.liquidMeshes w.query a c.grid = .ok liquids → m.build s = .ok ⟨solid, liquids⟩)) ∧
      ∀ liquid maxScan, columnDepths s.query s.address s.center liquid maxScan =
        columnDepths w.query a c.grid liquid maxScan := by
  obtain ⟨s, hs⟩ : ∃ s, Snapshot.capture w a = .ok (some s) := by
    simp only [Snapshot.capture, hc, hb.neighbors_eq, Checked.ok_bind]
    exact ⟨_, rfl⟩
  have his := Snapshot.isOf_capture hw hs
  have hcenter : s.center = c.grid := by
    have h := his.center
    rw [hc] at h
    exact (Option.some.inj h).symm
  have hagree : s.query.AgreeFor w.query a c.grid.dims := by
    rw [hw a c hc]
    exact agreeFor_of_isOf hw hb his
  refine ⟨s, hs, fun m => ?_, fun liquid maxScan => ?_⟩
  · have hsolid := m.solidMesh_congr hagree
    have hliquid := m.liquidMeshes_congr hagree
    rw [his.address, hcenter]
    refine ⟨hsolid, hliquid, fun solid liquids h1 h2 => ?_⟩
    rw [Mesher.build, Mesher.meshSet, his.address, hcenter, hsolid, hliquid, h1, h2]
    rfl
  · rw [his.address, hcenter]
    exact columnDepths_congr hagree liquid maxScan

/-- A snapshot of a chunk next to another one. -/
theorem meshes_of_capture_at_border :
    ∃ w c s, (empty (.cube 2)).replay
        [(.empty, .load ⟨0, 0, 0⟩ (.ofGrid (.filled (.cube 2) (.ofKind 1)))),
          (.empty, .load ⟨1, 0, 0⟩ (.ofGrid (.blank (.cube 2)))),
          (.empty, .setLiquid ⟨2, 1, 0⟩ (.still 1 7))] = .ok w ∧
      w.Uniform ∧ w.chunk? ⟨1, 0, 0⟩ = some c ∧ Address.BlockFits ⟨1, 0, 0⟩ w.dims ∧
      Snapshot.capture w ⟨1, 0, 0⟩ = .ok (some s) ∧
      (∀ m : Mesher, m.solidMesh s.query s.address s.center =
        m.solidMesh w.query ⟨1, 0, 0⟩ c.grid) ∧
      ∀ m : Mesher, m.liquidMeshes s.query s.address s.center =
        m.liquidMeshes w.query ⟨1, 0, 0⟩ c.grid := by
  have hrun : (do
      let w ← (empty (.cube 2)).replay
        [(.empty, .load ⟨0, 0, 0⟩ (.ofGrid (.filled (.cube 2) (.ofKind 1)))),
          (.empty, .load ⟨1, 0, 0⟩ (.ofGrid (.blank (.cube 2)))),
          (.empty, .setLiquid ⟨2, 1, 0⟩ (.still 1 7))]
      return (w.chunk? ⟨1, 0, 0⟩).isSome) = Except.ok true := by
    rfl
  obtain ⟨w, hw, hrun⟩ := Checked.bind_eq_ok_iff.mp hrun
  obtain ⟨c, hc⟩ := Option.isSome_iff_exists.mp (Checked.pure_eq_ok_iff.mp hrun)
  have hadv := advances_of_replay (wellKept_empty _) hw
  have hb : Address.BlockFits ⟨1, 0, 0⟩ w.dims := by
    rw [hadv.dims]
    rintro ⟨x, y, z⟩ hb
    have hnear : (0 ≤ x ∧ x ≤ 2) ∧ (-1 ≤ y ∧ y ≤ 1) ∧ (-1 ≤ z ∧ z ≤ 1) := by
      rcases hb with hb | ⟨-, hx, hy, hz⟩
      · cases hb
        decide
      · simp only at hx hy hz
        omega
    refine ⟨?_, fun l hl => ?_⟩
    · simp only [Coord.Fits, Coord.least, Coord.greatest]
      omega
    · have hl : l.x < 2 ∧ l.y < 2 ∧ l.z < 2 := hl
      have hsize : (empty (.cube 2)).dims.x = 2 ∧ (empty (.cube 2)).dims.y = 2 ∧
          (empty (.cube 2)).dims.z = 2 := by decide
      simp only [Pos.Fits, Coord.Fits, Coord.least, Coord.greatest, hsize]
      omega
  have hu := (hadv.wellKept (wellKept_empty _)).uniform
  obtain ⟨s, hs, hmesh, -⟩ := meshes_of_capture hu hc hb
  exact ⟨w, c, s, hw, hu, hc, hb, hs, fun m => (hmesh m).1, fun m => (hmesh m).2.1⟩

end World

end VoxelScene
