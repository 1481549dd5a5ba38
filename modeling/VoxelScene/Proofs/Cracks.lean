import VoxelScene.Proofs.SlopeCorners

/-!
Edges without cracks.

A side face between two occluding voxels may be left out only if the tops of the two meet along the
edge above it. Where a vertex lies is settled by its lattice point and by whether its corner is
lowered: the voxel, the face and the texture have no part in it. So two corners at one lattice point
that are lowered alike become vertices at one place, and an edge whose side faces are left out is
closed.
-/

namespace VoxelScene

namespace Loop

variable {α β : Type} {k : α → β} {l : Loop α} {x : β} {c : α}

theorem eq_of_mem_zip_map (h : (x, c) ∈ (l.map k).toList.zip l.toList) : x = k c := by
  simp only [map, toList, List.zip_cons_cons, List.zip_nil_left, List.mem_cons, List.not_mem_nil,
    or_false, Prod.mk.injEq] at h
  rcases h with ⟨rfl, rfl⟩ | ⟨rfl, rfl⟩ | ⟨rfl, rfl⟩ | ⟨rfl, rfl⟩ <;> rfl

theorem exists_mem_zip_map (h : x ∈ (l.map k).toList) :
    ∃ c, (x, c) ∈ (l.map k).toList.zip l.toList := by
  simp only [map, toList, List.mem_cons, List.not_mem_nil, or_false] at h
  rcases h with rfl | rfl | rfl | rfl
  · exact ⟨l.a, by simp [map, toList]⟩
  · exact ⟨l.b, by simp [map, toList]⟩
  · exact ⟨l.c, by simp [map, toList]⟩
  · exact ⟨l.d, by simp [map, toList]⟩

end Loop

namespace Pos

variable {origin p n : Pos} {l l' : Local} {c d : CubeCorner}

theorem plus_unit_congr (h : p.corner c = n.corner d) : p.plus c.unit = n.plus d.unit := by
  have hx : p.x + c.unit.x = n.x + d.unit.x := congrArg Pos.x h
  have hy : p.y + c.unit.y = n.y + d.unit.y := congrArg Pos.y h
  have hz : p.z + c.unit.z = n.z + d.unit.z := congrArg Pos.z h
  simp only [plus, Coord.add, hx, hy, hz]

/-- Corners that meet in the world meet within the chunk. -/
theorem toPos_corner_eq (h : (origin.cell l).corner c = (origin.cell l').corner d) :
    l.toPos.corner c = l'.toPos.corner d := by
  simp only [corner, cell, Local.toPos, mk.injEq] at h ⊢
  omega

end Pos

namespace Mesher

variable {m : Mesher} {origin : Pos} {l l' : Local} {c d : CubeCorner} {ramp ramp' : RampMask}

/-- What is computed of the position of a vertex depends on the lattice point, faults included. -/
theorem position_solidVertex_congr (hl : (origin.cell l).Fits) (hl' : (origin.cell l').Fits)
    (hpoint : (origin.cell l).corner c = (origin.cell l').corner d)
    (hlow : c.top?.any ramp.lowered = d.top?.any ramp'.lowered) (v v' : Voxel) (f f' : Face)
    (t t' : UInt16) :
    Except.map SolidVertex.position (m.solidVertex origin l v ramp f t c) =
      Except.map SolidVertex.position (m.solidVertex origin l' v' ramp' f' t' d) := by
  have hcell : origin.plus l.toPos = .ok (origin.cell l) := Pos.plus_eq_ok_iff.mpr ⟨rfl, hl⟩
  have hcell' : origin.plus l'.toPos = .ok (origin.cell l') := Pos.plus_eq_ok_iff.mpr ⟨rfl, hl'⟩
  -- The coordinates that are added differ, their sums do not: the two sides fault alike.
  simp only [solidVertex, hcell, hcell', Checked.ok_bind, hlow,
    Pos.plus_unit_congr (Pos.toPos_corner_eq hpoint), Pos.plus_unit_congr hpoint]
  cases l'.toPos.plus d.unit with
  | error e => rfl
  | ok base =>
    simp only [Checked.ok_bind]
    cases (origin.cell l').plus d.unit with
    | error e => rfl
    | ok lattice => rfl

theorem exists_solidVertex (hl : (origin.cell l).Fits) (hc : ((origin.cell l).corner c).Fits)
    (hbase : (l.toPos.corner c).Fits) (v : Voxel) (f : Face) (t : UInt16) :
    ∃ x, m.solidVertex origin l v ramp f t c = .ok x := by
  have hplace : l.toPos.plus c.unit = .ok (l.toPos.corner c) :=
    Pos.plus_eq_ok_iff.mpr ⟨rfl, hbase⟩
  have hcell : origin.plus l.toPos = .ok (origin.cell l) := Pos.plus_eq_ok_iff.mpr ⟨rfl, hl⟩
  have hlattice : (origin.cell l).plus c.unit = .ok ((origin.cell l).corner c) :=
    Pos.plus_eq_ok_iff.mpr ⟨rfl, hc⟩
  rw [solidVertex, hplace, Checked.ok_bind]
  dsimp only
  rw [hcell, Checked.ok_bind, hlattice]
  exact ⟨_, rfl⟩

/-! ### All vertices of a mesh -/

variable {q : Query} {a : Address} {g : Grid} {solid : SolidMesh} {x y : SolidVertex}

/-- The vertex belongs to a quad of the mesh, at a corner that has this lattice point and that the
voxel of the quad's cell lowers or not. -/
def Emits (m : Mesher) (origin : Pos) (g : Grid) (solid : SolidMesh) (point : Pos) (lowered : Bool)
    (x : SolidVertex) : Prop :=
  ∃ part ∈ solid.parts, ∃ quad ∈ part.quads, ∃ l f c, g.dims.Holds l ∧
    quad = m.quadAt origin g l f ∧ (x, c) ∈ quad.corners.toList.zip f.corners.toList ∧
    (origin.cell l).corner c = point ∧ c.top?.any (g.voxel l).ramp.normalized.lowered = lowered

theorem holds_of_mem_capped (h : l ∈ m.capped q origin g) : g.dims.Holds l := by
  unfold capped at h
  split at h
  · cases h
  · exact Dims.mem_cells.mp (List.mem_of_mem_filter h)

theorem exists_cell_of_mem_parts (h : m.solidMesh q a g = .ok solid)
    (ho : a.origin g.dims = .ok origin) {part : FaceMesh} (hpart : part ∈ solid.parts)
    {quad : SolidQuad} (hquad : quad ∈ part.quads) :
    ∃ l f, g.dims.Holds l ∧ quad = m.quadAt origin g l f := by
  obtain ⟨origin', ho', hbodies, hcaps, -⟩ := solidMesh_eq_ok h
  obtain rfl := Except.ok.inj (ho.symm.trans ho')
  rcases SolidMesh.mem_bodies_or_caps hpart hquad with hmem | hmem
  · rw [hbodies] at hmem
    obtain ⟨⟨l, f⟩, he, rfl⟩ := List.mem_map.mp hmem
    exact ⟨l, f, (mem_drawn.mp he).1, rfl⟩
  · rw [hcaps] at hmem
    obtain ⟨l, hl, rfl⟩ := List.mem_map.mp hmem
    exact ⟨l, .top, holds_of_mem_capped hl, rfl⟩

theorem exists_emits (h : m.solidMesh q a g = .ok solid) (ho : a.origin g.dims = .ok origin)
    {part : FaceMesh} (hpart : part ∈ solid.parts) (hx : x ∈ part.vertices) :
    ∃ point lowered, m.Emits origin g solid point lowered x := by
  obtain ⟨quad, hquad, hx⟩ := exists_quad_of_mem_vertices h hpart hx
  obtain ⟨l, f, hl, rfl⟩ := exists_cell_of_mem_parts h ho hpart hquad
  obtain ⟨c, hc⟩ := Loop.exists_mem_zip_map hx
  exact ⟨_, _, part, hpart, _, hquad, l, f, c, hl, rfl, hc, rfl, rfl⟩

theorem position_eq_of_emits {point : Pos} {lowered : Bool}
    (hx : m.Emits origin g solid point lowered x) (hy : m.Emits origin g solid point lowered y) :
    x.position = y.position := by
  obtain ⟨-, -, -, -, l, f, c, -, rfl, hc, rfl, rfl⟩ := hx
  obtain ⟨-, -, -, -, l', f', d, -, rfl, hd, hpoint, hlow⟩ := hy
  obtain rfl := Loop.eq_of_mem_zip_map hc
  obtain rfl := Loop.eq_of_mem_zip_map hd
  simp only [cornerVertex, hpoint, hlow, Pos.toPos_corner_eq hpoint]

/-- The side face between two voxels is hidden exactly when both lower the two ends of the top edge
that they share alike. Then the corners of the two voxels become vertices at the same places, as do
any two corners of a mesh at one lattice point that are lowered alike. -/
theorem hidden_side_leaves_no_crack {f : Face} {p n : Pos} (hf : f.isSide = true) (hp : p.Fits)
    (hn : p.plus f.step = .ok n) (v u : Voxel) :
    (∃ a b a' b', f.topEdge = some (a, b) ∧ f.opposite.topEdge = some (a', b') ∧
      (∀ c d : TopCorner, p.corner c.toCube = n.corner d.toCube ↔
        c = a ∧ d = a' ∨ c = b ∧ d = b') ∧
      (f.isExposed v.ramp u.ramp = false ↔
        (p.corner a.toCube = n.corner a'.toCube ∧
          v.ramp.normalized.lowered a = u.ramp.normalized.lowered a') ∧
        p.corner b.toCube = n.corner b'.toCube ∧
          v.ramp.normalized.lowered b = u.ramp.normalized.lowered b')) ∧
    (∀ (q : Query) (limit : Option Int), q.voxelAt n = .ok (some u) → u.occludes = true →
      q.isFaceVisible p v limit f = .ok (f.isExposed v.ramp u.ramp)) ∧
    (f.isExposed v.ramp u.ramp = false → ∀ (m : Mesher) (origin : Pos) (l l' : Local),
      origin.cell l = p → origin.cell l' = n →
      ∀ (c d : TopCorner) (e e' : Face) (t t' : UInt16), p.corner c.toCube = n.corner d.toCube →
        Except.map SolidVertex.position
            (m.solidVertex origin l v v.ramp.normalized e t c.toCube) =
          Except.map SolidVertex.position
            (m.solidVertex origin l' u u.ramp.normalized e' t' d.toCube) ∧
        ((p.corner c.toCube).Fits → (l.toPos.corner c.toCube).Fits →
          ∃ x, m.solidVertex origin l v v.ramp.normalized e t c.toCube = .ok x)) ∧
    ∀ (m : Mesher) (q : Query) (a : Address) (g : Grid) (solid : SolidMesh),
      m.solidMesh q a g = .ok solid → ∃ origin, a.origin g.dims = .ok origin ∧
        (∀ part ∈ solid.parts, ∀ x ∈ part.vertices,
          ∃ point lowered, m.Emits origin g solid point lowered x) ∧
        ∀ point lowered x y, m.Emits origin g solid point lowered x →
          m.Emits origin g solid point lowered y → x.position = y.position := by
  obtain ⟨a, b, a', b', hedge, hedge', hshared⟩ := Face.exists_topEdge hf hn
  have hiff : f.isExposed v.ramp u.ramp = false ↔ _ :=
    Face.isExposed_eq_false_iff hf hedge hedge'
  refine ⟨⟨a, b, a', b', hedge, hedge', hshared, ?_⟩, fun q limit hu hocc => ?_,
    fun hhidden m origin l l' hl hl' c d e e' t t' hpoint => ⟨?_, fun hc hbase => ?_⟩,
    fun m q a g solid h => ?_⟩
  · rw [hiff]
    simp only [(hshared a a').mpr (.inl ⟨rfl, rfl⟩), (hshared b b').mpr (.inr ⟨rfl, rfl⟩), true_and]
  · exact Query.isFaceVisible_of_side hf hn hu hocc v limit
  · obtain ⟨ha, hb⟩ := hiff.mp hhidden
    have halike : v.ramp.normalized.lowered c = u.ramp.normalized.lowered d := by
      rcases (hshared c d).mp hpoint with ⟨rfl, rfl⟩ | ⟨rfl, rfl⟩
      · exact ha
      · exact hb
    have hnfits : n.Fits := (Pos.plus_eq_ok_iff.mp hn).2
    rw [← hl, ← hl'] at hpoint
    apply position_solidVertex_congr (hl ▸ hp) (hl' ▸ hnfits) hpoint
    rw [TopCorner.top?_toCube, TopCorner.top?_toCube]
    exact halike
  · subst hl
    exact exists_solidVertex hp hc hbase v e t
  · obtain ⟨origin, ho, -⟩ := solidMesh_eq_ok h
    exact ⟨origin, ho, fun part hpart x hx => exists_emits h ho hpart hx,
      fun point lowered x y hx hy => position_eq_of_emits hx hy⟩

/-- A slope that falls to the right and one that falls to the left meet in a valley. -/
theorem hidden_side_leaves_no_crack_valley :
    Face.isSide .right = true ∧ Pos.Fits ⟨0, 0, 0⟩ ∧
    Pos.plus ⟨0, 0, 0⟩ Face.right.step = .ok ⟨1, 0, 0⟩ ∧
    Face.isExposed .right ⟨10⟩ ⟨5⟩ = false ∧
    ∀ (m : Mesher) (e e' : Face) (t t' : UInt16),
      Except.map SolidVertex.position (m.solidVertex ⟨0, 0, 0⟩ ⟨0, 0, 0⟩ slope
          slope.ramp.normalized e t TopCorner.backRight.toCube) =
        Except.map SolidVertex.position (m.solidVertex ⟨0, 0, 0⟩ ⟨1, 0, 0⟩
          { slope with ramp := ⟨5⟩ } (RampMask.normalized ⟨5⟩) e' t' TopCorner.backLeft.toCube) := by
  have hfits : Pos.Fits ⟨0, 0, 0⟩ := by decide
  have hstep : Pos.plus ⟨0, 0, 0⟩ Face.right.step = .ok ⟨1, 0, 0⟩ := by decide
  have hhidden : Face.isExposed .right ⟨10⟩ ⟨5⟩ = false := by decide
  obtain ⟨-, -, hmeet, -⟩ := hidden_side_leaves_no_crack (f := .right) rfl hfits hstep slope
    { slope with ramp := ⟨5⟩ }
  refine ⟨rfl, hfits, hstep, hhidden, fun m e e' t t' => ?_⟩
  exact (hmeet hhidden m ⟨0, 0, 0⟩ ⟨0, 0, 0⟩ ⟨1, 0, 0⟩ rfl rfl .backRight .backLeft e e' t t' rfl).1

end Mesher

end VoxelScene
