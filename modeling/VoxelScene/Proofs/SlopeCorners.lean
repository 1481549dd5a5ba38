import VoxelScene.Proofs.RampOrder
import VoxelScene.Proofs.Seams

/-!
Slopes that meet.

Up to four cells of a layer share a lattice point at their tops. Each of them lowers its corner
there if one of the other three is open. An occluding cell is not open itself, so all that the
occluding ones ask is whether any of the four is: they lower the point together or leave it
together. Neighbouring slopes therefore meet along their common edge.
-/

namespace VoxelScene

theorem Checked.any_eq_ok {α : Type} {test : α → Checked Bool} {xs : List α} {b : Bool}
    (h : any test xs = .ok b) : (b = true ∧ ∃ x ∈ xs, test x = .ok true) ∨
      (b = false ∧ ∀ x ∈ xs, test x = .ok false) := by
  induction xs with
  | nil =>
    obtain rfl := pure_eq_ok_iff.mp h
    exact .inr ⟨rfl, fun x hx => by cases hx⟩
  | cons x xs ih =>
    obtain ⟨here, hhere, h⟩ := bind_eq_ok_iff.mp h
    cases here with
    | true =>
      obtain rfl := pure_eq_ok_iff.mp h
      exact .inl ⟨rfl, x, List.mem_cons_self .., hhere⟩
    | false =>
      rcases ih h with ⟨hb, y, hy, htest⟩ | ⟨hb, hnone⟩
      · exact .inl ⟨hb, y, List.mem_cons_of_mem _ hy, htest⟩
      · refine .inr ⟨hb, fun y hy => ?_⟩
        rcases List.mem_cons.mp hy with rfl | hy
        · exact hhere
        · exact hnone y hy

theorem Checked.exists_any {α : Type} {test : α → Checked Bool} {xs : List α}
    (h : ∀ x ∈ xs, ∃ b, test x = .ok b) : ∃ b, any test xs = .ok b := by
  induction xs with
  | nil => exact ⟨false, rfl⟩
  | cons x xs ih =>
    obtain ⟨here, hhere⟩ := h x (List.mem_cons_self ..)
    rw [any, hhere, ok_bind]
    cases here with
    | true => exact ⟨true, rfl⟩
    | false => exact ih fun y hy => h y (List.mem_cons_of_mem _ hy)

/-! ### Corners of a mask -/

namespace RampMask

variable {m : RampMask}

theorem lowered_lower (m : RampMask) (c d : TopCorner) :
    (m.lower c).lowered d = (d == c || m.lowered d) := by
  have hbits : (m.bits ||| bit c) &&& bit d = (m.bits &&& bit d) ||| (bit c &&& bit d) := by
    apply UInt8.toBitVec_inj.mp
    simp only [UInt8.toBitVec_and, UInt8.toBitVec_or]
    grind
  have hbit : (bit c &&& bit d != 0) = (d == c) := by cases c <;> cases d <;> rfl
  rw [lowered, lower, lowered, hbits, ← hbit, Bool.eq_iff_iff]
  simp only [bne_iff_ne, Bool.or_eq_true, ne_eq, UInt8.or_eq_zero_iff, not_and_or]
  exact or_comm

theorem lowered_foldl_lower (cs : List TopCorner) (m : RampMask) (d : TopCorner) :
    (cs.foldl lower m).lowered d = (cs.contains d || m.lowered d) := by
  induction cs generalizing m with
  | nil => rfl
  | cons c cs ih =>
    rw [List.foldl_cons, ih, lowered_lower, List.contains_cons, Bool.or_assoc, Bool.or_left_comm]

theorem low_low (m : RampMask) : low ⟨m.low⟩ = m.low := UInt8.and_assoc ..

theorem lowered_normalized (h : m.isDegenerate = false) (c : TopCorner) :
    m.normalized.lowered c = m.lowered c := by
  have hbit : 15 &&& bit c = bit c := by cases c <;> rfl
  simp only [normalized, h, Bool.false_eq_true, if_false, lowered, low, UInt8.and_assoc, hbit]

theorem normalized_normalized (m : RampMask) : m.normalized.normalized = m.normalized := by
  unfold normalized
  split
  · rfl
  · rename_i h
    have hsame : isDegenerate ⟨m.low⟩ = m.isDegenerate := by
      simp only [isDegenerate, low_low]
    rw [hsame, if_neg h, low_low]

end RampMask

/-! ### Cells around a lattice point -/

namespace TopCorner

variable {p n : Pos} {c d : TopCorner}

/-- Another cell with the same lattice point at its top is one of those that decide the corner. -/
theorem step_of_corner_eq (h : n.corner d.toCube = p.corner c.toCube) : n = p ∨
    ∃ s ∈ [(⟨c.stepX, 0, 0⟩ : Pos), ⟨0, 0, c.stepZ⟩, ⟨c.stepX, 0, c.stepZ⟩],
      n = ⟨p.x + s.x, p.y + s.y, p.z + s.z⟩ := by
  obtain ⟨px, py, pz⟩ := p
  obtain ⟨nx, ny, nz⟩ := n
  simp only [Pos.corner, CubeCorner.unit, toCube, Pos.mk.injEq] at h
  simp only [List.mem_cons, List.not_mem_nil, or_false, exists_eq_or_imp, exists_eq_left,
    Pos.mk.injEq, stepX, stepZ]
  cases c <;> cases d <;> simp [right, back] at h ⊢ <;> omega

@[simp] theorem right_ofEnds (right back : Bool) : (ofEnds right back).right = right := by
  cases right <;> cases back <;> rfl

@[simp] theorem back_ofEnds (right back : Bool) : (ofEnds right back).back = back := by
  cases right <;> cases back <;> rfl

/-- One cell on toward an end, the lattice point is at the other end. -/
theorem step_add_not (x : Int) (upper : Bool) :
    x + (if upper then 1 else -1) + ((!upper).toNat : Int) = x + (upper.toNat : Int) := by
  cases upper with
  | false =>
    change x + -1 + 1 = x + 0
    omega
  | true =>
    change x + 1 + 0 = x + 1
    omega

theorem exists_corner_of_step {s : Pos}
    (hs : s ∈ [(⟨c.stepX, 0, 0⟩ : Pos), ⟨0, 0, c.stepZ⟩, ⟨c.stepX, 0, c.stepZ⟩])
    (hn : p.plus s = .ok n) : ∃ d : TopCorner, n.corner d.toCube = p.corner c.toCube := by
  obtain ⟨rfl, -⟩ := Pos.plus_eq_ok_iff.mp hn
  simp only [List.mem_cons, List.not_mem_nil, or_false] at hs
  rcases hs with rfl | rfl | rfl
  · refine ⟨.ofEnds (!c.right) c.back, ?_⟩
    simp only [Pos.corner, CubeCorner.unit, toCube, right_ofEnds, back_ofEnds, stepX, step_add_not,
      Int.add_zero]
  · refine ⟨.ofEnds c.right (!c.back), ?_⟩
    simp only [Pos.corner, CubeCorner.unit, toCube, right_ofEnds, back_ofEnds, stepZ, step_add_not,
      Int.add_zero]
  · refine ⟨.ofEnds (!c.right) (!c.back), ?_⟩
    simp only [Pos.corner, CubeCorner.unit, toCube, right_ofEnds, back_ofEnds, stepX, stepZ,
      step_add_not, Int.add_zero]

end TopCorner

namespace Query

variable {q : Query} {p n : Pos} {v u : Voxel} {c d : TopCorner} {raw raw' : RampMask}

/-- Some cell with this lattice point at its top is present and open. -/
def OpensOnto (q : Query) (point : Pos) : Prop :=
  ∃ (n : Pos) (c : TopCorner) (v : Voxel), n.corner c.toCube = point ∧
    q.voxelAt n = .ok (some v) ∧ v.occludes = false

theorem isOpenAt_eq_true : q.isOpenAt n = .ok true ↔
    ∃ v, q.voxelAt n = .ok (some v) ∧ v.occludes = false := by
  constructor
  · intro h
    obtain ⟨x, hx, h⟩ := Checked.bind_eq_ok_iff.mp h
    have hopen := Checked.pure_eq_ok_iff.mp h
    cases x with
    | none => cases hopen
    | some v => exact ⟨v, hx, by simpa using hopen⟩
  · rintro ⟨v, hv, hopen⟩
    rw [isOpenAt, hv, Checked.ok_bind, Option.any_some, hopen]
    rfl

/-- What the corner test of an occluding voxel finds does not depend on which of the cells around
the lattice point asks. -/
theorem isCornerOpen_iff_opensOnto {b : Bool} (hv : q.voxelAt p = .ok (some v))
    (hocc : v.occludes = true) (h : q.isCornerOpen p c = .ok b) :
    b = true ↔ q.OpensOnto (p.corner c.toCube) := by
  rcases Checked.any_eq_ok h with ⟨rfl, s, hs, htest⟩ | ⟨rfl, hnone⟩
  · obtain ⟨n, hn, hopen⟩ := Checked.bind_eq_ok_iff.mp htest
    obtain ⟨u, hu, hopen⟩ := isOpenAt_eq_true.mp hopen
    obtain ⟨d, hd⟩ := TopCorner.exists_corner_of_step hs hn
    exact ⟨fun _ => ⟨n, d, u, hd, hu, hopen⟩, fun _ => rfl⟩
  · refine ⟨fun h => absurd h Bool.false_ne_true, ?_⟩
    rintro ⟨n, d, u, hd, hu, hopen⟩
    rcases TopCorner.step_of_corner_eq hd with rfl | ⟨s, hs, rfl⟩
    · obtain rfl := Option.some.inj (Except.ok.inj (hv.symm.trans hu))
      exact hopen.symm.trans hocc
    · -- The open cell was looked at, and not found open.
      obtain ⟨n, hn, hclosed⟩ := Checked.bind_eq_ok_iff.mp (hnone s hs)
      obtain ⟨rfl, -⟩ := Pos.plus_eq_ok_iff.mp hn
      exact Except.ok.inj (hclosed.symm.trans (isOpenAt_eq_true.mpr ⟨u, hu, hopen⟩))

theorem isCornerOpen_of_openCorners (h : q.openCorners p = .ok raw) (c : TopCorner) :
    q.isCornerOpen p c = .ok (raw.lowered c) := by
  obtain ⟨cs, hcs, h⟩ := Checked.bind_eq_ok_iff.mp h
  obtain rfl := Checked.pure_eq_ok_iff.mp h
  have hnone : RampMask.none.lowered c = false := by cases c <;> rfl
  rw [RampMask.lowered_foldl_lower, hnone, Bool.or_false]
  exact Checked.test_of_select hcs (by cases c <;> decide)

theorem lowered_eq_of_corner_eq (hv : q.voxelAt p = .ok (some v)) (hu : q.voxelAt n = .ok (some u))
    (hocc : v.occludes = true) (hocc' : u.occludes = true) (hraw : q.openCorners p = .ok raw)
    (hraw' : q.openCorners n = .ok raw') (hpoint : p.corner c.toCube = n.corner d.toCube) :
    raw.lowered c = raw'.lowered d := by
  rw [Bool.eq_iff_iff, isCornerOpen_iff_opensOnto hv hocc (isCornerOpen_of_openCorners hraw c),
    isCornerOpen_iff_opensOnto hu hocc' (isCornerOpen_of_openCorners hraw' d), hpoint]

/-- Every cell around `p` lies in the world and has an answer. -/
def KnowsAround (q : Query) (p : Pos) : Prop :=
  ∀ s : Pos, s.IsUnit → ∃ n x, p.plus s = .ok n ∧ q.voxelAt n = .ok x

theorem exists_openCorners (h : q.KnowsAround p) : ∃ raw, q.openCorners p = .ok raw := by
  have hcorner (c : TopCorner) : ∃ b, q.isCornerOpen p c = .ok b := by
    apply Checked.exists_any
    intro s hs
    obtain ⟨n, x, hn, hx⟩ := h s (TopCorner.isUnit_of_mem hs).1
    rw [hn, Checked.ok_bind, isOpenAt, hx]
    exact ⟨_, rfl⟩
  obtain ⟨cs, hcs⟩ := Checked.exists_select fun c (_ : c ∈ TopCorner.all) => hcorner c
  rw [openCorners, hcs]
  exact ⟨_, rfl⟩

theorem rampAt_of_openCorners {types : VoxelCatalogue} (h : q.isSlopable types p v = .ok true)
    (hraw : q.openCorners p = .ok raw) : q.rampAt types p v = .ok raw.normalized := by
  rw [rampAt, h, Checked.ok_bind, if_pos rfl, hraw]
  rfl

end Query

/-! ### Sides between slopes -/

namespace Face

variable {f : Face} {p n : Pos} {own neighbor : RampMask}

/-- The top edges of two cells with a side face between them have the same ends, and the two cells
share no other lattice points at their tops. -/
theorem exists_topEdge (hf : f.isSide = true) (hn : p.plus f.step = .ok n) :
    ∃ a b a' b', f.topEdge = some (a, b) ∧ f.opposite.topEdge = some (a', b') ∧
      ∀ c d : TopCorner, p.corner c.toCube = n.corner d.toCube ↔
        c = a ∧ d = a' ∨ c = b ∧ d = b' := by
  obtain ⟨rfl, -⟩ := Pos.plus_eq_ok_iff.mp hn
  cases f <;> simp only [isSide, Bool.false_eq_true] at hf
  all_goals
    refine ⟨_, _, _, _, rfl, rfl, fun c d => ?_⟩
    cases c <;> cases d <;>
      simp [Pos.corner, CubeCorner.unit, TopCorner.toCube, TopCorner.right, TopCorner.back,
        step] <;>
      omega

/-- A side face is hidden where the two masks agree at the ends of the edge above it. -/
theorem isExposed_eq_false_iff {a b a' b' : TopCorner} (hf : f.isSide = true)
    (hedge : f.topEdge = some (a, b)) (hedge' : f.opposite.topEdge = some (a', b')) :
    f.isExposed own neighbor = false ↔
      own.normalized.lowered a = neighbor.normalized.lowered a' ∧
        own.normalized.lowered b = neighbor.normalized.lowered b' := by
  simp [isExposed, edgeProfile, hf, hedge, hedge']

end Face

namespace Query

variable {q : Query} {p n : Pos} {v u : Voxel} {f : Face}

theorem isFaceVisible_of_side (hf : f.isSide = true) (hn : p.plus f.step = .ok n)
    (hu : q.voxelAt n = .ok (some u)) (hocc : u.occludes = true) (v : Voxel) (limit : Option Int) :
    q.isFaceVisible p v limit f = .ok (f.isExposed v.ramp u.ramp) := by
  have htop : ¬ (f = .top ∧ limit = some p.y) := by
    rintro ⟨rfl, -⟩
    cases hf
  rw [isFaceVisible, if_neg htop, hn, Checked.ok_bind, hu, Checked.ok_bind]
  simp only [hocc, Bool.not_true, Bool.false_or]
  rfl

/-- Two occluding voxels lower a top corner that they share together or not at all. If both slope
and neither mask is degenerate, the masks that they get agree there too, and the side faces between
them are hidden. -/
theorem slopes_meet_at_corners (q : Query) (types : VoxelCatalogue) {p n : Pos} {v u : Voxel}
    (hv : q.voxelAt p = .ok (some v)) (hu : q.voxelAt n = .ok (some u))
    (hocc : v.occludes = true) (hocc' : u.occludes = true) :
    (∀ k, q.KnowsAround k → ∃ raw, q.openCorners k = .ok raw) ∧
    ∀ raw raw', q.openCorners p = .ok raw → q.openCorners n = .ok raw' →
      (∀ c d : TopCorner, p.corner c.toCube = n.corner d.toCube →
        raw.lowered c = raw'.lowered d) ∧
      (q.isSlopable types p v = .ok true → q.isSlopable types n u = .ok true →
        raw.isDegenerate = false → raw'.isDegenerate = false →
        ∃ r r', q.rampAt types p v = .ok r ∧ q.rampAt types n u = .ok r' ∧
          (∀ c d : TopCorner, p.corner c.toCube = n.corner d.toCube →
            r.lowered c = r'.lowered d) ∧
          ∀ f : Face, f.isSide = true → p.plus f.step = .ok n →
            f.isExposed r r' = false ∧ f.opposite.isExposed r' r = false ∧
            (p.Fits → v.ramp = r → u.ramp = r' → ∀ limit,
              q.isFaceVisible p v limit f = .ok false ∧
              q.isFaceVisible n u limit f.opposite = .ok false)) := by
  refine ⟨fun k => exists_openCorners, fun raw raw' hraw hraw' => ⟨fun c d hpoint => ?_,
    fun hslope hslope' hdeg hdeg' => ?_⟩⟩
  · exact lowered_eq_of_corner_eq hv hu hocc hocc' hraw hraw' hpoint
  have hmeet (c d : TopCorner) (hpoint : p.corner c.toCube = n.corner d.toCube) :
      raw.normalized.lowered c = raw'.normalized.lowered d := by
    rw [RampMask.lowered_normalized hdeg, RampMask.lowered_normalized hdeg']
    exact lowered_eq_of_corner_eq hv hu hocc hocc' hraw hraw' hpoint
  refine ⟨_, _, rampAt_of_openCorners hslope hraw, rampAt_of_openCorners hslope' hraw', hmeet,
    fun f hf hn => ?_⟩
  obtain ⟨a, b, a', b', hedge, hedge', hshared⟩ := Face.exists_topEdge hf hn
  -- The rule for faces normalizes once more, which changes nothing.
  have hhidden : f.isExposed raw.normalized raw'.normalized = false := by
    rw [Face.isExposed_eq_false_iff hf hedge hedge', RampMask.normalized_normalized,
      RampMask.normalized_normalized]
    exact ⟨hmeet a a' ((hshared a a').mpr (.inl ⟨rfl, rfl⟩)),
      hmeet b b' ((hshared b b').mpr (.inr ⟨rfl, rfl⟩))⟩
  refine ⟨hhidden, (f.isExposed_opposite _ _).trans hhidden, fun hp hr hr' limit => ⟨?_, ?_⟩⟩
  · rw [isFaceVisible_of_side hf hn hu hocc', hr, hr', hhidden]
  · have hback := Face.plus_opposite hp hn
    rw [isFaceVisible_of_side (f.isSide_opposite.trans hf) hback hv hocc, Face.isExposed_opposite,
      hr, hr', hhidden]

/-- Solid ground that ends in a step down toward the right. -/
def ledge : Query :=
  ⟨fun p => .ok (some (if p.x ≤ 0 ∧ p.y ≤ 0 then .ofKind 1 else .empty)), fun _ => .ok none⟩

/-- Along the edge of the ledge, two voxels slope to the right and meet in a lowered corner. -/
theorem slopes_meet_at_corners_ledge :
    ledge.voxelAt ⟨0, 0, 0⟩ = .ok (some (.ofKind 1)) ∧
    ledge.voxelAt ⟨0, 0, 1⟩ = .ok (some (.ofKind 1)) ∧ (Voxel.ofKind 1).occludes = true ∧
    ∃ raw raw' r r', ledge.openCorners ⟨0, 0, 0⟩ = .ok raw ∧
      ledge.openCorners ⟨0, 0, 1⟩ = .ok raw' ∧
      raw.lowered .backRight = true ∧ raw'.lowered .frontRight = true ∧
      ledge.rampAt World.ridgeTypes ⟨0, 0, 0⟩ (.ofKind 1) = .ok r ∧
      ledge.rampAt World.ridgeTypes ⟨0, 0, 1⟩ (.ofKind 1) = .ok r' ∧
      Face.back.isExposed r r' = false ∧ Face.front.isExposed r' r = false := by
  have hv : ledge.voxelAt ⟨0, 0, 0⟩ = .ok (some (.ofKind 1)) := rfl
  have hu : ledge.voxelAt ⟨0, 0, 1⟩ = .ok (some (.ofKind 1)) := rfl
  have hocc : (Voxel.ofKind 1).occludes = true := by decide
  have hraw : ledge.openCorners ⟨0, 0, 0⟩ = .ok ⟨10⟩ := by decide +kernel
  have hraw' : ledge.openCorners ⟨0, 0, 1⟩ = .ok ⟨10⟩ := by decide +kernel
  obtain ⟨-, hall⟩ := slopes_meet_at_corners ledge World.ridgeTypes hv hu hocc hocc
  obtain ⟨hmeet, hslopes⟩ := hall _ _ hraw hraw'
  obtain ⟨r, r', hr, hr', -, hsides⟩ := hslopes (by decide +kernel) (by decide +kernel)
    (by decide) (by decide)
  obtain ⟨hback, hfront, -⟩ := hsides .back rfl rfl
  have hlow : RampMask.lowered ⟨10⟩ .backRight = true := by decide
  exact ⟨hv, hu, hocc, _, _, r, r', hraw, hraw', hlow, (hmeet .backRight .frontRight rfl) ▸ hlow,
    hr, hr', hback, hfront⟩

end Query

end VoxelScene
