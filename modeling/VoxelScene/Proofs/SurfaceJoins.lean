import VoxelScene.Proofs.MeshTotal
import VoxelScene.Proofs.SlopeCorners
import VoxelScene.Proofs.WholeSingles

/-!
Liquid surfaces that join.

Up to four cells share the vertical edge below a lattice point. A wet cell starts a tally with its
own level and adds the other three in its own order. What a cell adds does not depend on who asks,
except that it counts as full for the others when more of the liquid lies above it. Around an edge
the wet cells that nothing covers therefore reach the same tally, with the same height and foam. The
sums stay below 1021, where single precision is exact.
-/

namespace VoxelScene

/-- Steps that commute wherever they give a result lead to the same result in any order. -/
theorem Checked.foldlM_perm {α σ : Type} {f : σ → α → Checked σ}
    (hswap : ∀ s x y t, (do f (← f s x) y) = .ok t → (do f (← f s y) x) = .ok t)
    {xs ys : List α} (hperm : xs.Perm ys) {s t : σ} (h : xs.foldlM f s = .ok t) :
    ys.foldlM f s = .ok t := by
  induction hperm generalizing s with
  | nil => exact h
  | cons x _ ih =>
    rw [List.foldlM_cons] at h ⊢
    obtain ⟨u, hu, h⟩ := bind_eq_ok_iff.mp h
    rw [hu, ok_bind]
    exact ih h
  | swap x y l =>
    rw [List.foldlM_cons] at h ⊢
    obtain ⟨u, hu, h⟩ := bind_eq_ok_iff.mp h
    rw [List.foldlM_cons] at h
    obtain ⟨v, hv, h⟩ := bind_eq_ok_iff.mp h
    have hboth : (do f (← f s y) x) = .ok v := bind_eq_ok_iff.mpr ⟨u, hu, hv⟩
    obtain ⟨u', hu', hv'⟩ := bind_eq_ok_iff.mp (hswap s y x v hboth)
    rw [hu', ok_bind, List.foldlM_cons, hv', ok_bind]
    exact h
  | trans _ _ ih ih' => exact ih' (ih h)

theorem Checked.step_of_foldlM {α σ : Type} {f : σ → α → Checked σ} {xs : List α} {s t : σ}
    (h : xs.foldlM f s = .ok t) {x : α} (hx : x ∈ xs) : ∃ u v, f u x = .ok v := by
  induction xs generalizing s with
  | nil => cases hx
  | cons y xs ih =>
    rw [List.foldlM_cons] at h
    obtain ⟨u, hu, h⟩ := bind_eq_ok_iff.mp h
    rcases List.mem_cons.mp hx with rfl | hx
    · exact ⟨s, u, hu⟩
    · exact ih h hx

/-- Where a step leads, without regard to the range of positions. -/
def Pos.away (p s : Pos) : Pos := ⟨p.x + s.x, p.y + s.y, p.z + s.z⟩

theorem Checked.foldlM_plus_eq_ok {σ : Type} {f : σ → Pos → Checked σ} {p : Pos} {steps : List Pos}
    {s t : σ} : steps.foldlM (fun s step => do f s (← p.plus step)) s = .ok t ↔
      (∀ step ∈ steps, (p.away step).Fits) ∧ (steps.map p.away).foldlM f s = .ok t := by
  induction steps generalizing s with
  | nil => simp
  | cons step steps ih =>
    simp only [List.foldlM_cons, List.map_cons, List.forall_mem_cons]
    constructor
    · intro h
      obtain ⟨u, hu, h⟩ := bind_eq_ok_iff.mp h
      obtain ⟨n, hn, hu⟩ := bind_eq_ok_iff.mp hu
      obtain ⟨rfl, hfits⟩ := Pos.plus_eq_ok_iff.mp hn
      obtain ⟨hrest, h⟩ := ih.mp h
      exact ⟨⟨hfits, hrest⟩, bind_eq_ok_iff.mpr ⟨u, hu, h⟩⟩
    · rintro ⟨⟨hfits, hrest⟩, h⟩
      obtain ⟨u, hu, h⟩ := bind_eq_ok_iff.mp h
      have hn : p.plus step = .ok (p.away step) := Pos.plus_eq_ok_iff.mpr ⟨rfl, hfits⟩
      rw [hn, ok_bind, hu, ok_bind]
      exact ih.mpr ⟨hrest, h⟩

/-! ### The cells around an edge -/

namespace TopCorner

variable {c d : TopCorner} {p n : Pos}

/-- Steps to the other three cells around the edge below a corner. -/
def steps (c : TopCorner) : List Pos :=
  [⟨c.stepX, 0, 0⟩, ⟨0, 0, c.stepZ⟩, ⟨c.stepX, 0, c.stepZ⟩]

/-- The four cells around the edge below a corner, the given one first. -/
def around (c : TopCorner) (p : Pos) : List Pos := p :: c.steps.map p.away

theorem mem_around : n ∈ c.around p ↔ ∃ d : TopCorner, n.corner d.toCube = p.corner c.toCube := by
  constructor
  · intro hn
    simp only [around, steps, Pos.away, List.map_cons, List.map_nil, List.mem_cons,
      List.not_mem_nil, or_false] at hn
    rcases hn with rfl | rfl | rfl | rfl
    · exact ⟨c, rfl⟩
    · refine ⟨.ofEnds (!c.right) c.back, ?_⟩
      simp only [Pos.corner, CubeCorner.unit, toCube, right_ofEnds, back_ofEnds, stepX,
        step_add_not, Int.add_zero]
    · refine ⟨.ofEnds c.right (!c.back), ?_⟩
      simp only [Pos.corner, CubeCorner.unit, toCube, right_ofEnds, back_ofEnds, stepZ,
        step_add_not, Int.add_zero]
    · refine ⟨.ofEnds (!c.right) (!c.back), ?_⟩
      simp only [Pos.corner, CubeCorner.unit, toCube, right_ofEnds, back_ofEnds, stepX, stepZ,
        step_add_not, Int.add_zero]
  · rintro ⟨d, hd⟩
    rcases step_of_corner_eq hd with rfl | ⟨s, hs, rfl⟩
    · exact List.mem_cons_self ..
    · exact List.mem_cons_of_mem _ (List.mem_map_of_mem hs)

theorem nodup_around (c : TopCorner) (p : Pos) : (c.around p).Nodup := by
  have hx : c.stepX ≠ 0 := by cases c <;> decide
  have hz : c.stepZ ≠ 0 := by cases c <;> decide
  cases p
  simp [around, steps, Pos.away]
  omega

/-- Cells that share a lattice point list the same cells around the edge below it. -/
theorem around_perm (h : n.corner d.toCube = p.corner c.toCube) :
    (c.around p).Perm (d.around n) := by
  apply (List.perm_ext_iff_of_nodup (c.nodup_around p) (d.nodup_around n)).mpr
  intro k
  rw [mem_around, mem_around, h]

end TopCorner

/-! ### Shares -/

namespace CornerTally

def zero : CornerTally := ⟨0, 0, 0⟩

def plus (t u : CornerTally) : CornerTally :=
  ⟨t.levels + u.levels, t.cells + u.cells, t.exposed + u.exposed⟩

@[simp] theorem plus_zero (t : CornerTally) : t.plus zero = t := rfl

theorem plus_right_comm (t u v : CornerTally) : (t.plus u).plus v = (t.plus v).plus u := by
  simp only [plus, mk.injEq]
  omega

/-- A tally of a cell and up to `k` of the others. -/
structure Within (t : CornerTally) (k : Nat) : Prop where
  levels : t.levels ≤ 255 * t.cells
  cells : t.cells ≤ k + 1
  exposed : t.exposed ≤ k

end CornerTally

/-- A tally whose sums are kept as singles. -/
structure CornerSums where
  levels : Single
  cells : Single
  exposed : Single

def CornerTally.sums (t : CornerTally) : CornerSums :=
  ⟨.ofNat t.levels, .ofNat t.cells, .ofNat t.exposed⟩

namespace Query

variable {q : Query} {liquid level : UInt8} {p n : Pos} {c d : TopCorner} {a b : UInt8}
  {t u : CornerTally} {k : Nat}

/-- A cell adds the same to every tally. -/
theorem tallyCell_plus (q : Query) (liquid : UInt8) (t u : CornerTally) (p : Pos) :
    q.tallyCell liquid (t.plus u) p = (q.tallyCell liquid u p).map t.plus := by
  unfold tallyCell
  cases q.liquidAt p with
  | error e => rfl
  | ok cell =>
    cases cell with
    | none => rfl
    | some cell =>
      simp only [Checked.ok_bind]
      split
      · cases p.plus .up with
        | error e => rfl
        | ok k =>
          simp only [Checked.ok_bind]
          cases q.isWetWithAt k liquid with
          | error e => rfl
          | ok covered =>
            simp only [Checked.ok_bind, CornerTally.plus, Nat.add_assoc]
            rfl
      · split
        · rfl
        · cases q.occludesAt p with
          | error e => rfl
          | ok occludes => cases occludes <;> rfl

theorem tallyCell_eq_ok : q.tallyCell liquid t p = .ok u ↔
    ∃ share, q.tallyCell liquid .zero p = .ok share ∧ u = t.plus share := by
  have hplus := q.tallyCell_plus liquid t .zero p
  rw [CornerTally.plus_zero] at hplus
  rw [hplus]
  cases q.tallyCell liquid .zero p with
  | error e => simp [Except.map]
  | ok share => simp [Except.map, eq_comm]

theorem tallyCell_swap (q : Query) (liquid : UInt8) (s : CornerTally) (p n : Pos) (t : CornerTally)
    (h : (do q.tallyCell liquid (← q.tallyCell liquid s p) n) = .ok t) :
    (do q.tallyCell liquid (← q.tallyCell liquid s n) p) = .ok t := by
  obtain ⟨u, hu, h⟩ := Checked.bind_eq_ok_iff.mp h
  obtain ⟨first, hfirst, rfl⟩ := tallyCell_eq_ok.mp hu
  obtain ⟨second, hsecond, rfl⟩ := tallyCell_eq_ok.mp h
  rw [Checked.bind_eq_ok_iff]
  refine ⟨s.plus second, tallyCell_eq_ok.mpr ⟨second, hsecond, rfl⟩, ?_⟩
  exact tallyCell_eq_ok.mpr ⟨first, hfirst, s.plus_right_comm first second⟩

/-! ### Cells with a surface -/

/-- A cell holds a level of the liquid, and none of the liquid lies above it. -/
structure HasSurface (q : Query) (liquid : UInt8) (p : Pos) (level : UInt8) : Prop where
  fits : p.Fits
  wet : ∃ cell, q.liquidAt p = .ok (some cell) ∧ cell.isWetWith liquid = true ∧ cell.level = level
  bare : ∀ k, p.plus .up = .ok k → q.isWetWithAt k liquid = .ok false

namespace HasSurface

theorem tallyCell (h : q.HasSurface liquid p a) (t : CornerTally) :
    q.tallyCell liquid t p = (do let _ ← p.plus .up; return t.plus ⟨a.toNat, 1, 0⟩) := by
  obtain ⟨cell, hcell, hwet, rfl⟩ := h.wet
  rw [Query.tallyCell, hcell, Checked.ok_bind]
  dsimp only
  rw [if_pos hwet]
  cases hup : p.plus .up with
  | error e => rfl
  | ok k =>
    rw [Checked.ok_bind, h.bare k hup]
    rfl

theorem exists_plus_up (hp : q.HasSurface liquid p a) (hn : q.HasSurface liquid n b)
    (hcorner : n.corner d.toCube = p.corner c.toCube) {s t : CornerTally}
    (h : q.tallyCell liquid s n = .ok t) : ∃ k, p.plus .up = .ok k := by
  rw [hn.tallyCell] at h
  obtain ⟨k, hk, -⟩ := Checked.bind_eq_ok_iff.mp h
  obtain ⟨rfl, hfits⟩ := Pos.plus_eq_ok_iff.mp hk
  refine ⟨p.away .up, Pos.plus_eq_ok_iff.mpr ⟨rfl, ?_⟩⟩
  have hy : n.y = p.y := by
    have := congrArg Pos.y hcorner
    simp only [Pos.corner, CubeCorner.unit, TopCorner.toCube] at this
    omega
  have hpfits := hp.fits
  simp only [Pos.away, Pos.up, Pos.Fits, Int.add_zero, hy] at hfits hpfits ⊢
  exact ⟨hpfits.1, hfits.2.1, hpfits.2.2⟩

/-- A cell counts for itself as it counts for the others, so its tally is that of all four. -/
theorem tallyCorner_eq_ok (hp : q.HasSurface liquid p a) (hn : q.HasSurface liquid n b)
    (hne : n ≠ p) (hcorner : n.corner d.toCube = p.corner c.toCube) :
    q.tallyCorner p a liquid c = .ok t ↔ (∀ k ∈ c.around p, k.Fits) ∧
      (c.around p).foldlM (q.tallyCell liquid) .zero = .ok t := by
  have hother : n ∈ c.steps.map p.away :=
    List.mem_of_ne_of_mem hne (TopCorner.mem_around.mpr ⟨d, hcorner⟩)
  have hown (hup : ∃ k, p.plus .up = .ok k) :
      (c.around p).foldlM (q.tallyCell liquid) .zero =
        (c.steps.map p.away).foldlM (q.tallyCell liquid) ⟨a.toNat, 1, 0⟩ := by
    obtain ⟨k, hk⟩ := hup
    rw [TopCorner.around, List.foldlM_cons, hp.tallyCell, hk]
    simp [CornerTally.plus, CornerTally.zero]
  have hsteps : q.tallyCorner p a liquid c = .ok t ↔ (∀ k ∈ c.steps.map p.away, k.Fits) ∧
      (c.steps.map p.away).foldlM (q.tallyCell liquid) ⟨a.toNat, 1, 0⟩ = .ok t := by
    rw [List.forall_mem_map]
    exact Checked.foldlM_plus_eq_ok
  rw [hsteps]
  constructor
  · rintro ⟨hfits, h⟩
    obtain ⟨u, v, hstep⟩ := Checked.step_of_foldlM h hother
    exact ⟨List.forall_mem_cons.mpr ⟨hp.fits, hfits⟩,
      (hown (hp.exists_plus_up hn hcorner hstep)).trans h⟩
  · rintro ⟨hfits, h⟩
    obtain ⟨u, v, hstep⟩ := Checked.step_of_foldlM h (List.mem_cons_of_mem p hother)
    exact ⟨(List.forall_mem_cons.mp hfits).2,
      (hown (hp.exists_plus_up hn hcorner hstep)).symm.trans h⟩

theorem tallyCorner_join (hp : q.HasSurface liquid p a) (hn : q.HasSurface liquid n b)
    (hne : n ≠ p) (hcorner : n.corner d.toCube = p.corner c.toCube)
    (h : q.tallyCorner p a liquid c = .ok t) : q.tallyCorner n b liquid d = .ok t := by
  have hperm := TopCorner.around_perm hcorner
  obtain ⟨hfits, h⟩ := (hp.tallyCorner_eq_ok hn hne hcorner).mp h
  rw [hn.tallyCorner_eq_ok hp hne.symm hcorner.symm]
  exact ⟨fun k hk => hfits k (hperm.mem_iff.mpr hk),
    Checked.foldlM_perm (q.tallyCell_swap liquid) hperm h⟩

end HasSurface

/-! ### Sums in single precision -/

/-- Adds a cell next to a corner, each sum in single precision. -/
def sumCell (q : Query) (liquid : UInt8) (t : CornerSums) (p : Pos) : Checked CornerSums := do
  match ← q.liquidAt p with
  | none => return { t with exposed := t.exposed + .one }
  | some c =>
    let t := { t with cells := t.cells + .one }
    if c.isWetWith liquid then
      let covered ← q.isWetWithAt (← p.plus .up) liquid
      return { t with levels := t.levels + if covered then 255.0 else .ofNat c.level.toNat }
    else if c.isWet then return t
    else if ← q.occludesAt p then return t
    else return { t with exposed := t.exposed + .one }

def sumCorner (q : Query) (p : Pos) (level : UInt8) (liquid : UInt8) (c : TopCorner) :
    Checked CornerSums :=
  c.steps.foldlM (fun t s => do q.sumCell liquid t (← p.plus s)) ⟨.ofNat level.toNat, .one, .zero⟩

theorem share_le (h : q.tallyCell liquid .zero p = .ok t) :
    t.levels ≤ 255 * t.cells ∧ t.cells ≤ 1 ∧ t.exposed ≤ 1 := by
  unfold tallyCell at h
  obtain ⟨cell, -, h⟩ := Checked.bind_eq_ok_iff.mp h
  cases cell with
  | none =>
    obtain rfl := Checked.pure_eq_ok_iff.mp h
    decide
  | some cell =>
    dsimp only at h
    split at h
    · obtain ⟨k, -, h⟩ := Checked.bind_eq_ok_iff.mp h
      obtain ⟨covered, -, h⟩ := Checked.bind_eq_ok_iff.mp h
      obtain rfl := Checked.pure_eq_ok_iff.mp h
      have hlevel := cell.level.toNat_lt
      simp only [CornerTally.zero]
      split <;> omega
    · split at h
      · obtain rfl := Checked.pure_eq_ok_iff.mp h
        decide
      · obtain ⟨occludes, -, h⟩ := Checked.bind_eq_ok_iff.mp h
        split at h <;> obtain rfl := Checked.pure_eq_ok_iff.mp h <;> decide

theorem within_tallyCell (ht : t.Within k) (h : q.tallyCell liquid t p = .ok u) :
    u.Within (k + 1) := by
  obtain ⟨share, hshare, rfl⟩ := tallyCell_eq_ok.mp h
  obtain ⟨hlevels, hcells, hexposed⟩ := share_le hshare
  obtain ⟨htlevels, htcells, htexposed⟩ := ht
  constructor <;> simp only [CornerTally.plus] <;> omega

theorem sumCell_sums (q : Query) (liquid : UInt8) (ht : t.Within k) (hk : k < 3) (p : Pos) :
    q.sumCell liquid t.sums p = (q.tallyCell liquid t p).map CornerTally.sums := by
  have hone : Single.one = .ofNat 1 := by decide +kernel
  have hfull : (255.0 : Single) = .ofNat 255 := by decide +kernel
  obtain ⟨hlevels, hcells, hexposed⟩ := ht
  have hcells : Single.ofNat t.cells + .one = .ofNat (t.cells + 1) := by
    rw [hone, Single.ofNat_add (by omega)]
  have hexposed : Single.ofNat t.exposed + .one = .ofNat (t.exposed + 1) := by
    rw [hone, Single.ofNat_add (by omega)]
  unfold sumCell tallyCell
  cases q.liquidAt p with
  | error e => rfl
  | ok cell =>
    cases cell with
    | none =>
      simp only [Checked.ok_bind, CornerTally.sums, hexposed]
      rfl
    | some cell =>
      simp only [Checked.ok_bind, CornerTally.sums, hcells, hexposed]
      split
      · cases p.plus .up with
        | error e => rfl
        | ok k =>
          simp only [Checked.ok_bind]
          cases q.isWetWithAt k liquid with
          | error e => rfl
          | ok covered =>
            have hlevel := cell.level.toNat_lt
            have hsum : Single.ofNat t.levels +
                (if covered then 255.0 else .ofNat cell.level.toNat) =
                .ofNat (t.levels + if covered then 255 else cell.level.toNat) := by
              cases covered with
              | false =>
                rw [if_neg Bool.false_ne_true, if_neg Bool.false_ne_true,
                  Single.ofNat_add (by omega)]
              | true => rw [if_pos rfl, if_pos rfl, hfull, Single.ofNat_add (by omega)]
            simp only [Checked.ok_bind, hsum]
            rfl
      · split
        · rfl
        · cases q.occludesAt p with
          | error e => rfl
          | ok occludes => cases occludes <;> rfl

theorem within_steps {steps : List Pos} (ht : t.Within k)
    (h : steps.foldlM (fun t s => do q.tallyCell liquid t (← p.plus s)) t = .ok u) :
    u.Within (k + steps.length) := by
  induction steps generalizing t k with
  | nil =>
    obtain rfl := Checked.pure_eq_ok_iff.mp h
    exact ht
  | cons s steps ih =>
    rw [List.foldlM_cons] at h
    obtain ⟨v, hv, h⟩ := Checked.bind_eq_ok_iff.mp h
    obtain ⟨n, -, hv⟩ := Checked.bind_eq_ok_iff.mp hv
    have hrest := ih (within_tallyCell ht hv) h
    rwa [Nat.add_assoc, Nat.add_comm 1] at hrest

theorem foldlM_sumCell {steps : List Pos} (ht : t.Within k) (hk : k + steps.length ≤ 3) :
    steps.foldlM (fun t s => do q.sumCell liquid t (← p.plus s)) t.sums =
      (steps.foldlM (fun t s => do q.tallyCell liquid t (← p.plus s)) t).map CornerTally.sums := by
  induction steps generalizing t k with
  | nil => rfl
  | cons s steps ih =>
    rw [List.length_cons] at hk
    rw [List.foldlM_cons, List.foldlM_cons]
    cases p.plus s with
    | error e => rfl
    | ok n =>
      simp only [Checked.ok_bind]
      rw [q.sumCell_sums liquid ht (by omega)]
      cases hu : q.tallyCell liquid t n with
      | error e => rfl
      | ok u => exact ih (within_tallyCell ht hu) (by omega)

theorem within_own (level : UInt8) : CornerTally.Within ⟨level.toNat, 1, 0⟩ 0 := by
  have hlevel := level.toNat_lt
  constructor <;> simp only <;> omega

/-- The sums around a corner are exact in single precision. -/
theorem sumCorner_eq (q : Query) (p : Pos) (level liquid : UInt8) (c : TopCorner) :
    q.sumCorner p level liquid c = (q.tallyCorner p level liquid c).map CornerTally.sums := by
  have hone : Single.one = .ofNat 1 := by decide +kernel
  have hzero : Single.zero = .ofNat 0 := by decide +kernel
  rw [sumCorner, hone, hzero]
  exact foldlM_sumCell (within_own level) (Nat.le_refl 3)

theorem tallyCorner_of_loop {tallies : Loop CornerTally}
    (h : q.tallyCorners p level liquid = .ok tallies) (c : TopCorner) :
    q.tallyCorner p level liquid c = .ok (tallies.atCorner c) := by
  obtain ⟨w, hw, h⟩ := Checked.bind_eq_ok_iff.mp h
  obtain ⟨x, hx, h⟩ := Checked.bind_eq_ok_iff.mp h
  obtain ⟨y, hy, h⟩ := Checked.bind_eq_ok_iff.mp h
  obtain ⟨z, hz, h⟩ := Checked.bind_eq_ok_iff.mp h
  obtain rfl := Checked.pure_eq_ok_iff.mp h
  cases c with
  | frontLeft => exact hw
  | frontRight => exact hx
  | backLeft => exact hy
  | backRight => exact hz

/-- Two different cells around an edge, each with a surface of the liquid, come to the same tally at
the top of the edge, with the same height and the same foam. The sums are small and exact in single
precision. The tally exists wherever the cells that it needs can be read. -/
theorem surfaces_join_at_corners (hp : q.HasSurface liquid p a) (hn : q.HasSurface liquid n b)
    (hne : n ≠ p) (hcorner : n.corner d.toCube = p.corner c.toCube) :
    (∀ t, q.tallyCorner p a liquid c = .ok t ↔ q.tallyCorner n b liquid d = .ok t) ∧
    (∀ t u, q.tallyCorner p a liquid c = .ok t → q.tallyCorner n b liquid d = .ok u →
      t.height = u.height ∧ t.foam = u.foam) ∧
    (∀ t, q.tallyCorner p a liquid c = .ok t →
      t.levels ≤ 1020 ∧ t.levels ≤ 255 * t.cells ∧ t.cells ≤ 4 ∧ t.exposed ≤ 3 ∧
      q.sumCorner p a liquid c = .ok t.sums ∧ q.sumCorner n b liquid d = .ok t.sums) ∧
    ∀ origin dims, q.Answers origin dims → p.Inside origin dims →
      ∃ t, q.tallyCorner p a liquid c = .ok t := by
  have hjoin (t : CornerTally) :
      q.tallyCorner p a liquid c = .ok t ↔ q.tallyCorner n b liquid d = .ok t :=
    ⟨hp.tallyCorner_join hn hne hcorner, hn.tallyCorner_join hp hne.symm hcorner.symm⟩
  refine ⟨hjoin, fun t u ht hu => ?_, fun t ht => ?_, fun origin dims hanswers hinside => ?_⟩
  · obtain rfl : t = u := Except.ok.inj (((hjoin t).mp ht).symm.trans hu)
    exact ⟨rfl, rfl⟩
  · obtain ⟨hlevels, hcells, hexposed⟩ := within_steps (within_own a) ht
    rw [sumCorner_eq, sumCorner_eq, ht, (hjoin t).mp ht]
    simp only [List.length_cons, List.length_nil] at hcells hexposed
    exact ⟨by omega, hlevels, by omega, by omega, rfl, rfl⟩
  · obtain ⟨tallies, htallies⟩ := hanswers.exists_tallyCorners hinside a liquid
    exact ⟨_, tallyCorner_of_loop htallies c⟩

/-- Two pools that touch at an edge. Of the other two cells there, one is deep under the liquid and
one is not present. -/
def pools : Query :=
  ⟨fun _ => .ok none, fun p => .ok (
    if p = ⟨1, 1, 1⟩ then some (.still 1 255)
    else if p = ⟨2, 1, 2⟩ then some (.still 1 51)
    else if p.x = 2 ∧ p.z = 1 then some (.still 1 10)
    else if p.y = 1 then none
    else some .dry)⟩

theorem surfaces_join_at_corners_pools :
    pools.HasSurface 1 ⟨1, 1, 1⟩ 255 ∧ pools.HasSurface 1 ⟨2, 1, 2⟩ 51 ∧
    pools.tallyCorner ⟨1, 1, 1⟩ 255 1 .backRight = .ok ⟨561, 3, 1⟩ ∧
    pools.tallyCorner ⟨2, 1, 2⟩ 51 1 .frontLeft = .ok ⟨561, 3, 1⟩ ∧
    pools.sumCorner ⟨2, 1, 2⟩ 51 1 .frontLeft = .ok (CornerTally.sums ⟨561, 3, 1⟩) := by
  have hp : pools.HasSurface 1 ⟨1, 1, 1⟩ 255 := by
    refine ⟨by decide, ⟨.still 1 255, rfl, rfl, rfl⟩, fun k hk => ?_⟩
    obtain rfl := Except.ok.inj hk
    rfl
  have hn : pools.HasSurface 1 ⟨2, 1, 2⟩ 51 := by
    refine ⟨by decide, ⟨.still 1 51, rfl, rfl, rfl⟩, fun k hk => ?_⟩
    obtain rfl := Except.ok.inj hk
    rfl
  have htally : pools.tallyCorner ⟨1, 1, 1⟩ 255 1 .backRight = .ok ⟨561, 3, 1⟩ := rfl
  obtain ⟨hsame, -, hexact, -⟩ := surfaces_join_at_corners (c := .backRight) (d := .frontLeft) hp hn
    (by decide) rfl
  exact ⟨hp, hn, htally, (hsame _).mp htally, (hexact _ htally).2.2.2.2.2⟩

end Query

end VoxelScene
