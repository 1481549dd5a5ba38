import VoxelScene.Proofs.SolidFaces

/-!
Faces seen from both sides.

The face between two cells is looked at twice, once for each cell, and the two cells may lie in two
chunks that are meshed from two snapshots. Whether a cell draws the face depends on the two voxels
alone, by a rule that does not change when they trade places. So both sides come to matching
answers wherever there are answers, and there is neither a hole nor a doubled wall along a seam.
Voxels of unregistered kinds hide faces of their neighbours and draw none of their own: they are the
one exception.
-/

namespace VoxelScene

/-! ### One face, two voxels -/

theorem Checked.mem_select {α : Type} {test : α → Checked Bool} {xs ys : List α} {x : α}
    (h : select test xs = .ok ys) : x ∈ ys ↔ x ∈ xs ∧ test x = .ok true := by
  induction xs generalizing ys with
  | nil =>
    obtain rfl := pure_eq_ok_iff.mp h
    simp
  | cons z xs ih =>
    obtain ⟨keep, hkeep, h⟩ := bind_eq_ok_iff.mp h
    obtain ⟨rest, hrest, h⟩ := bind_eq_ok_iff.mp h
    obtain rfl := pure_eq_ok_iff.mp h
    have ih := ih hrest
    by_cases hx : x = z
    · subst hx
      cases keep <;> simp [ih, hkeep]
    · cases keep <;> simp [ih, hx]

theorem Checked.test_of_select {α : Type} [BEq α] [LawfulBEq α] {test : α → Checked Bool}
    {xs ys : List α} {x : α} (h : select test xs = .ok ys) (hx : x ∈ xs) :
    test x = .ok (ys.contains x) := by
  obtain ⟨b, hb⟩ := (select_eq_ok h).2 x hx
  have hmem : x ∈ ys ↔ b = true := by simp [mem_select h, hx, hb]
  rw [hb]
  cases b <;> simp_all

namespace Face

theorem isExposed_opposite (f : Face) (own neighbor : RampMask) :
    f.opposite.isExposed neighbor own = f.isExposed own neighbor := by
  unfold isExposed
  rw [isSide_opposite, opposite_opposite, bne_comm]

/-- The position across a face, be it a coordinate or not. -/
def across (f : Face) (p : Pos) : Pos := ⟨p.x + f.step.x, p.y + f.step.y, p.z + f.step.z⟩

theorem across_opposite (f : Face) (p : Pos) : f.opposite.across (f.across p) = p := by
  have hback (x : Int) : x + -1 + 1 = x ∧ x + 1 + -1 = x := by omega
  cases f <;> simp only [across, opposite, step, Int.add_zero, hback]

/-- The step across a face and the step back. -/
theorem plus_opposite {f : Face} {p n : Pos} (hp : p.Fits) (hn : p.plus f.step = .ok n) :
    n.plus f.opposite.step = .ok p := by
  obtain ⟨rfl, -⟩ := Pos.plus_eq_ok_iff.mp hn
  exact Pos.plus_eq_ok_iff.mpr ⟨(across_opposite f p).symm, hp⟩

/-- How the face between two voxels is drawn, `here` from the first and `there` from the second:
from the one that occludes if the other does not, and else from both or from none. -/
structure Matches (f : Face) (v u : Voxel) (here there : Bool) : Prop where
  to_open : v.occludes = true → u.occludes = false → here = true ∧ there = false
  from_open : v.occludes = false → u.occludes = true → here = false ∧ there = true
  open_space : v.occludes = false → u.occludes = false → here = false ∧ there = false
  solid : v.occludes = true → u.occludes = true →
    here = there ∧ (f.isSide = false → here = false)

end Face

namespace Query

variable {q r : Query} {p n : Pos} {f : Face} {v u : Voxel} {limit : Option Int} {s t : FaceSet}

theorem isFaceVisible_of_visibleFaces (hv : v.occludes = true)
    (h : q.visibleFaces p v limit = .ok s) (f : Face) :
    q.isFaceVisible p v limit f = .ok (s.contains f) := by
  have hopen : ¬ (!v.occludes) = true := by simp [hv]
  rw [visibleFaces, if_neg hopen] at h
  obtain ⟨fs, hfs, h⟩ := Checked.bind_eq_ok_iff.mp h
  obtain rfl := Checked.pure_eq_ok_iff.mp h
  obtain ⟨b, hb⟩ := (Checked.select_eq_ok hfs).2 f f.mem_all
  have hmem : f ∈ fs ↔ b = true := by simp [Checked.mem_select hfs, f.mem_all, hb]
  rw [hb, FaceSet.contains_ofList]
  cases b <;> simp_all

/-- Toward a cell that is present, what is drawn depends on the two voxels. Of a voxel that does not
occlude, no neighbour is looked at. -/
theorem contains_visibleFaces (hu : ∀ x, q.voxelAt (f.across p) = .ok x → x = some u)
    (hcut : ¬ (f = .top ∧ limit = some p.y))
    (h : q.visibleFaces p v limit = .ok s) :
    s.contains f = (v.occludes && (!u.occludes || f.isExposed v.ramp u.ramp)) := by
  cases hv : v.occludes with
  | false =>
    rw [visibleFaces_of_open hv] at h
    obtain rfl := Except.ok.inj h
    cases f <;> rfl
  | true =>
    have hface := isFaceVisible_of_visibleFaces hv h f
    rw [isFaceVisible, if_neg hcut] at hface
    obtain ⟨n, hn, hface⟩ := Checked.bind_eq_ok_iff.mp hface
    obtain ⟨rfl, -⟩ := Pos.plus_eq_ok_iff.mp hn
    obtain ⟨x, hx, hface⟩ := Checked.bind_eq_ok_iff.mp hface
    obtain rfl := hu x hx
    rw [← Except.ok.inj hface, Bool.true_and]

/-- The two sides may be answered for by two queries, as long as neither is wrong about the other
voxel. -/
theorem matches_of_visibleFaces (hu : ∀ x, q.voxelAt (f.across p) = .ok x → x = some u)
    (hv : ∀ x, r.voxelAt p = .ok x → x = some v) (hs : q.visibleFaces p v limit = .ok s)
    (ht : r.visibleFaces (f.across p) u limit = .ok t) (hcut : ¬ (f = .top ∧ limit = some p.y))
    (hcut' : ¬ (f.opposite = .top ∧ limit = some (f.across p).y)) :
    f.Matches v u (s.contains f) (t.contains f.opposite) := by
  have hside (h : f.isSide = false) : f.isExposed v.ramp u.ramp = false := by
    rw [Face.isExposed, h, Bool.false_and]
  rw [← f.across_opposite p] at hv
  rw [contains_visibleFaces hu hcut hs, contains_visibleFaces hv hcut' ht,
    Face.isExposed_opposite]
  constructor
  · intro hv hu
    simp [hv, hu]
  · intro hv hu
    simp [hv, hu]
  · intro hv hu
    simp [hv, hu]
  · intro hv hu
    simp only [hv, hu, Bool.true_and, Bool.not_true, Bool.false_or, true_and]
    exact hside

/-- The two sides of a face, by one query that knows both voxels. -/
theorem visibleFaces_match (hn : p.plus f.step = .ok n) (hv : q.voxelAt p = .ok (some v))
    (hu : q.voxelAt n = .ok (some u)) (hs : q.visibleFaces p v limit = .ok s)
    (ht : q.visibleFaces n u limit = .ok t) (hcut : ¬ (f = .top ∧ limit = some p.y))
    (hcut' : ¬ (f.opposite = .top ∧ limit = some n.y)) :
    f.Matches v u (s.contains f) (t.contains f.opposite) ∧
      (v.occludes = false → s = .empty) ∧ (u.occludes = false → t = .empty) := by
  obtain ⟨rfl, -⟩ := Pos.plus_eq_ok_iff.mp hn
  refine ⟨matches_of_visibleFaces (fun x hx => Except.ok.inj (hx.symm.trans hu))
    (fun x hx => Except.ok.inj (hx.symm.trans hv)) hs ht hcut hcut', fun hopen => ?_,
    fun hopen => ?_⟩
  · rw [visibleFaces_of_open hopen] at hs
    exact (Except.ok.inj hs).symm
  · rw [visibleFaces_of_open hopen] at ht
    exact (Except.ok.inj ht).symm

end Query

/-! ### Two snapshots of one world -/

namespace Pos

variable {p origin : Pos} {d : Dims} {l : Local}

theorem inside_cell (origin : Pos) (hl : d.Holds l) : (origin.cell l).Inside origin d := by
  unfold Dims.Holds at hl
  simp only [Inside, cell]
  omega

theorem Inside.near_across (h : p.Inside origin d) (f : Face) : (f.across p).Near origin d := by
  have hunit := f.isUnit_step
  unfold Inside at h
  unfold IsUnit at hunit
  simp only [Near, Face.across]
  omega

end Pos

/-- The cell of a chunk at a position of that chunk. -/
theorem Dims.cellAt_cell {d : Dims} {a : Address} {origin : Pos} {l : Local} (hd : d.Fits)
    (ho : a.origin d = .ok origin) (hl : d.Holds l) : d.cellAt (origin.cell l) = (a, l) := by
  obtain ⟨hx, hy, hz⟩ := hl
  have axis (o : Int) {n size : Nat} (hn : n < size) :
      (o + n - o) / size = 0 ∧ (o + n - o) % size = n := by
    have hdiff : o + n - o = n := by omega
    rw [hdiff]
    exact ⟨Int.ediv_eq_zero_of_lt (by omega) (by omega), Int.emod_eq_of_lt (by omega) (by omega)⟩
  rw [cellAt_eq_shift hd ho]
  simp only [Pos.cell, axis origin.x hx, axis origin.y hy, axis origin.z hz, Int.toNat_natCast]
  rw [Address.shift_eq_self.mpr rfl]

/-- What a snapshot says of a cell of another chunk, it has right. -/
theorem Snapshot.eq_of_voxelAt_cell {w : World} {a b : Address} {s t : Snapshot}
    {origin origin' : Pos} {l : Local} {x : Option Voxel} (hd : w.dims.Fits) (hs : s.IsOf w a)
    (ht : t.IsOf w b) (ho : a.origin w.dims = .ok origin) (ho' : b.origin w.dims = .ok origin')
    (hl : w.dims.Holds l) (hnear : (origin'.cell l).Near origin w.dims)
    (hx : s.query.voxelAt (origin'.cell l) = .ok x) : x = some (t.center.voxel l) := by
  obtain ⟨c, hc, hcenter⟩ := Option.map_eq_some_iff.mp ht.center
  have hl' : t.center.dims.Holds l := by
    rw [show t.center.dims = w.dims from ht.dims]
    exact hl
  change s.voxelAt _ = _ at hx
  rw [voxelAt_of_reach hd hs ho (.inl hnear), Dims.cellAt_cell hd ho' hl, World.voxel?, hc,
    Option.bind_some, hcenter, Grid.voxel?_of_holds hl'] at hx
  obtain ⟨rel, -, hx⟩ := Checked.bind_eq_ok_iff.mp hx
  exact (Checked.pure_eq_ok_iff.mp hx).symm

namespace Mesher

/-- The solid mesh of a snapshot, built with the liquids or without, draws these faces and no
others, apart from caps. -/
structure Renders (m : Mesher) (s : Snapshot) (origin : Pos) (drawn : List (Local × Face)) :
    Prop where
  origin_eq : s.address.origin s.dims = .ok origin
  mesh : ∃ solid, m.solidMesh s.query s.address s.center = .ok solid ∧
    (solid.bodies = drawn.map fun e => m.quadAt origin s.center e.1 e.2) ∧
    ∀ r, m.build s = .ok r → r.solid = solid
  registered : ∀ e ∈ drawn, m.isRegistered (s.center.voxel e.1) = true
  in_view : ∀ e ∈ drawn, inView origin m.cutLimit e.1 = true

variable {m : Mesher} {s : Snapshot} {origin : Pos}

theorem renders_of_isOf {w : World} {a : Address} {solid : SolidMesh} (hs : s.IsOf w a)
    (hsolid : m.solidMesh s.query s.address s.center = .ok solid) :
    ∃ origin, a.origin w.dims = .ok origin ∧
      m.Renders s origin (m.drawn s.query origin s.center m.cutLimit) ∧
      ∀ l, w.dims.Holds l → inView origin m.cutLimit l = true →
        s.query.visibleFaces (origin.cell l) (s.center.voxel l) m.cutLimit =
          .ok (s.query.facesOf origin s.center m.cutLimit l) := by
  rw [← hs.address, ← hs.dims]
  obtain ⟨origin, ho, hbodies, -, hfaces⟩ := solidMesh_eq_ok hsolid
  refine ⟨origin, ho, ⟨ho, ⟨solid, hsolid, hbodies, fun r hr => ?_⟩, fun e he => ?_,
    fun e he => ?_⟩, hfaces⟩
  · obtain ⟨solid', hsolid', hr⟩ := Checked.bind_eq_ok_iff.mp hr
    obtain ⟨liquids, -, hr⟩ := Checked.bind_eq_ok_iff.mp hr
    obtain rfl := Checked.pure_eq_ok_iff.mp hr
    exact Except.ok.inj (hsolid'.symm.trans hsolid)
  · exact (mem_drawn.mp he).2.2.1
  · exact (mem_drawn.mp he).2.1

theorem contains_drawn {q : Query} {g : Grid} {limit : Option Int} {l : Local}
    (hl : g.dims.Holds l) (hview : inView origin limit l = true)
    (hreg : m.isRegistered (g.voxel l) = true) (f : Face) :
    (m.drawn q origin g limit).contains (l, f) = (q.facesOf origin g limit l).contains f := by
  have hmem : (l, f) ∈ m.drawn q origin g limit ↔
      (q.facesOf origin g limit l).contains f = true := by
    simp [mem_drawn, hl, hview, hreg]
  rw [Bool.eq_iff_iff, List.contains_iff_mem, hmem]

/-- The cell across the top of one at the limit is above it. -/
theorem not_cut_of_inView {origin' : Pos} {l l' : Local} {f : Face} {limit : Option Int}
    (hn : f.across (origin.cell l) = origin'.cell l') (hview : inView origin' limit l' = true) :
    ¬ (f = .top ∧ limit = some (origin.cell l).y) := by
  rintro ⟨rfl, rfl⟩
  have hy := congrArg Pos.y hn
  simp only [inView, Option.all_some, decide_eq_true_eq] at hview
  simp only [Pos.cell, Face.across, Face.step] at hy hview
  omega

/-- A pair of cells across a face, one of each snapshot. -/
theorem matches_of_solidMesh {w : World} {a b : Address} {t : Snapshot} {solid solid' : SolidMesh}
    (hd : w.dims.Fits) (hs : s.IsOf w a) (ht : t.IsOf w b)
    (hsolid : m.solidMesh s.query s.address s.center = .ok solid)
    (hsolid' : m.solidMesh t.query t.address t.center = .ok solid') :
    ∃ origin origin' drawn drawn', m.Renders s origin drawn ∧ m.Renders t origin' drawn' ∧
      ∀ (f : Face) (l l' : Local), w.dims.Holds l → w.dims.Holds l' →
        (origin.cell l).plus f.step = .ok (origin'.cell l') →
        m.isRegistered (s.center.voxel l) = true → m.isRegistered (t.center.voxel l') = true →
        inView origin m.cutLimit l = true → inView origin' m.cutLimit l' = true →
        f.Matches (s.center.voxel l) (t.center.voxel l') (drawn.contains (l, f))
          (drawn'.contains (l', f.opposite)) := by
  obtain ⟨origin, ho, hrs, hfaces⟩ := renders_of_isOf hs hsolid
  obtain ⟨origin', ho', hrt, hfaces'⟩ := renders_of_isOf ht hsolid'
  refine ⟨origin, origin', _, _, hrs, hrt, fun f l l' hl hl' hn hreg hreg' hview hview' => ?_⟩
  obtain ⟨hcross, -⟩ := Pos.plus_eq_ok_iff.mp hn
  have hback : f.opposite.across (origin'.cell l') = origin.cell l := by
    rw [hcross]
    exact f.across_opposite _
  -- Each snapshot reaches the cell of the other chunk, since it lies next to one of its own.
  have hnear := (Pos.inside_cell origin hl).near_across f
  have hnear' := (Pos.inside_cell origin' hl').near_across f.opposite
  rw [hback] at hnear'
  have hls : s.center.dims.Holds l := by rwa [← hs.dims] at hl
  have hlt : t.center.dims.Holds l' := by rwa [← ht.dims] at hl'
  have hthere := hfaces' l' hl' hview'
  rw [contains_drawn hls hview hreg, contains_drawn hlt hview' hreg']
  change origin'.cell l' = f.across (origin.cell l) at hcross
  have hcut := not_cut_of_inView hcross.symm hview'
  have hcut' := not_cut_of_inView hback hview
  rw [hcross] at hthere hcut'
  rw [← hcross] at hnear
  refine Query.matches_of_visibleFaces ?_ ?_ (hfaces l hl hview) hthere hcut hcut'
  · rw [← hcross]
    exact fun x hx => Snapshot.eq_of_voxelAt_cell hd hs ht ho ho' hl' hnear hx
  · exact fun x hx => Snapshot.eq_of_voxelAt_cell hd ht hs ho' ho hl hnear' hx

/-- The face between two cells is drawn alike from both sides: as an answer of a query, and in the
solid meshes of two chunks, or of one, that are made from snapshots of one world. These exist where
the block of chunks around each has coordinates. -/
theorem interfaces_match (m : Mesher) :
    (∀ (q : Query) (p n : Pos) (f : Face) (v u : Voxel) (limit : Option Int)
      (faces faces' : FaceSet), p.plus f.step = .ok n →
      q.voxelAt p = .ok (some v) → q.voxelAt n = .ok (some u) →
      q.visibleFaces p v limit = .ok faces → q.visibleFaces n u limit = .ok faces' →
      ¬ (f = .top ∧ limit = some p.y) → ¬ (f.opposite = .top ∧ limit = some n.y) →
      f.Matches v u (faces.contains f) (faces'.contains f.opposite) ∧
        (v.occludes = false → faces = .empty) ∧ (u.occludes = false → faces' = .empty)) ∧
    ∀ w : World, w.Uniform → w.dims.Fits →
      (∀ a s, Snapshot.capture w a = .ok (some s) → a.BlockFits w.dims →
        ∃ solid, m.solidMesh s.query s.address s.center = .ok solid) ∧
      ∀ a b s t solid solid', Snapshot.capture w a = .ok (some s) →
        Snapshot.capture w b = .ok (some t) →
        m.solidMesh s.query s.address s.center = .ok solid →
        m.solidMesh t.query t.address t.center = .ok solid' →
        ∃ origin origin' drawn drawn', m.Renders s origin drawn ∧ m.Renders t origin' drawn' ∧
          ∀ (f : Face) (l l' : Local), w.dims.Holds l → w.dims.Holds l' →
            (origin.cell l).plus f.step = .ok (origin'.cell l') →
            m.isRegistered (s.center.voxel l) = true →
            m.isRegistered (t.center.voxel l') = true →
            inView origin m.cutLimit l = true → inView origin' m.cutLimit l' = true →
            f.Matches (s.center.voxel l) (t.center.voxel l') (drawn.contains (l, f))
              (drawn'.contains (l', f.opposite)) := by
  refine ⟨fun q p n f v u limit faces faces' hn hv hu hfaces hfaces' hcut hcut' =>
    Query.visibleFaces_match hn hv hu hfaces hfaces' hcut hcut', fun w hw hd => ⟨?_, ?_⟩⟩
  · intro a s hs hfits
    have hof := Snapshot.isOf_capture hw hs
    rw [← hof.address, ← hof.dims] at hfits
    obtain ⟨origin, ho⟩ := hfits.exists_origin
    have hsees := (Snapshot.answers_of_blockFits hfits ho).toSees
    exact (m.exists_solidMesh ho hsees).imp fun _ h => h.1
  · intro a b s t solid solid' hs ht hsolid hsolid'
    exact matches_of_solidMesh hd (Snapshot.isOf_capture hw hs) (Snapshot.isOf_capture hw ht)
      hsolid hsolid'

/-- Where the faces of the solid mesh of a chunk look, from a snapshot taken now. -/
def facesDrawn (m : Mesher) (w : World) (a : Address) : Checked (Option (List Face)) := do
  match ← Snapshot.capture w a with
  | none => return none
  | some s =>
    let solid ← m.solidMesh s.query s.address s.center
    return some (solid.bodies.map fun quad => quad.face.direction)

theorem facesDrawn_eq_ok {w : World} {a : Address} {fs : List Face}
    (h : m.facesDrawn w a = .ok (some fs)) : ∃ s solid, Snapshot.capture w a = .ok (some s) ∧
      m.solidMesh s.query s.address s.center = .ok solid ∧
      ∀ origin drawn, m.Renders s origin drawn → drawn.map (·.2) = fs := by
  obtain ⟨s, hs, h⟩ := Checked.bind_eq_ok_iff.mp h
  cases s with
  | none => cases Checked.pure_eq_ok_iff.mp h
  | some s =>
    obtain ⟨solid, hsolid, h⟩ := Checked.bind_eq_ok_iff.mp h
    refine ⟨s, solid, hs, hsolid, fun origin drawn hdrawn => ?_⟩
    obtain ⟨solid', hsolid', hbodies, -⟩ := hdrawn.mesh
    obtain rfl := Except.ok.inj (hsolid.symm.trans hsolid')
    rw [← Option.some.inj (Checked.pure_eq_ok_iff.mp h), hbodies, List.map_map]
    rfl

end Mesher

/-- A voxel that slopes toward the next chunk. -/
def slope : Voxel := { Voxel.ofKind 1 with ramp := ⟨10⟩ }

/-- A chunk of eight cells, empty but for one voxel. -/
def single (l : Local) (v : Voxel) : Chunk := .ofGrid ((Grid.blank (.cube 2)).setVoxel l v)

/-- Two chunks in the uppermost layer of the world, with the foot of the slope and a flat voxel next
to each other, and one chunk at the origin. -/
def brinkWorld : Checked World :=
  (World.empty (.cube 2)).replay
    [(.empty, .load ⟨0, 1073741823, 0⟩ (single ⟨1, 0, 0⟩ slope)),
      (.empty, .load ⟨1, 1073741823, 0⟩ (single ⟨0, 0, 0⟩ (.ofKind 1))),
      (.empty, .load ⟨0, 0, 0⟩ (single ⟨0, 0, 0⟩ (.ofKind 1)))]

theorem blockFits_origin : Address.BlockFits ⟨0, 0, 0⟩ (.cube 2) := by
  rintro ⟨x, y, z⟩ hb
  have hnear : (-1 ≤ x ∧ x ≤ 1) ∧ (-1 ≤ y ∧ y ≤ 1) ∧ (-1 ≤ z ∧ z ≤ 1) := by
    rcases hb with hb | ⟨-, hx, hy, hz⟩
    · cases hb
      omega
    · simp only at hx hy hz
      omega
  refine ⟨?_, fun l hl => ?_⟩
  · simp only [Coord.Fits, Coord.least, Coord.greatest]
    omega
  · have hl : l.x < 2 ∧ l.y < 2 ∧ l.z < 2 := hl
    have hsize : (Dims.cube 2).x = 2 ∧ (Dims.cube 2).y = 2 ∧ (Dims.cube 2).z = 2 := by decide
    simp only [Pos.Fits, Coord.Fits, Coord.least, Coord.greatest, hsize]
    omega

/-- The layer above the uppermost one is not in the world. -/
theorem not_blockFits_brink : ¬ Address.BlockFits ⟨0, 1073741823, 0⟩ (.cube 2) := by
  intro h
  have habove := (h ⟨0, 1073741824, 0⟩ (.inr ⟨by decide, by decide, by decide, by decide⟩)).2
    ⟨0, 0, 0⟩ (by decide)
  revert habove
  decide

namespace Mesher

/-- The wall between the two voxels is drawn from both sides, since their outlines differ there. -/
theorem interfaces_match_brink : ∃ w s t, brinkWorld = .ok w ∧ w.Uniform ∧ w.dims.Fits ∧
    ¬ Address.BlockFits ⟨0, 1073741823, 0⟩ w.dims ∧ Address.BlockFits ⟨0, 0, 0⟩ w.dims ∧
    (∃ r solid, Snapshot.capture w ⟨0, 0, 0⟩ = .ok (some r) ∧
      pillarMesher.solidMesh r.query r.address r.center = .ok solid) ∧
    Snapshot.capture w ⟨0, 1073741823, 0⟩ = .ok (some s) ∧
    Snapshot.capture w ⟨1, 1073741823, 0⟩ = .ok (some t) ∧
    (∃ faces faces', w.query.visibleFaces ⟨1, 2147483646, 0⟩ slope none = .ok faces ∧
      w.query.visibleFaces ⟨2, 2147483646, 0⟩ (.ofKind 1) none = .ok faces' ∧
      Face.Matches .right slope (.ofKind 1) (faces.contains .right) (faces'.contains .left)) ∧
    ∃ origin origin' drawn drawn', pillarMesher.Renders s origin drawn ∧
      pillarMesher.Renders t origin' drawn' ∧ drawn.map (·.2) = Face.all ∧
      drawn'.map (·.2) = Face.all ∧
      Face.Matches .right slope (.ofKind 1) (drawn.contains (⟨1, 0, 0⟩, .right))
        (drawn'.contains (⟨0, 0, 0⟩, .left)) := by
  have hrun : (do
      let w ← brinkWorld
      let faces ← pillarMesher.facesDrawn w ⟨0, 1073741823, 0⟩
      let faces' ← pillarMesher.facesDrawn w ⟨1, 1073741823, 0⟩
      return (faces, faces', (w.chunk? ⟨0, 1073741823, 0⟩).map Chunk.grid,
        (w.chunk? ⟨1, 1073741823, 0⟩).map Chunk.grid)) =
      Except.ok (some Face.all, some Face.all, some (single ⟨1, 0, 0⟩ slope).grid,
        some (single ⟨0, 0, 0⟩ (.ofKind 1)).grid) := by
    decide +kernel
  have hmiddle : (do pillarMesher.facesDrawn (← brinkWorld) ⟨0, 0, 0⟩) =
      Except.ok (some Face.all) := by
    decide +kernel
  have hlook : (do
      let w ← brinkWorld
      let v ← w.voxelAt ⟨1, 2147483646, 0⟩
      let u ← w.voxelAt ⟨2, 2147483646, 0⟩
      let visible ← w.query.visibleFaces ⟨1, 2147483646, 0⟩ slope none
      let visible' ← w.query.visibleFaces ⟨2, 2147483646, 0⟩ (.ofKind 1) none
      return (v, u, visible, visible')) =
      Except.ok (some slope, some (.ofKind 1), .ofList Face.all, .ofList Face.all) := by
    decide +kernel
  obtain ⟨w, hw, hrun⟩ := Checked.bind_eq_ok_iff.mp hrun
  obtain ⟨faces, hfaces, hrun⟩ := Checked.bind_eq_ok_iff.mp hrun
  obtain ⟨faces', hfaces', hrun⟩ := Checked.bind_eq_ok_iff.mp hrun
  rw [hw, Checked.ok_bind] at hmiddle hlook
  obtain ⟨v, hv, hlook⟩ := Checked.bind_eq_ok_iff.mp hlook
  obtain ⟨u, hu, hlook⟩ := Checked.bind_eq_ok_iff.mp hlook
  obtain ⟨visible, hvisible, hlook⟩ := Checked.bind_eq_ok_iff.mp hlook
  obtain ⟨visible', hvisible', hlook⟩ := Checked.bind_eq_ok_iff.mp hlook
  simp only [Checked.pure_eq_ok_iff, Prod.mk.injEq] at hrun hlook
  obtain ⟨rfl, rfl, hgrid, hgrid'⟩ := hrun
  obtain ⟨rfl, rfl, rfl, rfl⟩ := hlook
  obtain ⟨s, solid, hs, hsolid, hright⟩ := facesDrawn_eq_ok hfaces
  obtain ⟨t, solid', ht, hsolid', hleft⟩ := facesDrawn_eq_ok hfaces'
  obtain ⟨r, -, hr, -⟩ := facesDrawn_eq_ok hmiddle
  have hadv := World.advances_of_replay (World.wellKept_empty _) hw
  have huniform := (hadv.wellKept (World.wellKept_empty _)).uniform
  have hdims : w.dims = .cube 2 := hadv.dims
  have hd : w.dims.Fits := by
    rw [hdims]
    decide
  obtain ⟨hone, hworld⟩ := interfaces_match pillarMesher
  obtain ⟨hexists, htwo⟩ := hworld w huniform hd
  obtain ⟨centre, hcentre⟩ := hexists _ r hr (by rw [hdims]; exact blockFits_origin)
  obtain ⟨hpair, -⟩ := hone w.query ⟨1, 2147483646, 0⟩ ⟨2, 2147483646, 0⟩ .right _ _ none _ _ rfl hv
    hu hvisible hvisible' (by decide) (by decide)
  obtain ⟨origin, origin', drawn, drawn', hrs, hrt, hmatch⟩ :=
    htwo _ _ s t solid solid' hs ht hsolid hsolid'
  have hsof := Snapshot.isOf_capture huniform hs
  have htof := Snapshot.isOf_capture huniform ht
  have hcenter := Option.some.inj (hsof.center.symm.trans hgrid)
  have hcenter' := Option.some.inj (htof.center.symm.trans hgrid')
  have ho : origin = ⟨0, 2147483646, 0⟩ := by
    have h := hrs.origin_eq
    rw [hsof.address, hsof.dims, hdims] at h
    exact (Except.ok.inj h).symm
  have ho' : origin' = ⟨2, 2147483646, 0⟩ := by
    have h := hrt.origin_eq
    rw [htof.address, htof.dims, hdims] at h
    exact (Except.ok.inj h).symm
  subst ho ho'
  have hseam := hmatch .right ⟨1, 0, 0⟩ ⟨0, 0, 0⟩ (by rw [hdims]; decide) (by rw [hdims]; decide)
    rfl (by rw [hcenter]; decide) (by rw [hcenter']; decide) rfl rfl
  rw [hcenter, hcenter'] at hseam
  exact ⟨w, s, t, hw, huniform, hd, by rw [hdims]; exact not_blockFits_brink,
    by rw [hdims]; exact blockFits_origin, ⟨r, centre, hr, hcentre⟩, hs, ht,
    ⟨_, _, hvisible, hvisible', hpair⟩, _, _, drawn, drawn', hrs, hrt, hright _ _ hrs,
    hleft _ _ hrt, hseam⟩

end Mesher

/-- Two chunks of one cell: the foot of the slope, and a flat voxel of an unregistered kind next to
it. -/
def slopeWorld : Checked World :=
  (World.empty (.cube 1)).replay
    [(.empty, .load ⟨0, 0, 0⟩ (.ofGrid (.filled (.cube 1) slope))),
      (.empty, .load ⟨1, 0, 0⟩ (.ofGrid (.filled (.cube 1) (.ofKind 9))))]

namespace Mesher

/-- The wall between the two is visible from both sides, and the meshes have it on one side only. -/
theorem unregistered_side_is_missing : ∃ w, slopeWorld = .ok w ∧
    w.query.visibleFaces ⟨0, 0, 0⟩ slope none = .ok (.ofList [.right]) ∧
    w.query.visibleFaces ⟨1, 0, 0⟩ (.ofKind 9) none = .ok (.ofList [.left]) ∧
    pillarMesher.facesDrawn w ⟨0, 0, 0⟩ = .ok (some [.right]) ∧
    pillarMesher.facesDrawn w ⟨1, 0, 0⟩ = .ok (some []) := by
  have hrun : (do
      let w ← slopeWorld
      let visible ← w.query.visibleFaces ⟨0, 0, 0⟩ slope none
      let visible' ← w.query.visibleFaces ⟨1, 0, 0⟩ (.ofKind 9) none
      let faces ← pillarMesher.facesDrawn w ⟨0, 0, 0⟩
      let faces' ← pillarMesher.facesDrawn w ⟨1, 0, 0⟩
      return (visible, visible', faces, faces')) =
      Except.ok (.ofList [.right], .ofList [.left], some [.right], some []) := by
    decide +kernel
  obtain ⟨w, hw, hrun⟩ := Checked.bind_eq_ok_iff.mp hrun
  obtain ⟨visible, hvisible, hrun⟩ := Checked.bind_eq_ok_iff.mp hrun
  obtain ⟨visible', hvisible', hrun⟩ := Checked.bind_eq_ok_iff.mp hrun
  obtain ⟨faces, hfaces, hrun⟩ := Checked.bind_eq_ok_iff.mp hrun
  obtain ⟨faces', hfaces', hrun⟩ := Checked.bind_eq_ok_iff.mp hrun
  simp only [Checked.pure_eq_ok_iff, Prod.mk.injEq] at hrun
  obtain ⟨rfl, rfl, rfl, rfl⟩ := hrun
  exact ⟨w, hw, hvisible, hvisible', hfaces, hfaces'⟩

end Mesher

end VoxelScene
