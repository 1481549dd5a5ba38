import VoxelScene.Proofs.Version

/-!
The world as a map of positions.

Seen from outside, a world is a partial map from positions to cells, and chunks are only the boxes
in which cells come and go. Boxes are given here by their corners. That the world finds the cell of
a position by division, and keeps it at a place computed from the remainders, shows nowhere.
-/

namespace VoxelScene

/-! ### Boxes -/

namespace Dims

/-- The box of the chunk at `a` has the position. -/
def Covers (d : Dims) (a : Address) (p : Pos) : Prop :=
  p.Inside ⟨a.x * d.x, a.y * d.y, a.z * d.z⟩ d

/-- The position counted from the least corner of the chunk at `a`. -/
def placeIn (d : Dims) (a : Address) (p : Pos) : Local :=
  ⟨(p.x - a.x * d.x).toNat, (p.y - a.y * d.y).toNat, (p.z - a.z * d.z).toNat⟩

instance (d : Dims) (a : Address) (p : Pos) : Decidable (d.Covers a p) :=
  inferInstanceAs (Decidable (_ ∧ _ ∧ _))

variable {d : Dims} {a : Address} {p : Pos}

/-- Along one axis, the box that has `n` is the one of its quotient, and its place there is the
remainder. -/
theorem quotient_iff_inside {n k : Int} {size : Nat} (hs : 0 < size) :
    (k * size ≤ n ∧ n < k * size + size ↔ n / size = k) ∧
      (n / size = k → (n - k * size).toNat = (n % size).toNat) := by
  have hpos : (0 : Int) < size := Int.natCast_pos.mpr hs
  have hnonneg := Int.emod_nonneg n (Int.ne_of_gt hpos)
  have hlt := Int.emod_lt_of_pos n hpos
  have hsum := Int.mul_ediv_add_emod n size
  have hcomm := Int.mul_comm (size : Int) (n / size)
  refine ⟨⟨fun h => ?_, ?_⟩, ?_⟩
  · obtain ⟨hlo, hhi⟩ := h
    have hnext : (k + 1) * size = k * size + size := by rw [Int.add_mul, Int.one_mul]
    have hge : k ≤ n / size := Int.le_ediv_of_mul_le hpos hlo
    have hle : n / size < k + 1 := Int.ediv_lt_of_lt_mul hpos (by omega)
    omega
  · intro hk
    subst hk
    omega
  · intro hk
    subst hk
    omega

theorem covers_iff : d.Covers a p ↔ (d.cellAt p).1 = a := by
  obtain ⟨ax, ay, az⟩ := a
  simp only [Covers, Pos.Inside, cellAt, Address.mk.injEq, (quotient_iff_inside d.x_pos).1,
    (quotient_iff_inside d.y_pos).1, (quotient_iff_inside d.z_pos).1]

theorem placeIn_cellAt : d.placeIn (d.cellAt p).1 p = (d.cellAt p).2 := by
  simp only [placeIn, cellAt, (quotient_iff_inside d.x_pos).2 rfl,
    (quotient_iff_inside d.y_pos).2 rfl, (quotient_iff_inside d.z_pos).2 rfl]

theorem placeIn_of_covers (h : d.Covers a p) : d.placeIn a p = (d.cellAt p).2 := by
  rw [← covers_iff.mp h, placeIn_cellAt]

/-- No two positions share a cell. -/
theorem cellAt_injective {q : Pos} (h : d.cellAt p = d.cellAt q) : p = q := by
  have axis {m n : Int} {size : Nat} (hs : 0 < size) (hdiv : m / size = n / size)
      (hmod : (m % size).toNat = (n % size).toNat) : m = n := by
    have hne : (size : Int) ≠ 0 := by omega
    have hm := Int.emod_nonneg m hne
    have hn := Int.emod_nonneg n hne
    have hsum := Int.mul_ediv_add_emod m size
    have hsum' := Int.mul_ediv_add_emod n size
    rw [hdiv] at hsum
    omega
  obtain ⟨px, py, pz⟩ := p
  obtain ⟨qx, qy, qz⟩ := q
  simp only [cellAt, Prod.mk.injEq, Address.mk.injEq, Local.mk.injEq] at h
  obtain ⟨⟨hx, hy, hz⟩, hx', hy', hz'⟩ := h
  rw [axis d.x_pos hx hx', axis d.y_pos hy hy', axis d.z_pos hz hz']

end Dims

/-! ### Cells -/

/-- All that the world holds at one position. -/
structure Cell where
  voxel : Voxel
  liquid : LiquidCell

/-- The cell with its ramp mask taken off. -/
def Cell.leveled (c : Cell) : Cell := { c with voxel := { c.voxel with ramp := .none } }

namespace Grid

def cell (g : Grid) (l : Local) : Cell := ⟨g.voxel l, g.liquid l⟩

variable {g : Grid} {l l' : Local}

theorem cell_setVoxel (v : Voxel) (hl : g.dims.Holds l) :
    (g.setVoxel l v).cell l' = if l' = l then { g.cell l' with voxel := v } else g.cell l' := by
  have hliquid : (g.setVoxel l v).liquid l' = g.liquid l' := by
    rw [liquid, liquid?_setVoxel, ← liquid]
  split
  · rename_i h
    subst h
    simp only [cell, hliquid, voxel, voxel?_setVoxel_self v hl, Option.getD_some]
  · rename_i h
    simp only [cell, hliquid, voxel, voxel?_setVoxel_ne v h]

theorem cell_setLiquid (x : LiquidCell) (hl : g.dims.Holds l) :
    (g.setLiquid l x).cell l' = if l' = l then { g.cell l' with liquid := x } else g.cell l' := by
  have hvoxel : (g.setLiquid l x).voxel l' = g.voxel l' := by
    rw [voxel, voxel?_setLiquid, ← voxel]
  split
  · rename_i h
    subst h
    simp only [cell, hvoxel, liquid, liquid?_setLiquid_self x hl, Option.getD_some]
  · rename_i h
    simp only [cell, hvoxel, liquid, liquid?_setLiquid_ne x h]

end Grid

theorem Chunk.leveled_applyRamps (c : Chunk) (masks : Array RampMask) {l : Local}
    (hl : c.grid.dims.Holds l) :
    ((c.applyRamps masks).2.grid.cell l).leveled = (c.grid.cell l).leveled := by
  have hvoxel : (c.applyRamps masks).2.grid.voxel l =
      { c.grid.voxel l with ramp := masks[c.grid.dims.index l]?.getD (c.grid.voxel l).ramp } := by
    rw [Grid.voxel, voxel?_applyRamps, Grid.voxel?_of_holds hl]
    rfl
  have hliquid : (c.applyRamps masks).2.grid.liquid l = c.grid.liquid l := by
    rw [Grid.liquid, liquid?_applyRamps, ← Grid.liquid]
  simp only [Grid.cell, Cell.leveled, hvoxel, hliquid]

/-! ### Maps of positions -/

/-- A partial map from positions to cells. -/
abbrev CellMap := Pos → Option Cell

namespace CellMap

def void : CellMap := fun _ => none

/-- Overwrites the box of a chunk with the cells of a grid. -/
def fill (m : CellMap) (d : Dims) (a : Address) (g : Grid) : CellMap := fun p =>
  if d.Covers a p then some (g.cell (d.placeIn a p)) else m p

def clear (m : CellMap) (d : Dims) (a : Address) : CellMap := fun p =>
  if d.Covers a p then none else m p

/-- Changes the cell of one position, if there is one. -/
def write (m : CellMap) (q : Pos) (f : Cell → Cell) : CellMap := fun p =>
  if p = q then (m p).map f else m p

/-- The two maps differ in ramp masks only. -/
def SameButRamps (m m' : CellMap) : Prop := ∀ p, (m' p).map Cell.leveled = (m p).map Cell.leveled

/-- `m'` is what an operation may make of `m`. Ramp passes are free in the masks that they give. -/
def Follows (d : Dims) (m m' : CellMap) : World.Edit → Prop
  | .load a c => m' = if c.grid.dims = d then m.fill d a c.grid else m
  | .unload a => m' = m.clear d a
  | .setVoxel p v => m' = m.write p fun c => { c with voxel := v }
  | .setLiquid p x => m' = m.write p fun c => { c with liquid := x }
  | .resolveRamps a => m.SameButRamps m' ∧ ∀ p, ¬ d.Covers a p → m' p = m p
  | .resolveDirtyRamps => m.SameButRamps m'

/-- `m'` is what a list of operations may make of `m`. -/
def Reaches (d : Dims) (m m' : CellMap) : List World.Edit → Prop
  | [] => m' = m
  | e :: es => ∃ next, Follows d m next e ∧ Reaches d next m' es

theorem write_of_eq_none {m : CellMap} {q : Pos} (h : m q = none) (f : Cell → Cell) :
    m.write q f = m := by
  funext p
  unfold write
  split
  · rename_i hp
    rw [hp, h, Option.map_none]
  · rfl

theorem clear_of_eq_none {m : CellMap} {d : Dims} {a : Address}
    (h : ∀ p, d.Covers a p → m p = none) : m.clear d a = m := by
  funext p
  unfold clear
  split
  · rename_i hp
    exact (h p hp).symm
  · rfl

end CellMap

/-! ### The map that a world shows -/

namespace World

/-- The cells of all loaded chunks, by position. -/
def cells (w : World) : CellMap := fun p =>
  (w.chunk? (w.dims.cellAt p).1).map fun c => c.grid.cell (w.dims.cellAt p).2

/-- A loaded chunk's box has the position. -/
def Occupied (w : World) (p : Pos) : Prop := ∃ a, w.dims.Covers a p ∧ w.isLoaded a = true

variable {w w' : World} {p : Pos}

theorem cells_empty (d : Dims) : (empty d).cells = .void := by
  funext p
  simp [cells, empty, chunk?, CellMap.void]

theorem occupied_iff : w.Occupied p ↔ w.isLoaded (w.dims.cellAt p).1 = true := by
  simp only [Occupied, Dims.covers_iff]
  constructor
  · rintro ⟨a, rfl, hloaded⟩
    exact hloaded
  · intro hloaded
    exact ⟨_, rfl, hloaded⟩

theorem isSome_cells : (w.cells p).isSome = true ↔ w.Occupied p := by
  rw [occupied_iff, cells, Option.isSome_map, isLoaded]

theorem reads_of_fits (hd : w.dims.Fits) (hp : p.Fits) :
    w.voxelAt p = .ok ((w.cells p).map Cell.voxel) ∧
      w.liquidAt p = .ok ((w.cells p).map Cell.liquid) := by
  simp only [voxelAt, liquidAt, locate_of_fits hd hp, Checked.ok_bind, cells, Option.map_map]
  exact ⟨rfl, rfl⟩

/-- The place of a position is that of the division, whether or not the position itself fits. -/
theorem eq_of_locate (hd : w.dims.Fits) {x : Address × Local} (h : w.locate p = .ok x) :
    x = w.dims.cellAt p := by
  have quot {n q : Int} {size : Nat} (h : Coord.quot n size = .ok q) : q = n / size := by
    unfold Coord.quot at h
    split at h
    · cases h
    · exact (Coord.guarded_eq_ok_iff.mp h).2
  rw [locate, Dims.extent_of_fits hd] at h
  obtain ⟨⟨q, r⟩, hqr, h⟩ := Checked.bind_eq_ok_iff.mp h
  obtain rfl := Checked.pure_eq_ok_iff.mp h
  obtain ⟨x, hx, hqr⟩ := Checked.bind_eq_ok_iff.mp hqr
  obtain ⟨y, hy, hqr⟩ := Checked.bind_eq_ok_iff.mp hqr
  obtain ⟨z, hz, hqr⟩ := Checked.bind_eq_ok_iff.mp hqr
  obtain ⟨rfl, rfl⟩ := Prod.mk.inj (Checked.pure_eq_ok_iff.mp hqr)
  rw [quot hx, quot hy, quot hz]
  rfl

theorem Changes.cells_eq {b : Address} {own : Option Chunk} {touched invalidated : List Address}
    (h : Changes w w' b own touched invalidated) (p : Pos) : w'.cells p =
      if w.dims.Covers b p then own.map fun c => c.grid.cell (w.dims.cellAt p).2
      else w.cells p := by
  rw [cells, h.dims, h.chunk, Option.map_map]
  simp only [Function.comp_def, Chunk.grid_asked, Dims.covers_iff, eq_comm (b := b), cells]
  split <;> rfl

/-- A change of one cell of a chunk is a write to one position. -/
theorem Changes.cells_write {b : Address} {l : Local} {c c' : Chunk}
    {touched invalidated : List Address} {f : Cell → Cell} (hat : (b, l) = w.dims.cellAt p)
    (hc : w.chunk? b = some c) (h : Changes w w' b (some c') touched invalidated)
    (hcell : ∀ l', c'.grid.cell l' = if l' = l then f (c.grid.cell l') else c.grid.cell l') :
    w'.cells = w.cells.write p f := by
  funext q
  rw [h.cells_eq, CellMap.write]
  by_cases hq : w.dims.Covers b q
  · have hb := Dims.covers_iff.mp hq
    have hcells : w.cells q = some (c.grid.cell (w.dims.cellAt q).2) := by
      rw [cells, hb, hc, Option.map_some]
    rw [if_pos hq, hcells, Option.map_some, Option.map_some, hcell]
    by_cases hl : (w.dims.cellAt q).2 = l
    · have hpq : q = p := Dims.cellAt_injective (d := w.dims) (by rw [← hat, ← hb, ← hl])
      rw [if_pos hl, if_pos hpq]
    · have hpq : q ≠ p := by
        intro he
        rw [he, ← hat] at hl
        exact hl rfl
      rw [if_neg hl, if_neg hpq]
  · have hpq : q ≠ p := by
      intro he
      rw [Dims.covers_iff, he, ← hat] at hq
      exact hq rfl
    rw [if_neg hq, if_neg hpq]

/-! ### What an operation does to the map -/

variable {types : VoxelCatalogue}

theorem cells_load {a : Address} {c : Chunk} (h : w.load a c = .ok (some w')) :
    w'.cells = w.cells.fill w.dims a c.grid := by
  obtain ⟨ns, -, -, -, hchanges⟩ := load_eq_some h
  funext p
  rw [hchanges.cells_eq, CellMap.fill]
  by_cases hp : w.dims.Covers a p
  · rw [if_pos hp, if_pos hp, Dims.placeIn_of_covers hp]
    rfl
  · rw [if_neg hp, if_neg hp]

theorem cells_unload {a : Address} {c : Chunk} (h : w.unload a = .ok (some (c, w'))) :
    w'.cells = w.cells.clear w.dims a := by
  obtain ⟨ns, -, -, -, hchanges⟩ := unload_eq_some h
  funext p
  rw [hchanges.cells_eq, CellMap.clear, Option.map_none]

theorem holds_of_locate (hd : w.dims.Fits) (hw : w.Uniform) {b : Address} {l : Local} {c : Chunk}
    (hlocate : w.locate p = .ok (b, l)) (hc : w.chunk? b = some c) : c.grid.dims.Holds l := by
  have hat := eq_of_locate hd hlocate
  have hholds := w.dims.holds_cellAt p
  rw [← hat] at hholds
  rw [hw b c hc]
  exact hholds

theorem cells_setVoxel (hd : w.dims.Fits) (hw : w.Uniform) {v : Voxel}
    (h : w.setVoxel p v = .ok (some w')) :
    w'.cells = w.cells.write p fun c => { c with voxel := v } := by
  obtain ⟨b, l, c, rest, hlocate, hc, -, -, hchanges⟩ := setVoxel_eq_some h
  have hl := holds_of_locate hd hw hlocate hc
  refine hchanges.cells_write (eq_of_locate hd hlocate) hc fun l' => ?_
  rw [Chunk.grid_setVoxel, Grid.cell_setVoxel v hl]

theorem cells_setLiquid (hd : w.dims.Fits) (hw : w.Uniform) {x : LiquidCell}
    (h : w.setLiquid p x = .ok (some w')) :
    w'.cells = w.cells.write p fun c => { c with liquid := x } := by
  obtain ⟨b, l, c, rest, hlocate, hc, -, -, hchanges⟩ := setLiquid_eq_some h
  have hl := holds_of_locate hd hw hlocate hc
  refine hchanges.cells_write (eq_of_locate hd hlocate) hc fun l' => ?_
  rw [Chunk.grid_setLiquid, Grid.cell_setLiquid x hl]

theorem cells_of_locate (hd : w.dims.Fits) {b : Address} {l : Local}
    (hlocate : w.locate p = .ok (b, l)) (hb : w.chunk? b = none) : w.cells p = none := by
  rw [cells, ← eq_of_locate hd hlocate, hb, Option.map_none]

theorem cells_resolveRamps (hw : w.Uniform) {a : Address} {report : RampReport}
    (h : w.resolveRamps types a = .ok (some (report, w'))) :
    w.cells.SameButRamps w'.cells ∧ ∀ p, ¬ w.dims.Covers a p → w'.cells p = w.cells p := by
  obtain ⟨origin, c, masks, others, hc, -, -, -, -, hchanges⟩ := resolveRamps_eq_some h
  constructor
  · intro p
    rw [hchanges.cells_eq]
    by_cases hp : w.dims.Covers a p
    · have ha := Dims.covers_iff.mp hp
      have hl : c.grid.dims.Holds (w.dims.cellAt p).2 := by
        rw [hw a c hc]
        exact w.dims.holds_cellAt p
      rw [if_pos hp, cells, ha, hc, Option.map_some, Option.map_some, Option.map_some,
        Option.map_some, c.leveled_applyRamps _ hl]
    · rw [if_neg hp]
  · intro p hp
    rw [hchanges.cells_eq, if_neg hp]

theorem follows_resolveRamps (hw : w.Uniform) {a : Address}
    (h : w.perform types (.resolveRamps a) = .ok w') :
    CellMap.Follows w.dims w.cells w'.cells (.resolveRamps a) := by
  obtain ⟨-, rfl⟩ | ⟨⟨report, v⟩, hr, rfl⟩ := after_eq_ok h
  · exact ⟨fun _ => rfl, fun _ _ => rfl⟩
  · exact cells_resolveRamps hw hr

theorem follows_of_perform {e : Edit} (hd : w.dims.Fits) (hw : w.WellKept)
    (h : w.perform types e = .ok w') : CellMap.Follows w.dims w.cells w'.cells e := by
  cases e with
  | load a c =>
    obtain ⟨hr, rfl⟩ | ⟨v, hr, rfl⟩ := after_eq_ok h
    · exact (if_neg (load_eq_none hr)).symm
    · obtain ⟨ns, hdims, -⟩ := load_eq_some hr
      exact (cells_load hr).trans (if_pos hdims).symm
  | unload a =>
    obtain ⟨hr, rfl⟩ | ⟨⟨c, v⟩, hr, rfl⟩ := after_eq_ok h
    · have hnone := unload_eq_none hr
      refine (CellMap.clear_of_eq_none fun p hp => ?_).symm
      rw [cells, Dims.covers_iff.mp hp, hnone, Option.map_none]
    · exact cells_unload hr
  | setVoxel p v =>
    obtain ⟨hr, rfl⟩ | ⟨v, hr, rfl⟩ := after_eq_ok h
    · obtain ⟨b, l, hlocate, hb⟩ := setVoxel_eq_none hr
      exact (CellMap.write_of_eq_none (cells_of_locate hd hlocate hb) _).symm
    · exact cells_setVoxel hd hw.uniform hr
  | setLiquid p x =>
    obtain ⟨hr, rfl⟩ | ⟨v, hr, rfl⟩ := after_eq_ok h
    · obtain ⟨b, l, hlocate, hb⟩ := setLiquid_eq_none hr
      exact (CellMap.write_of_eq_none (cells_of_locate hd hlocate hb) _).symm
    · exact cells_setLiquid hd hw.uniform hr
  | resolveRamps a => exact follows_resolveRamps hw.uniform h
  | resolveDirtyRamps =>
    obtain ⟨r, hr, h⟩ := Checked.bind_eq_ok_iff.mp h
    obtain ⟨v, hv, hr⟩ := Checked.bind_eq_ok_iff.mp hr
    obtain rfl := Checked.pure_eq_ok_iff.mp hr
    obtain rfl := Checked.pure_eq_ok_iff.mp h
    -- One pass after another, each over a chunk that was marked at the start.
    have hpasses : w.Advances v ∧ w.cells.SameButRamps v.cells := by
      refine Checked.foldlM_invariant (P := fun u => w.Advances u ∧ w.cells.SameButRamps u.cells)
        (fun u a t hu ht => ?_) ⟨.refl w, fun _ => rfl⟩ hv
      obtain ⟨hadv, hsame⟩ := hu
      have hkept := hadv.wellKept hw
      have hpass : u.perform types (.resolveRamps a) = .ok t := ht
      have hstep := (follows_resolveRamps hkept.uniform hpass).1
      exact ⟨hadv.trans (advances_of_perform hkept hpass), fun p => (hstep p).trans (hsame p)⟩
    exact hpasses.2

theorem reaches_of_replay {es : List (VoxelCatalogue × Edit)} (hd : w.dims.Fits) (hw : w.WellKept)
    (h : w.replay es = .ok w') : CellMap.Reaches w.dims w.cells w'.cells (es.map (·.2)) := by
  induction es generalizing w with
  | nil =>
    obtain rfl := Checked.pure_eq_ok_iff.mp h
    rfl
  | cons e es ih =>
    rw [replay, List.foldlM_cons] at h
    obtain ⟨u, hu, h⟩ := Checked.bind_eq_ok_iff.mp h
    have hadv := advances_of_perform hw hu
    have hrest := ih (hadv.dims ▸ hd) (hadv.wellKept hw) h
    rw [hadv.dims] at hrest
    exact ⟨u.cells, follows_of_perform hd hw hu, hrest⟩

/-! ### What an operation answers -/

/-- Whether an operation applied. -/
def answer (types : VoxelCatalogue) (w : World) : Edit → Checked Bool
  | .load a c => do return (← w.load a c).isSome
  | .unload a => do return (← w.unload a).isSome
  | .setVoxel p v => do return (← w.setVoxel p v).isSome
  | .setLiquid p x => do return (← w.setLiquid p x).isSome
  | .resolveRamps a => do return (← w.resolveRamps types a).isSome
  | .resolveDirtyRamps => do
    let _ ← w.resolveDirtyRamps types
    return true

/-- The operation has something to act on: a chunk of the right size, or a loaded chunk. -/
def Applies (w : World) : Edit → Prop
  | .load _ c => c.grid.dims = w.dims
  | .unload a | .resolveRamps a => w.isLoaded a = true
  | .setVoxel p _ | .setLiquid p _ => w.Occupied p
  | .resolveDirtyRamps => True

theorem isSome_eq_ok {α : Type} {r : Checked (Option α)} {applied : Bool} {P : Prop}
    (h : (do return (← r).isSome) = Except.ok applied) (hnone : r = .ok none → ¬ P)
    (hsome : ∀ x, r = .ok (some x) → P) : applied = true ↔ P := by
  obtain ⟨x?, hr, h⟩ := Checked.bind_eq_ok_iff.mp h
  obtain rfl := Checked.pure_eq_ok_iff.mp h
  cases x? with
  | none => simp [hnone hr]
  | some x => simp [hsome x hr]

theorem occupied_of_locate (hd : w.dims.Fits) {b : Address} {l : Local}
    (hlocate : w.locate p = .ok (b, l)) : w.Occupied p ↔ (w.chunk? b).isSome = true := by
  rw [occupied_iff, ← eq_of_locate hd hlocate, isLoaded]

theorem answer_iff {e : Edit} {applied : Bool} (hd : w.dims.Fits)
    (h : w.answer types e = .ok applied) : applied = true ↔ w.Applies e := by
  cases e with
  | load a c =>
    refine isSome_eq_ok h load_eq_none fun v hr => ?_
    obtain ⟨ns, hdims, -⟩ := load_eq_some hr
    exact hdims
  | unload a =>
    refine isSome_eq_ok h (fun hr => ?_) fun v hr => ?_
    · simp [Applies, isLoaded, unload_eq_none hr]
    · obtain ⟨ns, hc, -⟩ := unload_eq_some hr
      simp [Applies, isLoaded, hc]
  | setVoxel p v =>
    refine isSome_eq_ok h (fun hr => ?_) fun v hr => ?_
    · obtain ⟨b, l, hlocate, hb⟩ := setVoxel_eq_none hr
      simp [Applies, occupied_of_locate hd hlocate, hb]
    · obtain ⟨b, l, c, rest, hlocate, hc, -⟩ := setVoxel_eq_some hr
      simp [Applies, occupied_of_locate hd hlocate, hc]
  | setLiquid p x =>
    refine isSome_eq_ok h (fun hr => ?_) fun v hr => ?_
    · obtain ⟨b, l, hlocate, hb⟩ := setLiquid_eq_none hr
      simp [Applies, occupied_of_locate hd hlocate, hb]
    · obtain ⟨b, l, c, rest, hlocate, hc, -⟩ := setLiquid_eq_some hr
      simp [Applies, occupied_of_locate hd hlocate, hc]
  | resolveRamps a =>
    refine isSome_eq_ok h (fun hr => ?_) fun v hr => ?_
    · simp [Applies, isLoaded, chunk?_of_resolveRamps hr]
    · obtain ⟨origin, c, masks, others, hc, -⟩ := resolveRamps_eq_some hr
      simp [Applies, isLoaded, hc]
  | resolveDirtyRamps =>
    obtain ⟨r, -, h⟩ := Checked.bind_eq_ok_iff.mp h
    obtain rfl := Checked.pure_eq_ok_iff.mp h
    simp [Applies]

theorem after_of_refused {α : Type} {r : Checked (Option α)} {f : α → World}
    (h : (do return (← r).isSome) = Except.ok false) : w.after r f = .ok w := by
  obtain ⟨x?, hr, h⟩ := Checked.bind_eq_ok_iff.mp h
  have hnone : x? = none := by simpa using Checked.pure_eq_ok_iff.mp h
  rw [after, hr, hnone]
  rfl

theorem perform_of_refused {e : Edit} (h : w.answer types e = .ok false) :
    w.perform types e = .ok w := by
  cases e with
  | resolveDirtyRamps =>
    obtain ⟨r, -, h⟩ := Checked.bind_eq_ok_iff.mp h
    cases Checked.pure_eq_ok_iff.mp h
  | _ => exact after_of_refused h

end World

/-! ### Writes give an answer -/

/-- No coordinate is the least or the greatest one. -/
def Pos.IsInner (p : Pos) : Prop :=
  (Coord.least < p.x ∧ p.x < Coord.greatest) ∧ (Coord.least < p.y ∧ p.y < Coord.greatest) ∧
    (Coord.least < p.z ∧ p.z < Coord.greatest)

instance (p : Pos) : Decidable p.IsInner := inferInstanceAs (Decidable (_ ∧ _ ∧ _))

theorem Pos.IsInner.fits {p : Pos} (hp : p.IsInner) : p.Fits := by
  simp only [IsInner, Fits, Coord.Fits] at *
  omega

/-- A quotient of an inner coordinate leaves room for a step to either side. -/
theorem Coord.fits_quotient_step {n s : Int} {size : Nat} (hs : 0 < size)
    (hn : least < n ∧ n < greatest) (hstep : -1 ≤ s ∧ s ≤ 1) : Fits (n / size + s) := by
  have hpos : (0 : Int) < size := Int.natCast_pos.mpr hs
  unfold Fits least greatest at *
  by_cases hsign : 0 ≤ n
  · have hlow := Int.ediv_nonneg hsign (Int.le_of_lt hpos)
    have hhigh := Int.ediv_le_self size hsign
    omega
  · have hhigh := Int.ediv_neg_of_neg_of_pos (by omega : n < 0) hpos
    have hmul : n * size ≤ n * 1 := Int.mul_le_mul_of_nonpos_left (by omega) (by omega)
    have hlow : n ≤ n / size := Int.le_ediv_of_mul_le hpos (by omega)
    omega

namespace Dims

variable {d : Dims} {p : Pos}

theorem exists_offset_cellAt (hp : p.IsInner) {s : Pos} (hs : s.IsUnit) :
    ∃ a, (d.cellAt p).1.offset s.x s.y s.z = .ok a := by
  obtain ⟨hx, hy, hz⟩ := hp
  obtain ⟨hsx, hsy, hsz⟩ := hs
  exact ⟨_, Address.offset_eq_ok_iff.mpr ⟨rfl, Coord.fits_quotient_step d.x_pos hx hsx,
    Coord.fits_quotient_step d.y_pos hy hsy, Coord.fits_quotient_step d.z_pos hz hsz⟩⟩

theorem exists_touchedSteps {coord size : Nat} (hsize : Coord.Fits size) (h : coord < size) :
    ∃ steps, Address.touchedSteps coord size = .ok steps := by
  have hlt : coord + 1 < Word.storageBound := by
    have hle := hsize.2
    unfold Coord.greatest at hle
    unfold Word.storageBound
    omega
  rw [Address.touchedSteps, Word.add_eq_ok_iff.mpr ⟨hlt, rfl⟩]
  exact ⟨_, rfl⟩

theorem exists_readers_cellAt (hd : d.Fits) (hp : p.IsInner) :
    ∃ rs, (d.cellAt p).1.readers (d.cellAt p).2 d = .ok rs := by
  obtain ⟨hlx, hly, hlz⟩ := d.holds_cellAt p
  obtain ⟨xs, hxs⟩ := exists_touchedSteps hd.1 hlx
  obtain ⟨ys, hys⟩ := exists_touchedSteps hd.2.1 hly
  obtain ⟨zs, hzs⟩ := exists_touchedSteps hd.2.2 hlz
  have unit {coord size : Nat} {steps : List Int} {s : Int}
      (h : Address.touchedSteps coord size = .ok steps) (hs : s ∈ steps) : -1 ≤ s ∧ s ≤ 1 := by
    have hbeside := (Address.mem_touchedSteps h).mp hs
    unfold Beside at hbeside
    omega
  rw [Address.readers, hxs, hys, hzs]
  refine Checked.exists_mapM fun s hs => exists_offset_cellAt hp ?_
  simp only [List.mem_flatMap, List.mem_map] at hs
  obtain ⟨y, hy, z, hz, x, hx, rfl⟩ := hs
  exact ⟨unit hxs hx, unit hys hy, unit hzs hz⟩

end Dims

namespace World

variable {w : World} {p : Pos}

theorem exists_setVoxel (hd : w.dims.Fits) (hp : p.IsInner) (v : Voxel) :
    ∃ r, w.setVoxel p v = .ok r := by
  obtain ⟨rs, hrs⟩ := Dims.exists_readers_cellAt hd hp
  simp only [setVoxel, locate_of_fits hd hp.fits, Checked.ok_bind]
  split
  · exact ⟨_, rfl⟩
  · rw [hrs]
    exact ⟨_, rfl⟩

theorem exists_setLiquid (hd : w.dims.Fits) (hp : p.IsInner) (x : LiquidCell) :
    ∃ r, w.setLiquid p x = .ok r := by
  obtain ⟨rs, hrs⟩ := Dims.exists_readers_cellAt hd hp
  obtain ⟨above, habove⟩ :=
    Dims.exists_offset_cellAt (d := w.dims) hp (s := .up) (by simp [Pos.IsUnit, Pos.up])
  simp only [setLiquid, locate_of_fits hd hp.fits, Checked.ok_bind]
  split
  · exact ⟨_, rfl⟩
  · have habove : (w.dims.cellAt p).1.offset 0 1 0 = .ok above := habove
    rw [hrs, Checked.ok_bind, habove]
    exact ⟨_, rfl⟩

/-! ### Every history -/

/-- After every history, the world answers about each position as a partial map from positions to
cells does, one that starts empty and that each operation changes in its own way: a load overwrites
a box, an unload clears it, a write changes one of the two parts of one cell, and a ramp pass
changes masks. An operation applies exactly if there is something to act on, otherwise the world
stays as it is in all its parts. Sizes have to be representable as coordinates; a write away from
the ends of the coordinate range always gives an answer. -/
theorem cells_follow_operations {d : Dims} (hd : d.Fits) {es : List (VoxelCatalogue × Edit)}
    {w : World} (h : (empty d).replay es = .ok w) :
    CellMap.Reaches d .void w.cells (es.map (·.2)) ∧
    (∀ p, p.Fits → w.voxelAt p = .ok ((w.cells p).map Cell.voxel) ∧
      w.liquidAt p = .ok ((w.cells p).map Cell.liquid)) ∧
    (∀ p, (w.cells p).isSome = true ↔ ∃ a, d.Covers a p ∧ w.isLoaded a = true) ∧
    (∀ types e w', w.perform types e = .ok w' → CellMap.Follows d w.cells w'.cells e) ∧
    (∀ types e applied, w.answer types e = .ok applied → (applied = true ↔ w.Applies e)) ∧
    (∀ types e, w.answer types e = .ok false → w.perform types e = .ok w) ∧
    ∀ p, p.IsInner → ∀ v x, (∃ r, w.setVoxel p v = .ok r) ∧ ∃ r, w.setLiquid p x = .ok r := by
  have hempty := wellKept_empty d
  have hadv := advances_of_replay hempty h
  have hw := hadv.wellKept hempty
  have hdims : w.dims = d := hadv.dims
  have hfits : w.dims.Fits := hdims ▸ hd
  refine ⟨?_, fun p hp => reads_of_fits hfits hp, fun p => ?_, fun types e w' he => ?_,
    fun types e applied he => answer_iff hfits he, fun types e he => perform_of_refused he,
    fun p hp v x => ⟨exists_setVoxel hfits hp v, exists_setLiquid hfits hp x⟩⟩
  · have hrun := reaches_of_replay (w := empty d) hd hempty h
    rw [cells_empty] at hrun
    exact hrun
  · rw [← hdims]
    exact isSome_cells
  · rw [← hdims]
    exact follows_of_perform hfits hw he

/-- A chunk west of the origin, a hole and a puddle in it, a ramp pass, and a write beyond it that
is refused. -/
theorem cells_follow_operations_west :
    ∃ w, (empty (.cube 2)).replay
        [(.empty, .load ⟨-1, 0, 0⟩ (.ofGrid (.filled (.cube 2) (.ofKind 1)))),
          (.empty, .setVoxel ⟨-1, 1, 0⟩ .empty), (.empty, .setLiquid ⟨-1, 1, 0⟩ (.still 1 7)),
          (.empty, .resolveDirtyRamps)] = .ok w ∧
      CellMap.Reaches (.cube 2) .void w.cells
        [.load ⟨-1, 0, 0⟩ (.ofGrid (.filled (.cube 2) (.ofKind 1))), .setVoxel ⟨-1, 1, 0⟩ .empty,
          .setLiquid ⟨-1, 1, 0⟩ (.still 1 7), .resolveDirtyRamps] ∧
      w.voxelAt ⟨-1, 1, 0⟩ = .ok ((w.cells ⟨-1, 1, 0⟩).map Cell.voxel) ∧
      w.answer .empty (.setVoxel ⟨0, 1, 0⟩ .empty) = .ok false ∧
      w.perform .empty (.setVoxel ⟨0, 1, 0⟩ .empty) = .ok w := by
  have hrun : Checked.passes ((empty (.cube 2)).replay
      [(.empty, .load ⟨-1, 0, 0⟩ (.ofGrid (.filled (.cube 2) (.ofKind 1)))),
        (.empty, .setVoxel ⟨-1, 1, 0⟩ .empty), (.empty, .setLiquid ⟨-1, 1, 0⟩ (.still 1 7)),
        (.empty, .resolveDirtyRamps)])
      (fun w => Checked.passes (w.answer .empty (.setVoxel ⟨0, 1, 0⟩ .empty)) (!·)) = true := by
    decide +kernel
  obtain ⟨w, hw, hrun⟩ := Checked.exists_of_passes hrun
  obtain ⟨applied, hanswer, happlied⟩ := Checked.exists_of_passes hrun
  obtain rfl : applied = false := by simpa using happlied
  obtain ⟨hreach, hreads, -, -, -, hrefused, -⟩ := cells_follow_operations (by decide) hw
  exact ⟨w, hw, hreach, (hreads _ (by decide)).1, hanswer, hrefused _ _ hanswer⟩

end World

end VoxelScene
