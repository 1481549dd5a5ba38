import VoxelScene.Proofs.MeshTotal

/-!
Depths of liquid columns.

The depth of a cell is a matter of what lies under it. List the cells from that cell downward, those
of its chunk first and then those below the floor that are still scanned: the depth is the sum of
the levels of the unbroken run of the liquid at the head of that list. Nothing is computed in this
way. Below the floor one scan goes down each column, and from there a running sum comes up through
the chunk. Here the two are shown to agree.
-/

namespace VoxelScene

/-! ### Runs at the head of a list -/

/-- Sum of the levels of the unbroken run of a liquid at the head of a list of cells. -/
def runDepth (liquid : UInt8) (cells : List (Option LiquidCell)) : Nat :=
  total ((cells.takeWhile fun c => c.any (·.isWetWith liquid)).map fun c =>
    (c.map (·.level.toNat)).getD 0)

variable {liquid : UInt8} {c : LiquidCell} {cells : List (Option LiquidCell)}

theorem runDepth_of_wet (h : c.isWetWith liquid = true) :
    runDepth liquid (some c :: cells) = c.level.toNat + runDepth liquid cells := by
  simp [runDepth, h]

theorem runDepth_of_dry (h : c.isWetWith liquid = false) :
    runDepth liquid (some c :: cells) = 0 := by
  simp [runDepth, h]

theorem runDepth_le (liquid : UInt8) (cells : List (Option LiquidCell)) :
    runDepth liquid cells ≤ 255 * cells.length := by
  induction cells with
  | nil => exact Nat.zero_le _
  | cons c cells ih =>
    rw [List.length_cons, Nat.mul_succ]
    cases c with
    | none => exact Nat.zero_le _
    | some c =>
      cases hwet : c.isWetWith liquid with
      | false => simp [runDepth_of_dry hwet]
      | true =>
        have hlevel : c.level.toNat < 256 := c.level.toNat_lt
        rw [runDepth_of_wet hwet]
        omega

theorem columnRun_cons_eq_ok {level : UInt8} {levels : List UInt8} {running : Nat}
    {depths : List Nat} (h : columnRun running (level :: levels) = .ok depths) :
    ∃ here rest, here = (if level = 0 then 0 else running + level.toNat) ∧
      columnRun here levels = .ok rest ∧ depths = here :: rest := by
  rw [columnRun] at h
  split at h
  · rw [pure_bind] at h
    obtain ⟨rest, hrest, h⟩ := Checked.bind_eq_ok_iff.mp h
    exact ⟨0, rest, by simp [*], hrest, (Checked.pure_eq_ok_iff.mp h).symm⟩
  · obtain ⟨here, hhere, h⟩ := Checked.bind_eq_ok_iff.mp h
    obtain ⟨rest, hrest, h⟩ := Checked.bind_eq_ok_iff.mp h
    obtain ⟨-, rfl⟩ := Word.addDepth_eq_ok_iff.mp hhere
    exact ⟨_, rest, by simp [*], hrest, (Checked.pure_eq_ok_iff.mp h).symm⟩

/-- The running sum over a column whose first cell lies on top of `below`. At each cell it is the
depth of the run from that cell down, and the run goes on into `below` if nothing breaks it. -/
theorem columnRun_eq_ok {column : List LiquidCell} {below : List (Option LiquidCell)}
    {depths : List Nat}
    (h : columnRun (runDepth liquid below)
      (column.map fun c => if c.isWetWith liquid then c.level else 0) = .ok depths)
    {y : Nat} (hy : y < column.length) :
    depths[y]? = some (runDepth liquid ((column.take (y + 1)).reverse.map some ++ below)) := by
  -- The cells that the sum has passed are the head of `below` for the rest of the column.
  induction column generalizing below depths y with
  | nil => simp at hy
  | cons c column ih =>
    rw [List.map_cons] at h
    obtain ⟨here, rest, hhere, hrest, rfl⟩ := columnRun_cons_eq_ok h
    have hdepth : here = runDepth liquid (some c :: below) := by
      cases hwet : c.isWetWith liquid with
      | false => simp [hhere, hwet, runDepth_of_dry hwet]
      | true =>
        have hlevel : c.level ≠ 0 := by
          simp only [LiquidCell.isWetWith, Bool.and_eq_true, bne_iff_ne] at hwet
          exact hwet.2
        rw [runDepth_of_wet hwet, hhere, if_pos hwet, if_neg hlevel, Nat.add_comm]
    subst hdepth
    cases y with
    | zero => simp
    | succ y =>
      have hnext := ih hrest (y := y) (by simpa using hy)
      simpa using hnext

/-! ### Scans below the floor -/

namespace Query

variable {q : Query} {p : Pos} {scan depth : Nat}

/-- The cell that is answered for a position, if one is. -/
def found (q : Query) (p : Pos) : Option LiquidCell :=
  match q.liquidAt p with
  | .ok c => c
  | .error _ => none

/-- The cells from a position downward. -/
def downward (q : Query) (p : Pos) (n : Nat) : List (Option LiquidCell) :=
  (List.range n).map fun (k : Nat) => q.found ⟨p.x, p.y - k, p.z⟩

theorem found_eq {c : Option LiquidCell} (h : q.liquidAt p = .ok c) : q.found p = c := by
  rw [found, h]

theorem downward_succ (q : Query) (p : Pos) (n : Nat) :
    q.downward p (n + 1) = q.found p :: q.downward ⟨p.x, p.y - 1, p.z⟩ n := by
  have hstep (k : Nat) : p.y - ((k + 1 : Nat) : Int) = p.y - 1 - k := by omega
  simp only [downward, List.range_succ_eq_map, List.map_cons, List.map_map, Function.comp_def,
    hstep]
  simp

theorem depthBelow_eq_ok {sum : Nat} (h : q.depthBelow liquid scan p depth = .ok sum) :
    sum = depth + runDepth liquid (q.downward p scan) := by
  induction scan generalizing p depth with
  | zero =>
    obtain rfl := Checked.pure_eq_ok_iff.mp h
    rfl
  | succ scan ih =>
    rw [depthBelow] at h
    obtain ⟨c, hc, h⟩ := Checked.bind_eq_ok_iff.mp h
    rw [downward_succ, found_eq hc]
    cases c with
    | none =>
      obtain rfl := Checked.pure_eq_ok_iff.mp h
      rfl
    | some c =>
      cases hwet : c.isWetWith liquid with
      | false =>
        simp only [hwet, Bool.false_eq_true, if_false] at h
        obtain rfl := Checked.pure_eq_ok_iff.mp h
        simp [runDepth_of_dry hwet]
      | true =>
        simp only [hwet, if_true] at h
        obtain ⟨next, hnext, h⟩ := Checked.bind_eq_ok_iff.mp h
        obtain ⟨n, hn, h⟩ := Checked.bind_eq_ok_iff.mp h
        obtain ⟨-, rfl⟩ := Word.addDepth_eq_ok_iff.mp hnext
        obtain ⟨rfl, -⟩ := Pos.minus_eq_ok_iff.mp hn
        have hrest := ih h
        simp only [Pos.up, Int.sub_zero] at hrest
        rw [hrest, runDepth_of_wet hwet, Nat.add_assoc]

/-- The coordinates of a scan are in range, and each of its cells has an answer. The scan computes
the position after its last cell too, unless something stops it before. -/
structure Scans (q : Query) (liquid : UInt8) (p : Pos) (scan : Nat) : Prop where
  start : p.Fits
  cell : ∀ k < scan, Pos.Fits ⟨p.x, p.y - k, p.z⟩ ∧ ∃ c, q.liquidAt ⟨p.x, p.y - k, p.z⟩ = .ok c
  room : Coord.least ≤ p.y - scan ∨ ¬ q.FullDown liquid scan p

theorem Scans.next (h : q.Scans liquid p (scan + 1))
    (hcell : ∃ c, q.liquidAt p = .ok (some c) ∧ c.isWetWith liquid = true) :
    q.Scans liquid ⟨p.x, p.y - 1, p.z⟩ scan := by
  have hstep (k : Nat) : p.y - 1 - (k : Int) = p.y - ((k + 1 : Nat) : Int) := by omega
  have hroom : Coord.least ≤ p.y - 1 - scan ∨ ¬ q.FullDown liquid scan ⟨p.x, p.y - 1, p.z⟩ :=
    h.room.imp (fun hle => by omega) fun hfull hrest => hfull (fullDown_succ.mpr ⟨hcell, hrest⟩)
  have hlow : Coord.least ≤ p.y - 1 := by
    cases scan with
    | zero =>
      rcases hroom with hle | hfull
      · omega
      · exact absurd (fun k hk => absurd hk (Nat.not_lt_zero k)) hfull
    | succ scan =>
      have hfits := (h.cell 1 (by omega)).1.2.1.1
      simpa using hfits
  refine ⟨⟨h.start.1, ⟨hlow, ?_⟩, h.start.2.2⟩, fun k hk => ?_, hroom⟩
  · have hhigh := h.start.2.1.2
    simp only
    omega
  · simp only [hstep]
    exact h.cell (k + 1) (by omega)

theorem Scans.exists_depth (h : q.Scans liquid p scan)
    (hsum : depth + 255 * scan < Word.depthBound) :
    ∃ sum, q.depthBelow liquid scan p depth = .ok sum := by
  induction scan generalizing p depth with
  | zero => exact ⟨depth, rfl⟩
  | succ scan ih =>
    obtain ⟨c, hc⟩ : ∃ c, q.liquidAt p = .ok c := by simpa using (h.cell 0 (by omega)).2
    cases c with
    | none =>
      rw [depthBelow, hc]
      exact ⟨depth, rfl⟩
    | some c =>
      cases hwet : c.isWetWith liquid with
      | false =>
        rw [depthBelow, hc, Checked.ok_bind]
        simp only [hwet, Bool.false_eq_true, if_false]
        exact ⟨depth, rfl⟩
      | true =>
        have hnext := h.next ⟨c, hc, hwet⟩
        rw [depthBelow_of_wet hc hwet hsum, Pos.minus_up h.start hnext.start.2.1.1, Checked.ok_bind]
        exact ih hnext (add_level_lt c.level hsum)

end Query

/-! ### Columns of a chunk -/

/-- The cells of a chunk from a cell downward to the floor. -/
def Grid.columnDown (g : Grid) (l : Local) : List (Option LiquidCell) :=
  (List.range (l.y + 1)).reverse.map fun y => some (g.liquid ⟨l.x, y, l.z⟩)

namespace Query

/-- Depth of a liquid at a cell of the chunk at `origin`: the levels of the unbroken run of the
liquid from the cell downward, through the chunk and `scan` cells further at most. -/
def columnDepth (q : Query) (origin : Pos) (g : Grid) (liquid : UInt8) (scan : Nat) (l : Local) :
    Nat :=
  runDepth liquid
    (g.columnDown l ++ q.downward ⟨origin.x + l.x, origin.y - 1, origin.z + l.z⟩ scan)

theorem columnDepth_of_dry {q : Query} {origin : Pos} {g : Grid} {scan : Nat} {l : Local}
    (h : (g.liquid l).isWetWith liquid = false) : q.columnDepth origin g liquid scan l = 0 := by
  rw [columnDepth, Grid.columnDown, List.range_succ, List.reverse_append]
  exact runDepth_of_dry h

/-- The scans of all columns below the box at `origin` stay in range and have answers. -/
def Fathoms (q : Query) (origin : Pos) (d : Dims) (liquid : UInt8) (scan : Nat) : Prop :=
  ∀ x < d.x, ∀ z < d.z, q.Scans liquid ⟨origin.x + x, origin.y - 1, origin.z + z⟩ scan

variable {q : Query} {a : Address} {origin : Pos} {g : Grid} {scan maxScan : Nat} {l : Local}

theorem columnDepth_le (q : Query) (origin : Pos) (hl : g.dims.Holds l) (hscan : scan ≤ g.dims.y) :
    q.columnDepth origin g liquid scan l ≤ 510 * g.dims.y := by
  have hle := runDepth_le liquid
    (g.columnDown l ++ q.downward ⟨origin.x + l.x, origin.y - 1, origin.z + l.z⟩ scan)
  have hy := hl.2.1
  simp only [Grid.columnDown, downward, List.length_append, List.length_map, List.length_reverse,
    List.length_range] at hle
  unfold columnDepth
  simp only [Grid.columnDown, downward]
  omega

theorem length_columnRun {levels : List UInt8} {running : Nat} {depths : List Nat}
    (h : columnRun running levels = .ok depths) : depths.length = levels.length := by
  induction levels generalizing running depths with
  | nil =>
    obtain rfl := Checked.pure_eq_ok_iff.mp h
    rfl
  | cons level levels ih =>
    obtain ⟨here, rest, -, hrest, rfl⟩ := columnRun_cons_eq_ok h
    rw [List.length_cons, List.length_cons, ih hrest]

theorem columnOf_eq_ok {base : Local} {column : List Nat}
    (h : columnOf q origin g liquid scan base = .ok column) :
    column = (List.range g.dims.y).map fun y =>
      q.columnDepth origin g liquid scan ⟨base.x, y, base.z⟩ := by
  unfold columnOf at h
  obtain ⟨below, hbelow, h⟩ := Checked.bind_eq_ok_iff.mp h
  obtain ⟨seed, hseed, hdepths⟩ := Checked.bind_eq_ok_iff.mp h
  obtain ⟨rfl, -⟩ := Pos.plus_eq_ok_iff.mp hbelow
  have hseed := depthBelow_eq_ok hseed
  rw [Nat.zero_add] at hseed
  subst hseed
  have hlevels : ((List.range g.dims.y).map fun y =>
      let c := g.liquid { base with y := y }
      if c.isWetWith liquid then c.level else 0) =
      ((List.range g.dims.y).map fun y => g.liquid { base with y := y }).map fun c =>
        if c.isWetWith liquid then c.level else 0 := by
    rw [List.map_map]
    rfl
  have hlen := length_columnRun hdepths
  rw [List.length_map, List.length_range] at hlen
  rw [hlevels] at hdepths
  refine List.ext_getElem? fun y => ?_
  by_cases hy : y < g.dims.y
  · have hat := columnRun_eq_ok hdepths (y := y) (by simpa using hy)
    rw [← List.map_take, List.take_range, Nat.min_eq_left (by omega)] at hat
    rw [hat, List.getElem?_map, List.getElem?_range hy, Option.map_some, columnDepth,
      Grid.columnDown, ← List.map_reverse, List.map_map]
    rfl
  · rw [List.getElem?_eq_none (by omega), List.getElem?_eq_none (by simpa using hy)]

end Query

/-! ### Places in storage -/

theorem size_writeUpward (d : Dims) (base : Local) (depths : Array Nat) (column : List Nat) :
    (writeUpward d base depths column).size = depths.size := by
  induction column generalizing base depths with
  | nil => rfl
  | cons depth column ih => rw [writeUpward, ih, Array.size_setIfInBounds]

/-- The cells from `base` upward get the depths of the column, and no other cell is touched. -/
theorem getElem?_writeUpward {d : Dims} {base l : Local} {depths : Array Nat} {column : List Nat}
    (hsize : depths.size = d.volume) (hx : base.x < d.x) (hz : base.z < d.z)
    (htop : base.y + column.length ≤ d.y) (hl : d.Holds l) :
    (writeUpward d base depths column)[d.index l]? =
      if l.x = base.x ∧ l.z = base.z ∧ base.y ≤ l.y ∧ l.y < base.y + column.length then
        column[l.y - base.y]?
      else depths[d.index l]? := by
  induction column generalizing base depths with
  | nil =>
    rw [writeUpward, if_neg]
    rintro ⟨-, -, hle, hlt⟩
    simp only [List.length_nil, Nat.add_zero] at hlt
    omega
  | cons depth column ih =>
    rw [List.length_cons] at htop
    have hbase : d.Holds base := ⟨hx, by omega, hz⟩
    have hnext := @ih { base with y := base.y + 1 } (depths.setIfInBounds (d.index base) depth)
      (by rw [Array.size_setIfInBounds, hsize]) hx hz (by simp only; omega)
    rw [writeUpward, hnext]
    by_cases heq : l = base
    · subst heq
      rw [if_neg (by simp only; omega), if_pos ⟨rfl, rfl, Nat.le_refl _, by simp⟩, Nat.sub_self,
        Array.getElem?_setIfInBounds_self_of_lt (hsize ▸ Dims.index_lt_volume hl)]
      rfl
    · have hplace : d.index base ≠ d.index l := fun h =>
        heq (Dims.index_injective hl hbase h.symm)
      have hother : ¬ (l.x = base.x ∧ l.z = base.z ∧ l.y = base.y) := fun ⟨hxx, hzz, hyy⟩ =>
        heq (Local.ext hxx hyy hzz)
      rw [Array.getElem?_setIfInBounds_ne hplace]
      simp only [List.length_cons]
      split
      · rename_i hin
        rw [if_pos (by omega), show l.y - base.y = l.y - (base.y + 1) + 1 by omega,
          List.getElem?_cons_succ]
      · rename_i hout
        rw [if_neg (by omega)]

namespace Query

variable {q : Query} {a : Address} {origin : Pos} {g : Grid} {scan maxScan : Nat} {l : Local}

/-- The columns that stand on the listed cells have been written. -/
structure Written (q : Query) (origin : Pos) (g : Grid) (liquid : UInt8) (scan : Nat)
    (bases : List Local) (depths : Array Nat) : Prop where
  size : depths.size = g.dims.volume
  depth : ∀ l, g.dims.Holds l → ⟨l.x, 0, l.z⟩ ∈ bases →
    depths[g.dims.index l]? = some (q.columnDepth origin g liquid scan l)

theorem Written.column {bases : List Local} {depths : Array Nat} {base : Local} {column : List Nat}
    (h : q.Written origin g liquid scan bases depths) (hbase : base ∈ g.dims.layer 0)
    (hcolumn : columnOf q origin g liquid scan base = .ok column) :
    q.Written origin g liquid scan (base :: bases) (writeUpward g.dims base depths column) := by
  obtain ⟨hx, hz, hfloor⟩ := Dims.mem_layer.mp hbase
  obtain rfl := columnOf_eq_ok hcolumn
  refine ⟨by rw [size_writeUpward, h.size], fun l hl hmem => ?_⟩
  have hlen : base.y + ((List.range g.dims.y).map fun y =>
      q.columnDepth origin g liquid scan ⟨base.x, y, base.z⟩).length = g.dims.y := by
    rw [List.length_map, List.length_range, hfloor, Nat.zero_add]
  have hy := hl.2.1
  rw [getElem?_writeUpward h.size hx hz (Nat.le_of_eq hlen) hl, hlen]
  split
  · rename_i hin
    rw [hfloor, Nat.sub_zero, List.getElem?_map, List.getElem?_range hy, Option.map_some, ← hin.1,
      ← hin.2.1]
  · rename_i hout
    refine h.depth l hl ((List.mem_cons.mp hmem).resolve_left fun heq => hout ?_)
    rw [← heq]
    exact ⟨rfl, rfl, Nat.zero_le _, hy⟩

/-- Whatever depths are returned, they are those of the columns. -/
theorem columnDepths_eq_ok {depths : Array Nat} (hsize : g.dims.y < Word.depthBound)
    (ho : a.origin g.dims = .ok origin) (h : columnDepths q a g liquid maxScan = .ok depths) :
    q.Written origin g liquid (min maxScan g.dims.y) (g.dims.layer 0) depths := by
  rw [Mesher.columnDepths_eq_foldlM ho hsize] at h
  -- Columns are written one after the other, each over what is there.
  have hrun (bases done : List Local) (hbases : ∀ base ∈ bases, base ∈ g.dims.layer 0)
      (before : Array Nat)
      (hbefore : q.Written origin g liquid (min maxScan g.dims.y) done before)
      (h : bases.foldlM (fun depths base => do
        return writeUpward g.dims base depths
          (← columnOf q origin g liquid (min maxScan g.dims.y) base)) before = .ok depths) :
      q.Written origin g liquid (min maxScan g.dims.y) (bases.reverse ++ done) depths := by
    induction bases generalizing done before with
    | nil =>
      obtain rfl := Checked.pure_eq_ok_iff.mp h
      exact hbefore
    | cons base bases ih =>
      rw [List.foldlM_cons] at h
      obtain ⟨next, hnext, h⟩ := Checked.bind_eq_ok_iff.mp h
      obtain ⟨column, hcolumn, hnext⟩ := Checked.bind_eq_ok_iff.mp hnext
      obtain rfl := Checked.pure_eq_ok_iff.mp hnext
      have hwritten := hbefore.column (hbases base (List.mem_cons_self ..)) hcolumn
      have hall := ih _ (fun b hb => hbases b (List.mem_cons_of_mem _ hb)) _ hwritten h
      rwa [List.reverse_cons, List.append_assoc]
  have hstart : q.Written origin g liquid (min maxScan g.dims.y) []
      (.replicate g.dims.volume 0) :=
    ⟨Array.size_replicate, fun l hl hmem => by cases hmem⟩
  have hall := hrun _ [] (fun base hbase => hbase) _ hstart h
  exact ⟨hall.size, fun l hl hmem => hall.depth l hl (by simpa using hmem)⟩

theorem depth_of_columnDepths {depths : Array Nat} (hsize : g.dims.y < Word.depthBound)
    (ho : a.origin g.dims = .ok origin) (h : columnDepths q a g liquid maxScan = .ok depths)
    (hl : g.dims.Holds l) : depths[g.dims.index l]? =
      some (q.columnDepth origin g liquid (min maxScan g.dims.y) l) :=
  (columnDepths_eq_ok hsize ho h).depth l hl (Dims.mem_layer.mpr ⟨hl.1, hl.2.2, rfl⟩)

theorem Fathoms.exists_columnOf {base : Local}
    (h : q.Fathoms origin g.dims liquid scan) (hsum : 255 * scan + 255 * g.dims.y < Word.depthBound)
    (hx : base.x < g.dims.x) (hz : base.z < g.dims.z) :
    ∃ column, columnOf q origin g liquid scan base = .ok column := by
  have hscan := h base.x hx base.z hz
  have hroom : 0 + 255 * scan < Word.depthBound := by omega
  obtain ⟨seed, hseed⟩ := hscan.exists_depth hroom
  have hlow : seed ≤ 255 * scan := by
    have hle := runDepth_le liquid
      (q.downward ⟨origin.x + base.x, origin.y - 1, origin.z + base.z⟩ scan)
    rw [depthBelow_eq_ok hseed]
    simpa [downward] using hle
  have hrun : ∃ depths, columnRun seed ((List.range g.dims.y).map fun y =>
      let c := g.liquid { base with y := y }
      if c.isWetWith liquid then c.level else 0) = .ok depths := by
    apply exists_columnRun
    rw [List.length_map, List.length_range]
    omega
  obtain ⟨depths, hdepths⟩ := hrun
  have hbelow : origin.plus ⟨base.x, -1, base.z⟩ =
      .ok ⟨origin.x + base.x, origin.y - 1, origin.z + base.z⟩ :=
    Pos.plus_eq_ok_iff.mpr ⟨rfl, hscan.start⟩
  rw [columnOf, hbelow, Checked.ok_bind, hseed]
  exact ⟨depths, hdepths⟩

theorem Fathoms.exists_columnDepths (h : q.Fathoms origin g.dims liquid (min maxScan g.dims.y))
    (hsize : 510 * g.dims.y < 4294967296) (ho : a.origin g.dims = .ok origin) :
    ∃ depths, columnDepths q a g liquid maxScan = .ok depths := by
  have hword : g.dims.y < Word.depthBound := by
    unfold Word.depthBound
    omega
  have hsum : 255 * min maxScan g.dims.y + 255 * g.dims.y < Word.depthBound := by
    unfold Word.depthBound
    omega
  refine Mesher.exists_columnDepths ho hword fun base hbase => ?_
  obtain ⟨hx, hz, -⟩ := Dims.mem_layer.mp hbase
  exact h.exists_columnOf hsum hx hz

/-- Every cell of a chunk gets its depth, at its place in storage. No sum leaves its word: where
`510 * g.dims.y` is a depth, so is the depth of every run. -/
theorem column_depths_exact (q : Query) {a : Address} {g : Grid} {origin : Pos} (liquid : UInt8)
    (maxScan : Nat) (hsize : 510 * g.dims.y < 4294967296) (ho : a.origin g.dims = .ok origin)
    (hrange : q.Fathoms origin g.dims liquid (min maxScan g.dims.y)) :
    ∃ depths, columnDepths q a g liquid maxScan = .ok depths ∧
      depths.toList.length = g.dims.volume ∧
      ∀ l, g.dims.Holds l →
        depths.toList[g.dims.index l]? =
          some (q.columnDepth origin g liquid (min maxScan g.dims.y) l) ∧
        ((g.liquid l).isWetWith liquid = false →
          q.columnDepth origin g liquid (min maxScan g.dims.y) l = 0) ∧
        q.columnDepth origin g liquid (min maxScan g.dims.y) l ≤ 510 * g.dims.y ∧
        ∀ k < min maxScan g.dims.y,
          Pos.Under ⟨origin.x + l.x, origin.y - 1 - k, origin.z + l.z⟩ origin g.dims := by
  have hword : g.dims.y < Word.depthBound := by
    unfold Word.depthBound
    omega
  obtain ⟨depths, hdepths⟩ := hrange.exists_columnDepths hsize ho
  refine ⟨depths, hdepths, (columnDepths_eq_ok hword ho hdepths).size,
    fun l hl => ⟨?_, columnDepth_of_dry, ?_, fun k hk => ?_⟩⟩
  · rw [Array.getElem?_toList]
    exact depth_of_columnDepths hword ho hdepths hl
  · exact columnDepth_le q origin hl (Nat.min_le_right ..)
  · unfold Dims.Holds at hl
    simp only [Pos.Under]
    omega

end Query

/-- Two chunks of three cells, one above the other. In the upper one lava parts the water; the lower
one is full of water of three levels. -/
def spring : Snapshot :=
  let g := Grid.blank (.ofSizes 1 3 1)
  let center := ((g.setLiquid ⟨0, 0, 0⟩ (.still 1 10)).setLiquid ⟨0, 1, 0⟩ (.still 2 7)).setLiquid
    ⟨0, 2, 0⟩ (.still 1 4)
  let below := ((g.setLiquid ⟨0, 0, 0⟩ (.still 1 9)).setLiquid ⟨0, 1, 0⟩ (.still 1 50)).setLiquid
    ⟨0, 2, 0⟩ (.still 1 80)
  (Snapshot.ofCenter ⟨0, 1, 0⟩ center).withNeighbor 0 (-1) 0 below

/-- A scan of two cells leaves out the lowest one, and no run goes through the lava. -/
theorem Query.column_depths_exact_spring :
    510 * spring.center.dims.y < 4294967296 ∧
    spring.address.origin spring.center.dims = .ok ⟨0, 3, 0⟩ ∧
    spring.query.Fathoms ⟨0, 3, 0⟩ spring.center.dims 1 (min 2 spring.center.dims.y) ∧
    ∃ depths, columnDepths spring.query spring.address spring.center 1 2 = .ok depths ∧
      depths.toList[0]? = some 140 ∧ depths.toList[1]? = some 0 ∧ depths.toList[2]? = some 4 := by
  have hsize : 510 * spring.center.dims.y < 4294967296 := by decide
  have ho : spring.address.origin spring.center.dims = .ok ⟨0, 3, 0⟩ := by decide +kernel
  have hrange : spring.query.Fathoms ⟨0, 3, 0⟩ spring.center.dims 1
      (min 2 spring.center.dims.y) := by
    intro x hx z hz
    obtain rfl : x = 0 := Nat.lt_one_iff.mp hx
    obtain rfl : z = 0 := Nat.lt_one_iff.mp hz
    refine ⟨by decide, fun k hk => ?_, .inl (by decide)⟩
    have hk : k = 0 ∨ k = 1 := by
      change k < 2 at hk
      omega
    rcases hk with rfl | rfl
    · exact ⟨by decide, some (.still 1 80), by decide +kernel⟩
    · exact ⟨by decide, some (.still 1 50), by decide +kernel⟩
  obtain ⟨depths, hdepths, -, hall⟩ :=
    spring.query.column_depths_exact (a := spring.address) 1 2 hsize ho hrange
  have hcell (y depth : Nat) (hy : spring.center.dims.Holds ⟨0, y, 0⟩)
      (hplace : spring.center.dims.index ⟨0, y, 0⟩ = y)
      (hdepth : spring.query.columnDepth ⟨0, 3, 0⟩ spring.center 1
        (min 2 spring.center.dims.y) ⟨0, y, 0⟩ = depth) : depths.toList[y]? = some depth := by
    have hat := (hall ⟨0, y, 0⟩ hy).1
    rw [hplace, hdepth] at hat
    exact hat
  exact ⟨hsize, ho, hrange, depths, hdepths,
    hcell 0 140 (by decide) (by decide) (by decide +kernel),
    hcell 1 0 (by decide) (by decide) (by decide +kernel),
    hcell 2 4 (by decide) (by decide) (by decide +kernel)⟩

end VoxelScene
