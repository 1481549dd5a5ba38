import Mathlib.Data.List.Perm.Basic
import Mathlib.Logic.Relation
import VoxelScene.Proofs.StoreSteps
import VoxelScene.Proofs.Version

/-!
Builds on their way.

Between the request for a build and the arrival of its result the world changes, chunks come and
go, and other results are published. `Moment.Next` lists the events that lead a world, its store and
the builds on their way from one moment to the next. What ties them together is said in parts, so
that each is shown under what it needs: no generation is used twice (`Ordered`), what is built and
shown is of the version that its label says (`Labelled`, for sizes that are coordinates), and each
load has at most one build on its way (`Flagged`, as long as only loads that are over are forgotten).
-/

namespace VoxelScene

/-- A build on its way: the labels it will be published under, and what it gives. -/
structure Build where
  address : Address
  version : Nat
  generation : Nat
  outcome : Checked MeshSet

namespace Build

/-- At most one build with the same label is on its way at a time. -/
def label (b : Build) : Address × Nat := (b.address, b.generation)

/-- The build is of the load that the world holds, which is `c`. -/
def IsOf (b : Build) (w : World) (c : Chunk) : Prop :=
  w.chunk? b.address = some c ∧ c.generation = b.generation

end Build

def BuildTask.pending (m : Mesher) (t : BuildTask) : Build :=
  ⟨t.address, t.version, t.generation, m.build t.snapshot⟩

def BuildResult.done (r : BuildResult) : Build := ⟨r.address, r.version, r.generation, .ok r.meshes⟩

/-- The chunk `c` at `a` is shown at its version, or has a build of that version on its way. -/
def Settled (s : Store) (bs : List Build) (a : Address) (c : Chunk) : Prop :=
  (∃ st, s.state? a = some st ∧ st.generation = c.generation ∧ st.meshedVersion = c.version) ∨
    ∃ b ∈ bs, b.address = a ∧ b.generation = c.generation ∧ b.version = c.version

/-! ### What is left of a world -/

namespace World

/-- What is left of `w` in `w'`, for a store that goes by generations and versions. -/
structure Carries (w w' : World) : Prop where
  kept : w'.WellKept
  dims : w'.dims = w.dims
  nextGeneration : w.nextGeneration ≤ w'.nextGeneration
  load : ∀ a c', w'.chunk? a = some c' → c'.generation < w.nextGeneration →
    ∃ c, w.chunk? a = some c ∧ c'.generation = c.generation ∧ c.version ≤ c'.version ∧
      (c'.version = c.version → w.dims.Fits → ∀ m, w'.meshOf m a = w.meshOf m a)

variable {w w' : World}

theorem Advances.carries (h : w.Advances w') (hw : w.WellKept) : w.Carries w' where
  kept := h.wellKept hw
  dims := h.dims
  nextGeneration := h.nextGeneration
  load a c' hc' hold := by
    rcases h.chunk a c' hc' with hnew | ⟨c, hc, hlater, -⟩
    · have hunused := hnew.unused
      omega
    · exact ⟨c, hc, hlater.generation, hlater.version, fun hver hd m =>
        h.meshOf_eq hw hd hc hc' hlater.generation hver m⟩

theorem WellKept.carries_unmark (hw : w.WellKept) (a : Address) : w.Carries (w.unmark a) where
  kept := hw.unmark a
  dims := rfl
  nextGeneration := Nat.le_refl _
  load b c' hc' _ := by
    obtain ⟨c, hc, rfl⟩ := chunk?_unmark hc'
    refine ⟨c, hc, ?_, ?_, fun _ hd m => meshOf_unmark hw hd a b m⟩
    · split <;> rfl
    · split <;> exact Nat.le_refl _

end World

/-! ### Events -/

/-- A world with its store, the builds that are on their way, and the results whose meshes were put
on show so far, the latest first. -/
structure Moment where
  world : World
  store : Store
  builds : List Build
  displayed : List BuildResult

namespace Moment

/-- The events that lead from one moment to the next. -/
inductive Next (m : Mesher) : Moment → Moment → Prop where
  | edit {w w' : World} {s : Store} {bs : List Build} {log : List BuildResult}
      (types : VoxelCatalogue) (e : World.Edit) (done : w.perform types e = .ok w') :
      Next m ⟨w, s, bs, log⟩ ⟨w', s, bs, log⟩
  | enter {w : World} {s : Store} {bs : List Build} {log : List BuildResult} (a : Address)
      (c : Chunk) (loaded : w.chunk? a = some c) :
      Next m ⟨w, s, bs, log⟩ ⟨w, (s.enter a c.generation).2, bs, log⟩
  /-- A build of the current version sets out. -/
  | launch {w : World} {s : Store} {bs : List Build} {log : List BuildResult} (a : Address)
      (c : Chunk) (st : BuildState) (snapshot : Snapshot) (loaded : w.chunk? a = some c)
      (entry : s.state? a = some st) (load : st.generation = c.generation)
      (idle : st.inFlight = false) (captured : Snapshot.capture w a = .ok (some snapshot)) :
      Next m ⟨w, s, bs, log⟩ ⟨w, s.put a { st with inFlight := true },
        BuildTask.pending m ⟨a, snapshot, c.version, c.generation⟩ :: bs, log⟩
  /-- The mesh mark is taken off a chunk that is taken care of. -/
  | unmark {w : World} {s : Store} {bs : List Build} {log : List BuildResult} (a : Address)
      (c : Chunk) (loaded : w.chunk? a = some c) (settled : Settled s bs a c) :
      Next m ⟨w, s, bs, log⟩ ⟨w.unmark a, s, bs, log⟩
  | publish {w : World} {s s' : Store} {bs : List Build} {log : List BuildResult} (r : BuildResult)
      (stored : Bool) (fate : s.Published w r stored s') :
      Next m ⟨w, s, r.done :: bs, log⟩ ⟨w, s', bs, if stored then r :: log else log⟩
  | drop {w : World} {s : Store} {bs : List Build} {log : List BuildResult} (a : Address)
      (ended : s.IsOver w a) : Next m ⟨w, s, bs, log⟩ ⟨w, s.forget a, bs, log⟩
  | reorder {w : World} {s : Store} {bs bs' : List Build} {log : List BuildResult}
      (perm : bs.Perm bs') : Next m ⟨w, s, bs, log⟩ ⟨w, s, bs', log⟩

theorem keeps_of_chain {m : Mesher} {P : Moment → Prop}
    (step : ∀ x y, P x → Next m x y → P y) {x y : Moment}
    (h : Relation.ReflTransGen (Next m) x y) (hx : P x) : P y := by
  induction h with
  | refl => exact hx
  | tail _ hnext ih => exact step _ _ ih hnext

variable {m : Mesher} {w w' : World} {s s' : Store} {bs bs' : List Build}
  {log log' : List BuildResult} {a : Address} {c : Chunk} {st : BuildState}

/-! ### Generations -/

/-- Generations are given out in order, and where a build of the present load is on its way the
store speaks of that load or of none. -/
structure Ordered (x : Moment) : Prop where
  kept : x.world.WellKept
  older : ∀ a st, x.store.state? a = some st → st.generation < x.world.nextGeneration
  unborn : ∀ b ∈ x.builds, b.generation < x.world.nextGeneration
  matching : ∀ b ∈ x.builds, ∀ c, b.IsOf x.world c → ∀ st, x.store.state? b.address = some st →
    st.generation = c.generation

namespace Ordered

theorem carry (h : Ordered ⟨w, s, bs, log⟩) (hw : w.Carries w') : Ordered ⟨w', s, bs, log⟩ where
  kept := hw.kept
  older a st hst := Nat.lt_of_lt_of_le (h.older a st hst) hw.nextGeneration
  unborn b hb := Nat.lt_of_lt_of_le (h.unborn b hb) hw.nextGeneration
  matching b hb c' hof st hst := by
    obtain ⟨c, hc, hgen, -⟩ := hw.load b.address c' hof.1 (hof.2 ▸ h.unborn b hb)
    rw [hgen]
    exact h.matching b hb c ⟨hc, hgen ▸ hof.2⟩ st hst

/-- Each entry may stay, go, or speak of the load that the world holds. -/
theorem restate (h : Ordered ⟨w, s, bs, log⟩)
    (hs : ∀ b st, s'.state? b = some st → s.state? b = some st ∨
      ∃ c, w.chunk? b = some c ∧ st.generation = c.generation) (hbs : bs' ⊆ bs) :
    Ordered ⟨w, s', bs', log'⟩ where
  kept := h.kept
  older b st hst := by
    rcases hs b st hst with hold | ⟨c, hc, hgen⟩
    · exact h.older b st hold
    · rw [hgen]
      exact h.kept.generation b c hc
  unborn b hb := h.unborn b (hbs hb)
  matching b hb c hof st hst := by
    rcases hs b.address st hst with hold | ⟨c', hc', hgen⟩
    · exact h.matching b (hbs hb) c hof st hold
    · obtain rfl : c = c' := Option.some.inj (hof.1.symm.trans hc')
      exact hgen

theorem put (h : Ordered ⟨w, s, bs, log⟩) (hc : w.chunk? a = some c)
    (hgen : st.generation = c.generation) : Ordered ⟨w, s.put a st, bs, log⟩ := by
  refine h.restate (fun b st' hst' => ?_) (List.Subset.refl _)
  rw [Store.state?_put] at hst'
  split at hst'
  · rename_i hab
    obtain rfl := Option.some.inj hst'
    exact .inr ⟨c, hab ▸ hc, hgen⟩
  · exact .inl hst'

theorem cons {b : Build} (h : Ordered ⟨w, s, bs, log⟩) (hof : b.IsOf w c)
    (hst : ∀ st, s.state? b.address = some st → st.generation = c.generation) :
    Ordered ⟨w, s, b :: bs, log⟩ where
  kept := h.kept
  older := h.older
  unborn b' hb' := by
    rcases List.mem_cons.mp hb' with rfl | hb'
    · rw [← hof.2]
      exact h.kept.generation _ c hof.1
    · exact h.unborn b' hb'
  matching b' hb' c' hof' := by
    rcases List.mem_cons.mp hb' with rfl | hb'
    · obtain rfl : c = c' := Option.some.inj (hof.1.symm.trans hof'.1)
      exact hst
    · exact h.matching b' hb' c' hof'

theorem forget (h : Ordered ⟨w, s, bs, log⟩) (a : Address) : Ordered ⟨w, s.forget a, bs, log⟩ := by
  refine h.restate (fun b st hst => .inl ?_) (List.Subset.refl _)
  rw [Store.state?_forget] at hst
  split at hst
  · cases hst
  · exact hst

/-- The entry that a current result is judged by is of the result's own load. -/
theorem entry_generation {r : BuildResult} (h : Ordered ⟨w, s, bs, log⟩) (hr : r.done ∈ bs)
    (hcur : Store.IsCurrentResult w r)
    (hst : (s.state? r.address).getD (.fresh r.generation) = st) :
    st.generation = r.generation := by
  obtain ⟨c, hc, hgen⟩ := hcur
  refine Store.generation_of_entry (fun st' hst' => ?_) hst
  rw [← hgen]
  exact h.matching r.done hr c ⟨hc, hgen⟩ st' hst'

theorem next {x y : Moment} (h : Ordered x) (hn : Next m x y) : Ordered y := by
  cases hn with
  | edit types e done => exact h.carry ((World.advances_of_perform h.kept done).carries h.kept)
  | @enter w s bs log a c loaded =>
    rcases s.enter_cases a c.generation with ⟨st, -, -, heq⟩ | ⟨-, -, hstate, -⟩
    · rw [heq]
      exact h
    · refine h.restate (fun b st hst => ?_) (List.Subset.refl _)
      rw [hstate] at hst
      split at hst
      · rename_i hab
        obtain rfl := Option.some.inj hst
        exact .inr ⟨c, hab ▸ loaded, rfl⟩
      · exact .inl hst
  | @launch w s bs log a c st snapshot loaded entry load idle captured =>
    have hput : Ordered ⟨w, s.put a { st with inFlight := true }, bs, log⟩ := h.put loaded load
    refine hput.cons ⟨loaded, rfl⟩ fun st' hst' => ?_
    have hhere := (s.state?_put a a { st with inFlight := true }).trans (if_pos rfl)
    obtain rfl := Option.some.inj (hhere.symm.trans hst')
    exact load
  | unmark a => exact h.carry (h.kept.carries_unmark a)
  | @publish w s s' bs log r stored fate =>
    have hhead : r.done ∈ r.done :: bs := List.mem_cons_self ..
    have htail : bs ⊆ r.done :: bs := List.subset_cons_self ..
    cases fate with
    | stored st current entry newest =>
      obtain ⟨c, hc, hgen⟩ := current
      have hload : BuildState.generation { st with meshedVersion := r.version, inFlight := false } =
          c.generation := (h.entry_generation hhead ⟨c, hc, hgen⟩ entry).trans hgen.symm
      exact (h.put hc hload).restate (fun _ _ => .inl) htail
    | outdated st current entry newer =>
      obtain ⟨c, hc, hgen⟩ := current
      have hload : BuildState.generation { st with inFlight := false } = c.generation :=
        (h.entry_generation hhead ⟨c, hc, hgen⟩ entry).trans hgen.symm
      exact (h.put hc hload).restate (fun _ _ => .inl) htail
    | ended st gone entry load =>
      exact (h.forget r.address).restate (fun _ _ => .inl) htail
    | foreign gone other => exact h.restate (fun _ _ => .inl) htail
  | drop a ended => exact h.forget a
  | reorder perm => exact h.restate (fun _ _ => .inl) perm.symm.subset

end Ordered

/-! ### Versions -/

/-- The entry for the present load of a chunk tells the version of the meshes on show. -/
def ShownAt (m : Mesher) (w : World) (s : Store) (a : Address) : Prop :=
  ∀ c st, w.chunk? a = some c → s.state? a = some st → st.generation = c.generation →
    st.meshedVersion ≤ c.version ∧ (st.meshedVersion = c.version →
      ∃ ms, s.mesh? a = some ms ∧ w.meshOf m a = .ok (some ms))

theorem ShownAt.congr (h : ShownAt m w s a)
    (hst : ∀ st', s'.state? a = some st' → ∃ st, s.state? a = some st ∧
      st.generation = st'.generation ∧ st.meshedVersion = st'.meshedVersion)
    (hmesh : s'.mesh? a = s.mesh? a) : ShownAt m w s' a := by
  intro c st' hc hst' hgen
  obtain ⟨st, hold, hload, hver⟩ := hst st' hst'
  rw [← hver, hmesh]
  exact h c st hc hold (hload.trans hgen)

/-- Each build gives the meshes of the version on its label, and the store shows those of the
version that it says. -/
structure Labelled (m : Mesher) (x : Moment) : Prop extends Ordered x where
  fits : x.world.dims.Fits
  truthful : ∀ b ∈ x.builds, ∀ c, b.IsOf x.world c → b.version ≤ c.version ∧
    (b.version = c.version → x.world.meshOf m b.address = b.outcome.map some)
  shown : ∀ a, ShownAt m x.world x.store a

namespace Labelled

theorem carry (h : Labelled m ⟨w, s, bs, log⟩) (hw : w.Carries w') :
    Labelled m ⟨w', s, bs, log⟩ where
  toOrdered := h.toOrdered.carry hw
  fits := hw.dims ▸ h.fits
  truthful b hb c' hof := by
    obtain ⟨c, hc, hgen, hle, hsame⟩ := hw.load b.address c' hof.1 (hof.2 ▸ h.unborn b hb)
    obtain ⟨hbefore, hmesh⟩ := h.truthful b hb c ⟨hc, hgen ▸ hof.2⟩
    refine ⟨Nat.le_trans hbefore hle, fun heq => ?_⟩
    rw [hsame (by omega) h.fits]
    exact hmesh (by omega)
  shown a c' st hc' hst hgen' := by
    obtain ⟨c, hc, hgen, hle, hsame⟩ := hw.load a c' hc' (hgen' ▸ h.older a st hst)
    obtain ⟨hbefore, hmesh⟩ := h.shown a c st hc hst (hgen'.trans hgen)
    refine ⟨Nat.le_trans hbefore hle, fun heq => ?_⟩
    rw [hsame (by omega) h.fits]
    exact hmesh (by omega)

theorem forget (h : Labelled m ⟨w, s, bs, log⟩) (a : Address) :
    Labelled m ⟨w, s.forget a, bs, log⟩ where
  toOrdered := h.toOrdered.forget a
  fits := h.fits
  truthful := h.truthful
  shown b := by
    by_cases hab : a = b
    · intro c st _ hst
      rw [Store.state?_forget, if_pos hab] at hst
      cases hst
    · refine (h.shown b).congr (fun st hst => ⟨st, ?_, rfl, rfl⟩) ?_
      · rwa [Store.state?_forget, if_neg hab] at hst
      · rw [Store.mesh?_forget, if_neg hab]

theorem next {x y : Moment} (h : Labelled m x) (hn : Next m x y) : Labelled m y := by
  have hordered := h.toOrdered.next hn
  cases hn with
  | edit types e done => exact h.carry ((World.advances_of_perform h.kept done).carries h.kept)
  | @enter w s bs log a c loaded =>
    refine ⟨hordered, h.fits, h.truthful, fun b => ?_⟩
    rcases s.enter_cases a c.generation with ⟨st, -, -, heq⟩ | ⟨-, -, hstate, hmesh⟩
    · rw [heq]
      exact h.shown b
    · by_cases hab : a = b
      · -- A fresh entry shows version 0, which no chunk has.
        intro c' st hc' hst _
        rw [hstate, if_pos hab] at hst
        obtain rfl := Option.some.inj hst
        have hpos := h.kept.version b c' hc'
        exact ⟨Nat.zero_le _, fun heq => absurd heq (Nat.ne_of_lt hpos)⟩
      · refine (h.shown b).congr (fun st hst => ⟨st, ?_, rfl, rfl⟩) ?_
        · rwa [hstate, if_neg hab] at hst
        · exact hmesh b hab
  | @launch w s bs log a c st snapshot loaded entry load idle captured =>
    refine ⟨hordered, h.fits, fun b hb c' hof => ?_, fun b => (h.shown b).congr ?_ rfl⟩
    · rcases List.mem_cons.mp hb with rfl | hb
      · obtain rfl : c = c' := Option.some.inj (loaded.symm.trans hof.1)
        exact ⟨Nat.le_refl _, fun _ => World.meshOf_of_capture captured m⟩
      · exact h.truthful b hb c' hof
    · intro st' hst'
      rw [Store.state?_put] at hst'
      split at hst'
      · rename_i hab
        obtain rfl := Option.some.inj hst'
        exact ⟨st, hab ▸ entry, rfl, rfl⟩
      · exact ⟨st', hst', rfl, rfl⟩
  | unmark a => exact h.carry (h.kept.carries_unmark a)
  | @publish w s s' bs log r stored fate =>
    refine ⟨hordered, h.fits, fun b hb => h.truthful b (List.mem_cons_of_mem _ hb), ?_⟩
    cases fate with
    | stored st current entry newest =>
      obtain ⟨c, hc, hgen⟩ := current
      have htruth := h.truthful r.done (List.mem_cons_self ..) c ⟨hc, hgen⟩
      intro b
      by_cases hab : r.address = b
      · subst hab
        intro c' st' hc' hst' _
        obtain rfl : c = c' := Option.some.inj (hc.symm.trans hc')
        rw [Store.state?_display, Store.state?_put, if_pos rfl] at hst'
        obtain rfl := Option.some.inj hst'
        refine ⟨htruth.1, fun heq => ⟨r.meshes, ?_, htruth.2 heq⟩⟩
        rw [Store.mesh?_display, if_pos rfl]
      · refine (h.shown b).congr (fun st' hst' => ⟨st', ?_, rfl, rfl⟩) ?_
        · rwa [Store.state?_display, Store.state?_put, if_neg hab] at hst'
        · rw [Store.mesh?_display, if_neg hab, Store.mesh?_put]
    | outdated st current entry newer =>
      intro b
      refine (h.shown b).congr (fun st' hst' => ?_) rfl
      rw [Store.state?_put] at hst'
      split at hst'
      · rename_i hab
        obtain rfl := Option.some.inj hst'
        exact ⟨st, hab ▸ Store.state?_of_newer entry newer, rfl, rfl⟩
      · exact ⟨st', hst', rfl, rfl⟩
    | ended st gone entry load => exact (h.forget r.address).shown
    | foreign gone other => exact h.shown
  | drop a ended => exact h.forget a
  | reorder perm =>
    exact ⟨hordered, h.fits, fun b hb => h.truthful b (perm.mem_iff.mpr hb), h.shown⟩

end Labelled

/-! ### Flags -/

/-- No load has two builds on their way, and that of the present load is flagged in the store. -/
structure Flagged (x : Moment) : Prop extends Ordered x where
  single : (x.builds.map Build.label).Nodup
  flagged : ∀ b ∈ x.builds, ∀ c, b.IsOf x.world c → ∃ st, x.store.state? b.address = some st ∧
    st.generation = c.generation ∧ st.inFlight = true

namespace Flagged

theorem carry (h : Flagged ⟨w, s, bs, log⟩) (hw : w.Carries w') : Flagged ⟨w', s, bs, log⟩ where
  toOrdered := h.toOrdered.carry hw
  single := h.single
  flagged b hb c' hof := by
    obtain ⟨c, hc, hgen, -⟩ := hw.load b.address c' hof.1 (hof.2 ▸ h.unborn b hb)
    rw [hgen]
    exact h.flagged b hb c ⟨hc, hgen ▸ hof.2⟩

/-- No build is on its way for a load whose entry is idle. -/
theorem label_not_mem (h : Flagged ⟨w, s, bs, log⟩) (hc : w.chunk? a = some c)
    (hst : s.state? a = some st) (hidle : st.inFlight = false) :
    (a, c.generation) ∉ bs.map Build.label := by
  intro hmem
  obtain ⟨b, hb, hlabel⟩ := List.mem_map.mp hmem
  obtain ⟨rfl, hgen⟩ := Prod.mk.inj hlabel
  obtain ⟨st', hst', -, hflag⟩ := h.flagged b hb c ⟨hc, hgen.symm⟩
  obtain rfl : st = st' := Option.some.inj (hst.symm.trans hst')
  rw [hidle] at hflag
  cases hflag

/-- The builds besides a current result are of other addresses or of loads that are over. -/
theorem generation_ne {r : BuildResult} {b : Build} (h : Flagged ⟨w, s, r.done :: bs, log⟩)
    (hb : b ∈ bs) (haddr : r.address = b.address) : b.generation ≠ r.generation := by
  intro hgen
  refine (List.nodup_cons.mp h.single).1 (List.mem_map.mpr ⟨b, hb, ?_⟩)
  rw [Build.label, ← haddr, hgen]
  rfl

theorem forget (h : Flagged ⟨w, s, bs, log⟩) (hover : s.IsOver w a) :
    Flagged ⟨w, s.forget a, bs, log⟩ where
  toOrdered := h.toOrdered.forget a
  single := h.single
  flagged b hb c hof := by
    obtain ⟨st, hst, hgen, hflag⟩ := h.flagged b hb c hof
    refine ⟨st, ?_, hgen, hflag⟩
    rw [Store.state?_forget, if_neg]
    · exact hst
    · rintro rfl
      exact hover st c hst hof.1 hgen

theorem next {x y : Moment} (h : Flagged x) (hn : Next m x y) : Flagged y := by
  have hordered := h.toOrdered.next hn
  cases hn with
  | edit types e done => exact h.carry ((World.advances_of_perform h.kept done).carries h.kept)
  | @enter w s bs log a c loaded =>
    refine ⟨hordered, h.single, fun b hb c' hof => ?_⟩
    obtain ⟨st, hst, hgen, hflag⟩ := h.flagged b hb c' hof
    refine ⟨st, ?_, hgen, hflag⟩
    rcases s.enter_cases a c.generation with ⟨st, -, -, heq⟩ | ⟨hother, -, hstate, -⟩
    · rw [heq]
      exact hst
    · rw [hstate, if_neg]
      · exact hst
      · rintro rfl
        obtain rfl : c = c' := Option.some.inj (loaded.symm.trans hof.1)
        exact hother st hst hgen
  | @launch w s bs log a c st snapshot loaded entry load idle captured =>
    have hfree := h.label_not_mem loaded entry idle
    refine ⟨hordered, List.nodup_cons.mpr ⟨hfree, h.single⟩, fun b hb c' hof => ?_⟩
    rw [Store.state?_put]
    rcases List.mem_cons.mp hb with rfl | hb
    · exact ⟨_, if_pos rfl, load.trans hof.2.symm, rfl⟩
    · obtain ⟨st', hst', hgen, hflag⟩ := h.flagged b hb c' hof
      split
      · rename_i hab
        obtain rfl : st = st' := Option.some.inj (entry.symm.trans (hab ▸ hst'))
        exact ⟨_, rfl, hgen, rfl⟩
      · exact ⟨st', hst', hgen, hflag⟩
  | unmark a => exact h.carry (h.kept.carries_unmark a)
  | @publish w s s' bs log r stored fate =>
    refine ⟨hordered, (List.nodup_cons.mp h.single).2, fun b hb c hof => ?_⟩
    have hbefore := h.flagged b (List.mem_cons_of_mem _ hb) c hof
    -- A second build of the load whose entry falls idle would have the same label.
    have hother (hcur : Store.IsCurrentResult w r) : r.address ≠ b.address := by
      intro haddr
      obtain ⟨c', hc', hgen⟩ := hcur
      obtain rfl : c = c' := Option.some.inj (hof.1.symm.trans (haddr ▸ hc'))
      exact h.generation_ne hb haddr (hof.2.symm.trans hgen)
    cases fate with
    | stored st current entry newest =>
      rw [Store.state?_display, Store.state?_put, if_neg (hother current)]
      exact hbefore
    | outdated st current entry newer =>
      rw [Store.state?_put, if_neg (hother current)]
      exact hbefore
    | ended st gone entry load =>
      have hover := Store.isOver_of_gone gone entry load
      exact (h.forget hover).flagged b (List.mem_cons_of_mem _ hb) c hof
    | foreign gone other => exact hbefore
  | drop a ended => exact h.forget ended
  | reorder perm =>
    exact ⟨hordered, (perm.map _).nodup_iff.mp h.single,
      fun b hb => h.flagged b (perm.mem_iff.mpr hb)⟩

end Flagged

end Moment

end VoxelScene
