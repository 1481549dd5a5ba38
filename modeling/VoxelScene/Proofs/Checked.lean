import VoxelScene.Fault

/-!
Laws of computations that may fault.

A sequence of steps gives a value exactly when each step does, in turn. Two sequences that agree
step by step have the same outcome, whether that is a value or a fault; this is how two ways of
reading the same cells are compared without a word on which of them fault.
-/

namespace VoxelScene.Checked

variable {α β σ : Type}

theorem bind_eq_ok_iff {x : Checked α} {f : α → Checked β} {b : β} :
    (x >>= f) = .ok b ↔ ∃ a, x = .ok a ∧ f a = .ok b := by
  cases x with
  | error e => simp [bind, Except.bind]
  | ok a => simp [bind, Except.bind]

theorem pure_eq_ok_iff {a b : α} : (pure a : Checked α) = .ok b ↔ a = b := by
  simp [pure, Except.pure]

@[simp] theorem ok_bind (a : α) (f : α → Checked β) : ((Except.ok a : Checked α) >>= f) = f a := rfl

/-- Only the values that the first step can give matter for the second. -/
theorem bind_congr_of_ok {x : Checked α} {f g : α → Checked β}
    (h : ∀ a, x = .ok a → f a = g a) : (x >>= f) = (x >>= g) := by
  cases x with
  | error e => rfl
  | ok a => exact h a rfl

theorem bind_congr_left {x y : Checked α} {f : α → Checked β} (h : x = y) :
    (x >>= f) = (y >>= f) := by
  rw [h]

/-- A value is given, and it passes the test. -/
def passes (x : Checked α) (f : α → Bool) : Bool :=
  match x with
  | .ok a => f a
  | .error _ => false

theorem exists_of_passes {x : Checked α} {f : α → Bool} (h : passes x f = true) :
    ∃ a, x = .ok a ∧ f a = true := by
  cases x with
  | ok a => exact ⟨a, rfl, h⟩
  | error e => cases h

/-! ### Lists -/

theorem mapM_congr {f g : α → Checked β} {xs : List α} (h : ∀ x ∈ xs, f x = g x) :
    xs.mapM f = xs.mapM g := by
  induction xs with
  | nil => rfl
  | cons x xs ih =>
    have hx : f x = g x := h x (List.mem_cons_self ..)
    have hxs : xs.mapM f = xs.mapM g := ih fun y hy => h y (List.mem_cons_of_mem _ hy)
    simp only [List.mapM_cons, hx, hxs]

theorem getElem?_mapM {f : α → Checked β} {xs : List α} {ys : List β} (h : xs.mapM f = .ok ys)
    {i : Nat} {x : α} (hx : xs[i]? = some x) : ∃ y, ys[i]? = some y ∧ f x = .ok y := by
  induction xs generalizing ys i with
  | nil => simp at hx
  | cons z xs ih =>
    rw [List.mapM_cons] at h
    obtain ⟨y, hy, h⟩ := bind_eq_ok_iff.mp h
    obtain ⟨rest, hrest, h⟩ := bind_eq_ok_iff.mp h
    obtain rfl := pure_eq_ok_iff.mp h
    cases i with
    | zero =>
      obtain rfl : z = x := by simpa using hx
      exact ⟨y, rfl, hy⟩
    | succ i =>
      have htail : xs[i]? = some x := by simpa using hx
      simpa using ih hrest htail

theorem length_mapM {f : α → Checked β} {xs : List α} {ys : List β} (h : xs.mapM f = .ok ys) :
    ys.length = xs.length := by
  induction xs generalizing ys with
  | nil =>
    rw [List.mapM_nil] at h
    obtain rfl := pure_eq_ok_iff.mp h
    rfl
  | cons z xs ih =>
    rw [List.mapM_cons] at h
    obtain ⟨y, hy, h⟩ := bind_eq_ok_iff.mp h
    obtain ⟨rest, hrest, h⟩ := bind_eq_ok_iff.mp h
    obtain rfl := pure_eq_ok_iff.mp h
    simp only [List.length_cons, ih hrest]

theorem mapM_eq_map {f : α → Checked β} {g : α → β} {xs : List α} {ys : List β}
    (hf : ∀ x y, f x = .ok y → y = g x) (h : xs.mapM f = .ok ys) : ys = xs.map g := by
  apply List.ext_getElem?
  intro i
  cases hx : xs[i]? with
  | none =>
    have hlen := length_mapM h
    have hle := List.getElem?_eq_none_iff.mp hx
    rw [List.getElem?_map, hx, Option.map_none, List.getElem?_eq_none_iff]
    omega
  | some x =>
    obtain ⟨y, hy, hxy⟩ := getElem?_mapM h hx
    rw [List.getElem?_map, hx, hy, hf x y hxy, Option.map_some]

theorem mapM_eq_ok {f : α → Checked β} {g : α → β} {xs : List α}
    (h : ∀ x ∈ xs, f x = .ok (g x)) : xs.mapM f = .ok (xs.map g) := by
  rw [mapM_congr h]
  exact List.mapM_pure

theorem exists_mapM {f : α → Checked β} {xs : List α} (h : ∀ x ∈ xs, ∃ y, f x = .ok y) :
    ∃ ys, xs.mapM f = .ok ys := by
  induction xs with
  | nil => exact ⟨[], rfl⟩
  | cons x xs ih =>
    obtain ⟨y, hy⟩ := h x (List.mem_cons_self ..)
    obtain ⟨ys, hys⟩ := ih fun z hz => h z (List.mem_cons_of_mem _ hz)
    refine ⟨y :: ys, ?_⟩
    rw [List.mapM_cons, hy, ok_bind, hys]
    rfl

theorem mem_of_mapM {f : α → Checked β} {xs : List α} {ys : List β} (h : xs.mapM f = .ok ys)
    {y : β} (hy : y ∈ ys) : ∃ x ∈ xs, f x = .ok y := by
  obtain ⟨i, hi⟩ := List.getElem?_of_mem hy
  cases hx : xs[i]? with
  | none =>
    have hlen := length_mapM h
    have hle := List.getElem?_eq_none_iff.mp hx
    have hlt := (List.getElem?_eq_some_iff.mp hi).1
    omega
  | some x =>
    obtain ⟨y', hy', hxy⟩ := getElem?_mapM h hx
    obtain rfl : y = y' := Option.some.inj (hi.symm.trans hy')
    exact ⟨x, List.mem_of_getElem? hx, hxy⟩

/-- A traversal in which every step gives a value or the same fault. -/
theorem mapM_eq_error {f : α → Checked β} {xs : List α} {e : Fault}
    (h : ∀ x ∈ xs, (∃ y, f x = .ok y) ∨ f x = .error e) (hsome : ∃ x ∈ xs, f x = .error e) :
    xs.mapM f = .error e := by
  induction xs with
  | nil =>
    obtain ⟨x, hx, -⟩ := hsome
    cases hx
  | cons x xs ih =>
    rw [List.mapM_cons]
    rcases h x (List.mem_cons_self ..) with ⟨y, hy⟩ | hx
    · have hrest : xs.mapM f = .error e := by
        refine ih (fun z hz => h z (List.mem_cons_of_mem _ hz)) ?_
        obtain ⟨z, hz, hfault⟩ := hsome
        rcases List.mem_cons.mp hz with rfl | hz
        · rw [hy] at hfault
          cases hfault
        · exact ⟨z, hz, hfault⟩
      rw [hy, hrest]
      rfl
    · rw [hx]
      rfl

theorem foldlM_congr {f g : σ → α → Checked σ} {xs : List α} {s : σ}
    (h : ∀ s, ∀ x ∈ xs, f s x = g s x) : xs.foldlM f s = xs.foldlM g s := by
  induction xs generalizing s with
  | nil => rfl
  | cons x xs ih =>
    have hx : f s x = g s x := h s x (List.mem_cons_self ..)
    rw [List.foldlM_cons, List.foldlM_cons, hx]
    exact bind_congr_of_ok fun t _ => ih fun s y hy => h s y (List.mem_cons_of_mem _ hy)

/-- What each step of a successful run keeps, the run keeps. -/
theorem foldlM_invariant {f : σ → α → Checked σ} {P : σ → Prop}
    (step : ∀ s x t, P s → f s x = .ok t → P t) {xs : List α} {s t : σ} (hs : P s)
    (h : xs.foldlM f s = .ok t) : P t := by
  induction xs generalizing s with
  | nil =>
    obtain rfl := pure_eq_ok_iff.mp h
    exact hs
  | cons x xs ih =>
    rw [List.foldlM_cons] at h
    obtain ⟨u, hu, h⟩ := bind_eq_ok_iff.mp h
    exact ih (step s x u hs hu) h

theorem exists_foldlM {f : σ → α → Checked σ} {xs : List α} (h : ∀ s, ∀ x ∈ xs, ∃ t, f s x = .ok t)
    (s : σ) : ∃ t, xs.foldlM f s = .ok t := by
  induction xs generalizing s with
  | nil => exact ⟨s, rfl⟩
  | cons x xs ih =>
    obtain ⟨t, ht⟩ := h s x (List.mem_cons_self ..)
    rw [List.foldlM_cons, ht]
    exact ih (fun s y hy => h s y (List.mem_cons_of_mem _ hy)) t

/-- A run in which every step goes on or ends in the same fault. -/
theorem foldlM_eq_error {f : σ → α → Checked σ} {xs : List α} {e : Fault}
    (h : ∀ s, ∀ x ∈ xs, (∃ t, f s x = .ok t) ∨ f s x = .error e)
    (hsome : ∃ x ∈ xs, ∀ s, f s x = .error e) (s : σ) : xs.foldlM f s = .error e := by
  induction xs generalizing s with
  | nil =>
    obtain ⟨x, hx, -⟩ := hsome
    cases hx
  | cons x xs ih =>
    rw [List.foldlM_cons]
    rcases h s x (List.mem_cons_self ..) with ⟨t, ht⟩ | hx
    · rw [ht, ok_bind]
      refine ih (fun s y hy => h s y (List.mem_cons_of_mem _ hy)) ?_ t
      obtain ⟨y, hy, hfault⟩ := hsome
      rcases List.mem_cons.mp hy with rfl | hy
      · rw [hfault] at ht
        cases ht
      · exact ⟨y, hy, hfault⟩
    · rw [hx]
      rfl

theorem length_flatten_le {pieces : List (List β)} {n : Nat}
    (h : ∀ piece ∈ pieces, piece.length ≤ n) : pieces.flatten.length ≤ n * pieces.length := by
  induction pieces with
  | nil => exact Nat.zero_le _
  | cons piece pieces ih =>
    have hhead := h piece (List.mem_cons_self ..)
    have htail := ih fun p hp => h p (List.mem_cons_of_mem _ hp)
    rw [List.flatten_cons, List.length_append, List.length_cons, Nat.mul_succ]
    omega

theorem exists_collect {f : α → Checked (List β)} {xs : List α} {n : Nat}
    (h : ∀ x ∈ xs, ∃ ys, f x = .ok ys ∧ ys.length ≤ n) :
    ∃ zs, collect f xs = .ok zs ∧ zs.length ≤ n * xs.length := by
  obtain ⟨pieces, hpieces⟩ := exists_mapM fun x hx => (h x hx).imp fun _ hys => hys.1
  have hlen : ∀ piece ∈ pieces, piece.length ≤ n := by
    intro piece hmem
    obtain ⟨x, hx, hpiece⟩ := mem_of_mapM hpieces hmem
    obtain ⟨ys, hys, hle⟩ := h x hx
    obtain rfl := Except.ok.inj (hpiece.symm.trans hys)
    exact hle
  refine ⟨pieces.flatten, by rw [collect, hpieces]; rfl, ?_⟩
  rw [← length_mapM hpieces]
  exact length_flatten_le hlen

theorem collect_congr {f g : α → Checked (List β)} {xs : List α} (h : ∀ x ∈ xs, f x = g x) :
    collect f xs = collect g xs := by
  rw [collect, collect, mapM_congr h]

theorem select_congr {f g : α → Checked Bool} {xs : List α} (h : ∀ x ∈ xs, f x = g x) :
    select f xs = select g xs := by
  induction xs with
  | nil => rfl
  | cons x xs ih =>
    have hx : f x = g x := h x (List.mem_cons_self ..)
    have hxs : select f xs = select g xs := ih fun y hy => h y (List.mem_cons_of_mem _ hy)
    simp only [select, hx, hxs]

theorem select_eq_ok {test : α → Checked Bool} {xs ys : List α} (h : select test xs = .ok ys) :
    ys ⊆ xs ∧ ∀ x ∈ xs, ∃ b, test x = .ok b := by
  induction xs generalizing ys with
  | nil =>
    obtain rfl := pure_eq_ok_iff.mp h
    exact ⟨List.Subset.refl _, fun x hx => by cases hx⟩
  | cons z xs ih =>
    obtain ⟨keep, hkeep, h⟩ := bind_eq_ok_iff.mp h
    obtain ⟨rest, hrest, h⟩ := bind_eq_ok_iff.mp h
    obtain rfl := pure_eq_ok_iff.mp h
    obtain ⟨hsub, htests⟩ := ih hrest
    constructor
    · split
      · exact List.cons_subset_cons z hsub
      · exact List.subset_cons_of_subset z hsub
    · intro x hx
      rcases List.mem_cons.mp hx with rfl | hx
      · exact ⟨keep, hkeep⟩
      · exact htests x hx

theorem exists_select {test : α → Checked Bool} {xs : List α} (h : ∀ x ∈ xs, ∃ b, test x = .ok b) :
    ∃ ys, select test xs = .ok ys := by
  induction xs with
  | nil => exact ⟨[], rfl⟩
  | cons x xs ih =>
    obtain ⟨keep, hkeep⟩ := h x (List.mem_cons_self ..)
    obtain ⟨rest, hrest⟩ := ih fun y hy => h y (List.mem_cons_of_mem _ hy)
    rw [select, hkeep, hrest]
    exact ⟨_, rfl⟩

theorem any_congr {f g : α → Checked Bool} {xs : List α} (h : ∀ x ∈ xs, f x = g x) :
    any f xs = any g xs := by
  induction xs with
  | nil => rfl
  | cons x xs ih =>
    have hx : f x = g x := h x (List.mem_cons_self ..)
    have hxs : any f xs = any g xs := ih fun y hy => h y (List.mem_cons_of_mem _ hy)
    simp only [any, hx, hxs]

end VoxelScene.Checked
