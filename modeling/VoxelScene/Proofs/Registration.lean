import VoxelScene.Proofs.Atlas

/-!
Histories of a catalogue.

A catalogue keeps its types twice, in a list by number and in a table by name. Whatever is
registered or refused, the two stay inverse to each other: numbers are given out in turn, and the
name of each type leads back to its number. A type is refused for one of three reasons, the first of
them that holds, and then nothing at all has changed.
-/

namespace VoxelScene

namespace Catalogue

variable {α ι : Type} [Catalogued α ι] {c : Catalogue α ι} {t : α} {count : UInt16} {id : ι}

/-! ### One registration -/

/-- Some type of the catalogue has this name. -/
def HasName (c : Catalogue α ι) (name : String) : Prop :=
  ∃ id t, c.get? id = some t ∧ Catalogued.name t = name

/-- The table of names and the list of types say the same, and the numbers are not used up. -/
structure Coherent (c : Catalogue α ι) : Prop where
  lookup : ∀ name id, c.lookup? name = some id ↔ ∃ t, c.get? id = some t ∧ Catalogued.name t = name
  size_pos : 0 < c.size
  size_le : c.size ≤ Catalogued.limit α

theorem Coherent.hasName_iff (h : c.Coherent) (name : String) :
    c.HasName name ↔ c.ids.contains name = true := by
  rw [Std.HashMap.contains_eq_isSome_getElem?, Option.isSome_iff_exists]
  exact exists_congr fun id => (h.lookup name id).symm

/-- Two numbers for one place are the same number. -/
theorem place_inj {id id' : ι} (h : Catalogued.place α id = Catalogued.place α id') : id = id' := by
  rw [← Catalogued.number_place (α := α) id, h, Catalogued.number_place]

/-- The word of a place within the limit leads to that place, and no other word does. -/
theorem place_eq_iff {n : Nat} (hn : n < Catalogued.limit α) :
    Catalogued.place α id = n ↔ Catalogued.number α n = id := by
  have hplace : Catalogued.place α (Catalogued.number α n) = n := Catalogued.place_number n hn
  constructor
  · intro h
    exact place_inj (hplace.trans h.symm)
  · rintro rfl
    exact hplace

theorem lookup?_push (c : Catalogue α ι) (t : α) (name : String) :
    (c.push t).lookup? name =
      if Catalogued.name t = name then some (Catalogued.number α c.size) else c.lookup? name := by
  show (c.ids.insert (Catalogued.name t) (Catalogued.number α c.size))[name]? = _
  simp only [Std.HashMap.getElem?_insert, beq_iff_eq, lookup?]

theorem refusal?_eq_none_iff (h : c.Coherent) : c.refusal? t = none ↔
    ¬ c.HasName (Catalogued.name t) ∧ c.size < Catalogued.limit α ∧
      ∀ x ∈ Catalogued.textures t, x < c.textureCount := by
  rw [h.hasName_iff]
  unfold refusal?
  dsimp only
  split
  · rename_i htaken
    simp [htaken]
  · rename_i hfree
    split
    · rename_i hfull
      simp [Nat.not_lt.mpr hfull]
    · rename_i hroom
      simp [hfree, Nat.not_le.mp hroom, List.find?_eq_none]

/-- The three reasons, in the order in which they are found. -/
theorem refusal?_cases (h : c.Coherent) :
    (c.HasName (Catalogued.name t) → c.refusal? t = some (.duplicateName (Catalogued.name t))) ∧
    (¬ c.HasName (Catalogued.name t) → c.size = Catalogued.limit α →
      c.refusal? t = some (.full (Catalogued.limit α))) ∧
    (¬ c.HasName (Catalogued.name t) → c.size ≠ Catalogued.limit α →
      c.refusal? t = ((Catalogued.textures t).find? (c.textureCount ≤ ·)).map fun x =>
        .unknownTexture (Catalogued.name t) x c.textureCount) := by
  rw [h.hasName_iff]
  have hle := h.size_le
  refine ⟨fun htaken => ?_, fun hfree hfull => ?_, fun hfree hroom => ?_⟩
  · simp [refusal?, htaken]
  · simp [refusal?, hfree, hfull]
  · have hlt : ¬ Catalogued.limit α ≤ c.size := by omega
    simp [refusal?, hfree, hlt]

theorem Coherent.push (h : c.Coherent) (ht : c.refusal? t = none) : (c.push t).Coherent := by
  obtain ⟨hfree, hroom, -⟩ := (refusal?_eq_none_iff h).mp ht
  refine ⟨fun name id => ?_, by rw [size_push]; omega, by rw [size_push]; omega⟩
  rw [lookup?_push, get?_push]
  by_cases hname : Catalogued.name t = name
  · -- The new name is no older type's name, so only the new number has it.
    rw [if_pos hname, Option.some_inj, ← place_eq_iff hroom]
    by_cases hid : Catalogued.place α id = c.size
    · simp [hid, hname]
    · have hother : ¬ ∃ t', c.get? id = some t' ∧ Catalogued.name t' = name :=
        fun ⟨t', hget, hsame⟩ => hfree ⟨id, t', hget, hsame.trans hname.symm⟩
      simp [hid, hother]
  · rw [if_neg hname, h.lookup]
    by_cases hid : Catalogued.place α id = c.size
    · have hnone : ¬ ∃ t', c.get? id = some t' ∧ Catalogued.name t' = name := by
        rintro ⟨t', hget, -⟩
        exact absurd (lt_size_of_get? hget) (by omega)
      simp [hid, hname, hnone]
    · simp [hid]

theorem get?_withTextureCount (count : UInt16) (id : ι) :
    (withTextureCount count : Catalogue α ι).get? id =
      if Catalogued.place α id = 0 then some Catalogued.reserved else none := by
  show #[Catalogued.reserved][Catalogued.place α id]? = _
  cases Catalogued.place α id <;> rfl

theorem coherent_withTextureCount (count : UInt16) :
    (withTextureCount count : Catalogue α ι).Coherent := by
  refine ⟨fun name id => ?_, Nat.one_pos, Catalogued.limit_pos⟩
  have hlookup : (withTextureCount count : Catalogue α ι).lookup? name =
      if Catalogued.name (Catalogued.reserved (α := α)) = name then some (Catalogued.number α 0)
      else none := by
    show ((∅ : Std.HashMap String ι).insert _ (Catalogued.number α 0))[name]? = _
    simp only [Std.HashMap.getElem?_insert, beq_iff_eq, Std.HashMap.getElem?_empty]
  have hplace : Catalogued.place α id = 0 ↔ Catalogued.number α 0 = id :=
    place_eq_iff Catalogued.limit_pos
  rw [hlookup, get?_withTextureCount]
  by_cases hname : Catalogued.name (Catalogued.reserved (α := α)) = name <;>
    by_cases hid : Catalogued.number α 0 = id <;> simp [hname, hid, hplace]

theorem get?_number_size (hroom : c.size < Catalogued.limit α) (t : α) :
    (c.push t).get? (Catalogued.number α c.size) = some t := by
  rw [get?_push, if_pos (Catalogued.place_number c.size hroom)]

/-! ### Histories -/

theorem registerEach_append (c : Catalogue α ι) (ts us : List α) :
    c.registerEach (ts ++ us) =
      ((c.registerEach ts).1 ++ ((c.registerEach ts).2.registerEach us).1,
        ((c.registerEach ts).2.registerEach us).2) := by
  induction ts generalizing c with
  | nil => rfl
  | cons t ts ih =>
    rw [List.cons_append, registerEach, registerEach]
    simp only [ih, List.cons_append]

theorem Coherent.registerEach (h : c.Coherent) (ts : List α) : (c.registerEach ts).2.Coherent :=
  registerEach_keeps (fun _ _ h ht => h.push ht) h ts

/-- What is registered stays under its number. -/
theorem get?_registerEach (ts : List α) (h : Catalogued.place α id < c.size) :
    (c.registerEach ts).2.get? id = c.get? id := by
  have hkept : Catalogued.place α id < (c.registerEach ts).2.size ∧
      (c.registerEach ts).2.get? id = c.get? id := by
    refine registerEach_keeps
      (P := fun c' : Catalogue α ι => Catalogued.place α id < c'.size ∧ c'.get? id = c.get? id)
      (fun c' t hc' _ => ?_) ⟨h, rfl⟩ ts
    rw [size_push, get?_push, if_neg (Nat.ne_of_lt hc'.1)]
    exact ⟨Nat.lt_succ_of_lt hc'.1, hc'.2⟩
  exact hkept.2

/-- The places of the numbers that a history gave out. -/
def places (α : Type) {ι : Type} [Catalogued α ι] (outcomes : List (Except TypeError ι)) :
    List Nat :=
  (outcomes.filterMap Except.toOption).map (Catalogued.place α)

/-- Numbers are given out one after the other, from the first that is free. -/
theorem places_registerEach (h : c.Coherent) (ts : List α) :
    ∃ n, places α (c.registerEach ts).1 = List.range' c.size n ∧
      (c.registerEach ts).2.size = c.size + n := by
  induction ts generalizing c with
  | nil => exact ⟨0, rfl, rfl⟩
  | cons t ts ih =>
    rw [registerEach]
    rcases c.register_cases t with ⟨e, -, heq⟩ | ⟨ht, heq⟩
    · rw [heq]
      exact ih h
    · rw [heq]
      obtain ⟨n, hplaces, hsize⟩ := ih (h.push ht)
      have hroom := ((refusal?_eq_none_iff h).mp ht).2.1
      refine ⟨n + 1, ?_, ?_⟩
      · show Catalogued.place α (Catalogued.number α c.size) ::
          places α ((c.push t).registerEach ts).1 = _
        rw [hplaces, Catalogued.place_number c.size hroom, List.range'_succ, size_push]
      · show ((c.push t).registerEach ts).2.size = _
        rw [hsize, size_push]
        omega

/-- What came of each registration of a history. -/
def outcomes (count : UInt16) (ts : List α) : List (Except TypeError ι) :=
  ((withTextureCount count).registerEach ts).1

/-- The catalogue that a history leads to. -/
def after (count : UInt16) (ts : List α) : Catalogue α ι :=
  ((withTextureCount count).registerEach ts).2

/-- All that is said of a history of registrations in a catalogue with `limit` numbers: what it gave
out, what the catalogue holds after it, and what one more registration does. -/
structure Exact (limit : Nat) (count : UInt16) (ts : List α) : Prop where
  /-- The numbers given out are 1, 2, 3 and so on, one for each type beside the reserved one. -/
  numbers : places α (outcomes count ts) = List.range' 1 ((after count ts).size - 1)
  reserved : (after count ts).get? (Catalogued.number α 0) = some Catalogued.reserved
  size_le : (after count ts).size ≤ limit
  /-- A word is the number of a type exactly if it is below the size. -/
  numbered : ∀ id, (∃ t, (after count ts).get? id = some t) ↔
    Catalogued.place α id < (after count ts).size
  /-- A name leads to a number exactly if the type of that number has the name. -/
  lookup : ∀ name id, (after count ts).lookup? name = some id ↔
    ∃ t, (after count ts).get? id = some t ∧ Catalogued.name t = name
  names_distinct : ∀ id id' t t', (after count ts).get? id = some t →
    (after count ts).get? id' = some t' → Catalogued.name t = Catalogued.name t' → id = id'
  texture_lt : ∀ id t, id ≠ Catalogued.number α 0 → (after count ts).get? id = some t →
    ∀ x ∈ Catalogued.textures t, x < count
  refused_iff : ∀ t, (∃ e, ((after count ts).register t).1 = .error e) ↔
    (after count ts).HasName (Catalogued.name t) ∨ (after count ts).size = limit ∨
      ∃ x ∈ Catalogued.textures t, count ≤ x
  /-- The name is looked at first, then the room, then the textures. -/
  reason : ∀ t e, ((after count ts).register t).1 = .error e →
    ((after count ts).HasName (Catalogued.name t) → e = .duplicateName (Catalogued.name t)) ∧
    (¬ (after count ts).HasName (Catalogued.name t) → (after count ts).size = limit →
      e = .full limit) ∧
    (¬ (after count ts).HasName (Catalogued.name t) → (after count ts).size ≠ limit →
      ∃ x, (Catalogued.textures t).find? (count ≤ ·) = some x ∧
        e = .unknownTexture (Catalogued.name t) x count)
  next : ∀ t, outcomes count (ts ++ [t]) = outcomes count ts ++ [((after count ts).register t).1] ∧
    after count (ts ++ [t]) = ((after count ts).register t).2
  accepted : ∀ t id, ((after count ts).register t).1 = .ok id →
    Catalogued.place α id = (after count ts).size ∧
    (after count (ts ++ [t])).size = (after count ts).size + 1 ∧
    (after count (ts ++ [t])).get? id = some t
  unchanged : ∀ t e, ((after count ts).register t).1 = .error e →
    (after count (ts ++ [t])).size = (after count ts).size ∧
    (∀ id, (after count (ts ++ [t])).get? id = (after count ts).get? id) ∧
    ∀ name, (after count (ts ++ [t])).lookup? name = (after count ts).lookup? name

theorem register_eq_error_iff {e : TypeError} :
    (c.register t).1 = .error e ↔ c.refusal? t = some e := by
  rcases c.register_cases t with ⟨e', hrefused, heq⟩ | ⟨haccepted, heq⟩
  · simp [heq, hrefused]
  · simp [heq, haccepted]

/-- A refused registration gives back the catalogue that it was given. -/
theorem register_of_error {e : TypeError} (h : (c.register t).1 = .error e) :
    (c.register t).2 = c := by
  rcases c.register_cases t with ⟨e', -, heq⟩ | ⟨-, heq⟩
  · rw [heq]
  · rw [heq] at h
    cases h

theorem register_of_ok (h : (c.register t).1 = .ok id) :
    c.refusal? t = none ∧ Catalogued.number α c.size = id ∧ (c.register t).2 = c.push t := by
  rcases c.register_cases t with ⟨e', -, heq⟩ | ⟨haccepted, heq⟩
  · rw [heq] at h
    cases h
  · rw [heq] at h
    exact ⟨haccepted, Except.ok.inj h, by rw [heq]⟩

theorem Coherent.refused_iff (h : c.Coherent) : (∃ e, (c.register t).1 = .error e) ↔
    c.HasName (Catalogued.name t) ∨ c.size = Catalogued.limit α ∨
      ∃ x ∈ Catalogued.textures t, c.textureCount ≤ x := by
  have hle := h.size_le
  have hroom : c.size < Catalogued.limit α ↔ ¬ c.size = Catalogued.limit α := by omega
  have hsome : (∃ e, (c.register t).1 = .error e) ↔ ¬ c.refusal? t = none := by
    simp only [register_eq_error_iff, Option.ne_none_iff_exists', ← ne_eq]
  rw [hsome, refusal?_eq_none_iff h, hroom]
  simp only [not_and_or, not_not, not_forall, UInt16.not_lt, exists_prop]

theorem Coherent.reason {e : TypeError} (h : c.Coherent) (he : (c.register t).1 = .error e) :
    (c.HasName (Catalogued.name t) → e = .duplicateName (Catalogued.name t)) ∧
    (¬ c.HasName (Catalogued.name t) → c.size = Catalogued.limit α →
      e = .full (Catalogued.limit α)) ∧
    (¬ c.HasName (Catalogued.name t) → c.size ≠ Catalogued.limit α →
      ∃ x, (Catalogued.textures t).find? (c.textureCount ≤ ·) = some x ∧
        e = .unknownTexture (Catalogued.name t) x c.textureCount) := by
  rw [register_eq_error_iff] at he
  obtain ⟨htaken, hfull, htexture⟩ := refusal?_cases (t := t) h
  refine ⟨fun hname => ?_, fun hname hsize => ?_, fun hname hsize => ?_⟩
  · exact Option.some.inj (he.symm.trans (htaken hname))
  · exact Option.some.inj (he.symm.trans (hfull hname hsize))
  · rw [htexture hname hsize, Option.map_eq_some_iff] at he
    obtain ⟨x, hx, rfl⟩ := he
    exact ⟨x, hx, rfl⟩

theorem exact_history (count : UInt16) (ts : List α) : Exact (Catalogued.limit α) count ts := by
  have hstart : (withTextureCount count : Catalogue α ι).Coherent := coherent_withTextureCount count
  have hcoherent : (after count ts).Coherent := hstart.registerEach ts
  have hatlas : (after count ts).InAtlas count := (inAtlas_withTextureCount count).registerEach ts
  have hnext (t : α) : after count (ts ++ [t]) = ((after count ts).register t).2 :=
    congrArg Prod.snd (registerEach_append (withTextureCount count) ts [t])
  constructor
  case numbers =>
    obtain ⟨n, hplaces, hsize⟩ := places_registerEach hstart ts
    have hone : (withTextureCount count : Catalogue α ι).size = 1 := rfl
    rw [hone] at hplaces hsize
    rw [outcomes, after, hplaces, hsize, Nat.add_sub_cancel_left]
  case reserved =>
    have hzero : Catalogued.place α (Catalogued.number α 0) = 0 :=
      Catalogued.place_number 0 Catalogued.limit_pos
    have hfirst : Catalogued.place α (Catalogued.number α 0) <
        (withTextureCount count : Catalogue α ι).size := by
      rw [hzero]
      exact hstart.size_pos
    rw [after, get?_registerEach ts hfirst, get?_withTextureCount, if_pos hzero]
  case size_le => exact hcoherent.size_le
  case numbered =>
    intro id
    constructor
    · rintro ⟨t, ht⟩
      exact lt_size_of_get? ht
    · intro hlt
      exact ⟨_, Array.getElem?_eq_getElem hlt⟩
  case lookup => exact hcoherent.lookup
  case names_distinct =>
    intro id id' t t' hget hget' hname
    have hid := (hcoherent.lookup (Catalogued.name t') id).mpr ⟨t, hget, hname⟩
    have hid' := (hcoherent.lookup (Catalogued.name t') id').mpr ⟨t', hget', rfl⟩
    exact Option.some.inj (hid.symm.trans hid')
  case texture_lt =>
    intro id t hid ht
    refine hatlas.texture_lt id t (Nat.pos_of_ne_zero fun hzero => hid ?_) ht
    rw [← hzero, Catalogued.number_place]
  case refused_iff =>
    intro t
    have h := hcoherent.refused_iff (t := t)
    rwa [hatlas.textureCount] at h
  case reason =>
    intro t e he
    have h := hcoherent.reason he
    rwa [hatlas.textureCount] at h
  case next =>
    intro t
    exact ⟨congrArg Prod.fst (registerEach_append (withTextureCount count) ts [t]), hnext t⟩
  case accepted =>
    intro t id h
    obtain ⟨haccepted, rfl, hpush⟩ := register_of_ok h
    have hroom := ((refusal?_eq_none_iff hcoherent).mp haccepted).2.1
    rw [hnext, hpush]
    exact ⟨Catalogued.place_number _ hroom, size_push _ t, get?_number_size hroom t⟩
  case unchanged =>
    intro t e h
    rw [hnext, register_of_error h]
    exact ⟨rfl, fun _ => rfl, fun _ => rfl⟩

end Catalogue

/-! ### Both catalogues -/

/-- Every history of registrations is exact, for voxel types with the 65536 numbers of a sixteen bit
word and for liquid types with the 256 of an eight bit word. The textures include those for
slopes. -/
theorem Catalogue.registrations_are_exact (count : UInt16) :
    (∀ ts : List VoxelType, Catalogue.Exact 65536 count ts ∧
      ∀ (id : UInt16) (t : VoxelType), id ≠ 0 → (Catalogue.after count ts).get? id = some t →
        (∀ x ∈ t.textures.toList, x < count) ∧
        ∀ slopes, t.rampTextures = some slopes → ∀ x ∈ slopes.toList, x < count) ∧
    ∀ ts : List LiquidType, Catalogue.Exact 256 count ts ∧
      ∀ (id : UInt8) (t : LiquidType), id ≠ 0 → (Catalogue.after count ts).get? id = some t →
        t.texture < count := by
  refine ⟨fun ts => ?_, fun ts => ?_⟩
  · have hexact : Catalogue.Exact 65536 count ts := Catalogue.exact_history count ts
    refine ⟨hexact, fun id t hid ht => ⟨fun x hx => ?_, fun slopes hslopes x hx => ?_⟩⟩
    · exact hexact.texture_lt id t hid ht x (List.mem_append_left _ hx)
    · refine hexact.texture_lt id t hid ht x (List.mem_append_right _ ?_)
      rw [hslopes]
      exact hx
  · have hexact : Catalogue.Exact 256 count ts := Catalogue.exact_history count ts
    exact ⟨hexact, fun id t hid ht => hexact.texture_lt id t hid ht _ (List.mem_singleton_self _)⟩

end VoxelScene
