import VoxelScene.Proofs.SettingsText
import VoxelScene.Settings.File

/-!
Settings on disk are kept as they are.

Settings are the same as their document, so a format that keeps documents keeps settings. What was
saved is loaded again; reloading tells settings apart exactly if they differ in some value; and once
there is a file of settings, neither loading nor reloading touches it.
-/

namespace VoxelScene

variable {s d : Settings} {p q : Place} {folder : String} {f : TextFormat}

/-! ### Documents of settings -/

theorem Settings.fits_shape (s : Settings) : s.sections.Fits shape := rfl

/-- No field is forgotten, and none is put in another's place. -/
theorem Settings.ofDocument_sections (s : Settings) : ofDocument s.sections = s := by
  simp only [ofDocument, sections, List.foldl_cons, List.foldl_nil, put, MeshingSection.put,
    LiquidSection.put, SpriteSection.put, WorkerSection.put, DebugSection.put]

/-- No field holds a NaN. -/
def Settings.IsNumeric (s : Settings) : Prop := ∀ x ∈ s.sections.singles, x.isNaN = false

theorem Settings.singles_eq (s : Settings) : s.sections.singles =
    [s.meshing.rampDepth, s.meshing.jitterAmplitude, s.liquid.puddleFoam, s.liquid.scale,
      s.sprites.sortInterval, s.sprites.cullDistance, s.sprites.depthPenalty] := rfl

/-! ### Equal settings -/

/-- Values are the same if they are equal, numbers as numbers. -/
def Setting.Same : Setting → Setting → Prop
  | .single a, .single b =>
    a.isNaN = false ∧ b.isNaN = false ∧ (a = b ∨ a.magnitude = 0 ∧ b.magnitude = 0)
  | x, y => x = y

def Settings.Same (s d : Settings) : Prop :=
  List.Forall₂ Setting.Same s.sections.values d.sections.values

theorem Settings.agrees_iff : s.agrees d = true ↔ s.Same d := by
  obtain ⟨m, l, b, ⟨threads, budget⟩, ⟨level, stats⟩⟩ := s
  obtain ⟨m', l', b', ⟨threads', budget'⟩, ⟨level', stats'⟩⟩ := d
  simp only [agrees, MeshingSection.agrees, LiquidSection.agrees, SpriteSection.agrees, Same,
    Document.values, sections, Bool.and_eq_true, beq_iff_eq, Single.beq_iff, List.flatMap_cons,
    List.flatMap_nil, List.map_cons, List.map_nil, List.cons_append, List.nil_append,
    List.forall₂_cons,
    Setting.Same, Setting.sizes.injEq, Setting.natural.injEq, Setting.mode.injEq,
    Setting.level.injEq, Setting.text.injEq, Setting.truth.injEq, WorkerSection.mk.injEq,
    DebugSection.mk.injEq, List.Forall₂.nil, and_true, and_assoc]

theorem Settings.IsNumeric.agrees (h : s.IsNumeric) : s.agrees s = true := by
  have hbeq : ∀ x ∈ s.sections.singles, x.beq x = true := fun x hx =>
    (Single.beq_iff x x).mpr ⟨h x hx, h x hx, .inl rfl⟩
  rw [singles_eq] at hbeq
  simp only [List.forall_mem_cons] at hbeq
  simp [Settings.agrees, MeshingSection.agrees, LiquidSection.agrees, SpriteSection.agrees, hbeq]

theorem Settings.isNumeric_default : ({} : Settings).IsNumeric := by
  rw [IsNumeric, singles_eq]
  decide +kernel

namespace Place

/-! ### The file -/

/-- The place of a file with these settings. -/
def holding (f : TextFormat) (s : Settings) : Place :=
  .folder (some (.file (f.write s.sections).toUTF8))

/-- A folder can be made here, and a file in it. -/
def Writable : Place → Prop
  | .absent | .folder none | .folder (some (.file _)) => True
  | .occupied | .folder (some .folder) => False

theorem save_eq_ok (hp : p.Writable) (folder : String) (s : Settings) :
    p.save f folder s = .ok (holding f s) := by
  unfold Writable at hp
  split at hp
  · rfl
  · rfl
  · rfl
  · exact hp.elim
  · exact hp.elim

theorem fromUTF8?_toUTF8 (u : String) : String.fromUTF8? u.toUTF8 = some u :=
  dif_pos u.isValidUTF8

theorem read_file {bytes : ByteArray} {u : String} {doc : Document}
    (hu : String.fromUTF8? bytes = some u) (hdoc : f.read? Settings.shape u = some doc)
    (folder : String) :
    (Place.folder (some (.file bytes))).read f folder = .ok (.ofDocument doc) := by
  unfold read
  dsimp only [Place.bytes]
  simp only [Except.mapError, bind, Except.bind, hu, hdoc]
  rfl

theorem read_holding (hf : f.Faithful Settings.shape) (h : s.IsNumeric) (folder : String) :
    (holding f s).read f folder = .ok s := by
  have hdoc := hf.read_write s.sections s.fits_shape h
  rw [holding, read_file (fromUTF8?_toUTF8 _) hdoc, Settings.ofDocument_sections]

theorem load_of_hasEntry (h : p.hasEntry = true) (folder : String) :
    p.load f folder = (p.read f folder, p) := by
  rw [load, if_pos h]

theorem load_of_not_hasEntry (hp : p.Writable) (h : p.hasEntry = false) (folder : String) :
    p.load f folder = (.ok {}, holding f {}) := by
  rw [load, if_neg (by rw [h]; decide), save_eq_ok hp]

theorem reload_holding (hf : f.Faithful Settings.shape) (h : s.IsNumeric) (folder : String)
    (d : Settings) :
    (holding f s).reload f folder d = .ok (if s.agrees d then none else some s) := by
  unfold reload
  rw [read_holding hf h]
  rfl

/-! ### Later uses -/

/-- What a program may do with the settings without saving any. -/
inductive Use where
  | load
  | reload (s : Settings)

def use (f : TextFormat) (folder : String) (p : Place) : Use → Place
  | .load => (p.load f folder).2
  | .reload _ => p

theorem use_of_hasEntry (h : p.hasEntry = true) (folder : String) (u : Use) :
    p.use f folder u = p := by
  cases u with
  | load => exact congrArg Prod.snd (load_of_hasEntry h folder)
  | reload s => rfl

theorem uses_of_hasEntry (h : p.hasEntry = true) (folder : String) (us : List Use) :
    us.foldl (use f folder) p = p := by
  induction us with
  | nil => rfl
  | cons u us ih => rw [List.foldl_cons, use_of_hasEntry h, ih]

/-- In a format that keeps documents, saved settings are found again as they were, after whatever
loads and reloads come between; and so are the default ones, which are saved where there were none.
An entry that is there is left as it is in any format, whatever it holds. -/
theorem settings_persist (f : TextFormat) (folder : String) (hf : f.Faithful Settings.shape)
    (h : s.IsNumeric) (hp : p.Writable) :
    (∃ q, p.save f folder s = .ok q ∧ (∀ us : List Use, us.foldl (use f folder) q = q) ∧
      q.load f folder = (.ok s, q) ∧ q.reload f folder s = .ok none ∧
      ∀ d, (s.Same d → q.reload f folder d = .ok none) ∧
        (¬ s.Same d → q.reload f folder d = .ok (some s))) ∧
    (p.hasEntry = false → ∃ q, p.load f folder = (.ok {}, q) ∧ q.hasEntry = true ∧
      ∀ us : List Use, (us.foldl (use f folder) q).load f folder = (.ok {}, q)) ∧
    ∀ (g : TextFormat) (q : Place), q.hasEntry = true →
      ∀ us : List Use, us.foldl (use g folder) q = q := by
  refine ⟨⟨holding f s, save_eq_ok hp folder s, uses_of_hasEntry rfl folder, ?_, ?_, fun d => ?_⟩,
    fun hnone => ⟨holding f {}, load_of_not_hasEntry hp hnone folder, rfl, fun us => ?_⟩,
    fun g q hq us => uses_of_hasEntry hq folder us⟩
  · rw [load_of_hasEntry rfl, read_holding hf h]
  · rw [reload_holding hf h, if_pos h.agrees]
  · rw [reload_holding hf h]
    exact ⟨fun hsame => by rw [if_pos (Settings.agrees_iff.mpr hsame)],
      fun hother => by rw [if_neg (mt Settings.agrees_iff.mp hother)]⟩
  · rw [uses_of_hasEntry rfl, load_of_hasEntry rfl, read_holding hf Settings.isNumeric_default]

/-- Settings with a text that needs escapes, a negative zero and an infinite number. -/
def unusual : Settings where
  meshing := { rampDepth := ⟨0x80000000⟩, viewMode := .sliced, viewLevel := some (-3) }
  liquid := { scale := .infinity }
  debug := { logLevel := "\"\\\n\u0301" }

theorem settings_persist_unusual : TextFormat.parenthesised.Faithful Settings.shape ∧
    unusual.IsNumeric ∧ Place.absent.Writable ∧
    ∃ q, Place.absent.save .parenthesised "strata" unusual = .ok q ∧
      q.load .parenthesised "strata" = (.ok unusual, q) ∧
      q.reload .parenthesised "strata" unusual = .ok none ∧
      q.reload .parenthesised "strata" {} = .ok (some unusual) := by
  have hformat : TextFormat.parenthesised.Faithful Settings.shape :=
    TextFormat.faithful_parenthesised (by decide)
  have hnumeric : unusual.IsNumeric := by
    rw [Settings.IsNumeric, Settings.singles_eq]
    decide +kernel
  have hother : ¬ unusual.Same {} := by
    rw [← Settings.agrees_iff]
    decide +kernel
  obtain ⟨⟨q, hsave, -, hload, hsame, hreload⟩, -⟩ :=
    settings_persist .parenthesised "strata" hformat hnumeric (p := .absent) trivial
  exact ⟨hformat, hnumeric, trivial, q, hsave, hload, hsame, (hreload {}).2 hother⟩

end Place

end VoxelScene
