import VoxelScene.Proofs.Readers
import VoxelScene.Settings.Format

/-!
Documents are read back from their text.

A record is written as a block of fields, one a line, and is taken back field by field: each field
has a reader of its own that takes exactly its text. So a section is read back if its values are, and
a document if its sections are.
-/

namespace VoxelScene

open SettingsText

/-! ### Blocks -/

def pad (depth : Nat) : List Char := List.replicate (4 * depth) ' '

theorem isBlank_pad (depth : Nat) : ∀ c ∈ pad depth, isBlank c = true := by
  intro c hc
  rw [List.eq_of_mem_replicate hc]
  rfl

/-- A field without the blanks in front of it and the comma behind. -/
def labelled (name value : List Char) : List Char := name ++ ':' :: ' ' :: value

theorem toList_field (depth : Nat) (name value : String) : (field depth name value).toList =
    pad depth ++ labelled name.toList value.toList ++ [',', '\n'] := by
  simp [field, indent, pad, labelled, String.toList_append, String.toList_ofList]

theorem toList_block (depth : Nat) (lines : List String) : (SettingsText.block depth lines).toList =
    '(' :: '\n' :: (lines.flatMap String.toList ++ pad depth ++ [')']) := by
  simp [SettingsText.block, indent, pad, String.toList_append, String.toList_ofList,
    String.toList_join]

namespace Reader

variable {α : Type} {rest : List Char}

/-- The text is taken by the reader and gives `x`. -/
structure Written {α : Type} (r : Reader α) (x : α) (text : String) : Prop where
  takes : r.Takes text.toList x
  opens : OpensItem text.toList

/-- A field of a record with its text and its reader. -/
structure FieldText (α : Type) where
  name : String
  text : String
  reader : Reader α
  value : α

structure FieldText.IsWritten (f : FieldText α) : Prop where
  isName : IsName f.name.toList
  written : Written f.reader f.value f.text

theorem entry_labelled {α β : Type} {key : Reader α} {value : α → Reader β} {name v : List Char}
    {k : α} {x : β}
    (hkey : key (name ++ ':' :: ' ' :: (v ++ rest)) = some (k, ':' :: ' ' :: (v ++ rest)))
    (hv : OpensItem v) (hvalue : value k (v ++ rest) = some (x, rest)) :
    entry key value (labelled name v ++ rest) = some (x, rest) := by
  have htext : labelled name v ++ rest = name ++ ':' :: ' ' :: (v ++ rest) := by simp [labelled]
  have hblank : blank (' ' :: (v ++ rest)) = some ((), v ++ rest) := by
    have hspace : ∀ c ∈ [' '], isBlank c = true := List.forall_mem_singleton.mpr rfl
    exact blank_append hspace (hv.opens rest)
  have hcolon : Opens (':' :: ' ' :: (v ++ rest)) := .cons rfl (by decide)
  unfold entry
  rw [htext, bind_of_eq hkey, bind_of_eq (blank_of_opens hcolon), bind_of_eq (sign_self ':' _),
    bind_of_eq hblank]
  exact hvalue

theorem lookup_of_mem {α β : Type} [BEq α] [LawfulBEq α] {l : List (α × β)} {a : α} {b : β}
    (hnodup : (l.map (·.1)).Nodup) (h : (a, b) ∈ l) : l.lookup a = some b := by
  induction l with
  | nil => simp at h
  | cons p l ih =>
    rw [List.map_cons, List.nodup_cons] at hnodup
    rcases List.mem_cons.mp h with rfl | h
    · simp
    · have hne : a ≠ p.1 := by
        rintro rfl
        exact hnodup.1 (List.mem_map.mpr ⟨_, h, rfl⟩)
      rw [List.lookup_cons, beq_false_of_ne hne]
      exact ih hnodup.2 h

theorem IsName.opensItem {name : List Char} (h : IsName name) (v : List Char) :
    OpensItem (labelled name v) := by
  obtain ⟨-, hstart, -⟩ := h
  cases name with
  | nil => simp at hstart
  | cons c name =>
    have hne : ∀ d : Char, d.isAlpha = false → c ≠ d := fun d => ne_of_test hstart
    refine .cons ?_ (hne '/' rfl) (hne ')' rfl)
    simp [isBlank, hne]

variable {fs : List (FieldText α)} {f : FieldText α}

/-- The readers of the fields, by name. -/
def readers (fs : List (FieldText α)) : List (String × Reader α) :=
  fs.map fun f => (f.name, f.reader)

theorem fieldOf_takes {m : ReadMode} {depth : Nat} (hnodup : (fs.map (·.name)).Nodup)
    (hf : f ∈ fs) (h : f.IsWritten) : (fieldOf m depth (readers fs)).Takes
      (labelled f.name.toList f.text.toList) (some (f.name, f.value)) := by
  intro rest hrest
  have hkey : identifier (f.name.toList ++ ':' :: ' ' :: (f.text.toList ++ rest)) = _ :=
    identifier_append h.isName rfl
  rw [String.ofList_toList] at hkey
  have hlookup : (readers fs).lookup f.name = some f.reader := by
    apply lookup_of_mem
    · rwa [readers, List.map_map]
    · exact List.mem_map.mpr ⟨f, hf, rfl⟩
  refine entry_labelled hkey h.written.opens ?_
  rw [hlookup]
  exact bind_of_eq (h.written.takes rest hrest)

theorem typeName_skip (name : String) (rest : List Char) :
    typeName {} name ('(' :: rest) = some ((), '(' :: rest) := by
  unfold typeName
  rw [bind_of_eq (peek?_eq _)]
  rfl

/-- A record is read back from its fields, one a line. -/
theorem record_written (name : String) (depth d : Nat) (hnodup : (fs.map (·.name)).Nodup)
    (h : ∀ f ∈ fs, f.IsWritten) : Written (record {} name depth (readers fs))
      (fs.map fun f => (f.name, f.value))
      (SettingsText.block d (fs.map fun f => field (d + 1) f.name f.text)) := by
  constructor
  · intro rest hrest
    have hlines :
        ∀ p ∈ fs.map fun f => (labelled f.name.toList f.text.toList, some (f.name, f.value)),
        (fieldOf {} depth (readers fs)).Takes p.1 p.2 ∧ OpensItem p.1 :=
      List.forall_mem_map.mpr fun f hf =>
        ⟨fieldOf_takes hnodup hf (h f hf), (h f hf).isName.opensItem _⟩
    have hitems := itemsUntil_block (isBlank_pad (d + 1)) (isBlank_pad d) hlines rest
    have htext : (SettingsText.block d (fs.map fun f => field (d + 1) f.name f.text)).toList ++
        rest = '(' :: (Reader.block (pad (d + 1)) (pad d)
          ((fs.map fun f => (labelled f.name.toList f.text.toList, some (f.name, f.value))).map
            (·.1)) ++ rest) := by
      simp [toList_block, Reader.block, lines, List.flatMap_map, toList_field]
    have hknown : ((fs.map fun f => (labelled f.name.toList f.text.toList,
        some (f.name, f.value))).map (·.2)).filterMap id = fs.map fun f => (f.name, f.value) := by
      simp [List.filterMap_map]
    have hnames : ((fs.map fun f => (f.name, f.value)).map (·.1)).Nodup := by
      rwa [List.map_map]
    unfold record
    rw [htext, bind_of_eq (typeName_skip name _), bind_of_eq (sign_self '(' _), bind_of_eq hitems,
      hknown, if_pos hnames]
    rfl
  · rw [toList_block]
    exact .cons rfl (by decide) (by decide)

/-! ### Values -/

theorem opensItem_digits {ds : List Char} (hne : ds ≠ []) (h : ∀ c ∈ ds, c.isDigit = true)
    (rest : List Char) : OpensItem (ds ++ rest) := by
  obtain ⟨c, tail, rfl⟩ := List.exists_cons_of_ne_nil hne
  have hc : ∀ d : Char, d.isDigit = false → c ≠ d := fun d => ne_of_test (h c List.mem_cons_self)
  refine .cons ?_ (hc '/' rfl) (hc ')' rfl)
  simp [isBlank, hc]

theorem natural_written (n : UInt32) : Written natural n (SettingsText.natural n) := by
  have htext : (SettingsText.natural n).toList = (toString (n.toNat : Int)).toList := by
    rw [SettingsText.natural, Nat.toString_eq_repr, Nat.toList_repr, toList_toString_int]
    simp
  have hholds : (IntegerType.unsigned 32).holds n.toNat = true := by
    have := n.toNat_lt
    simp [IntegerType.holds, IntegerType.unsigned]
    omega
  constructor
  · rw [htext]
    have := (integer_takes hholds rfl).map fun i : Int => UInt32.ofNat i.toNat
    rwa [Int.toNat_natCast, UInt32.ofNat_toNat] at this
  · rw [SettingsText.natural, Nat.toString_eq_repr, Nat.toList_repr,
      ← List.append_nil (Nat.toDigits _ _)]
    exact opensItem_digits Nat.toDigits_ne_nil (fun c => isDigit_toDigits) []

theorem single_written {x : Single} (h : x.isNaN = false) :
    Written single x (SettingsText.single x) := by
  have htext : (SettingsText.single x).toList = x.written.toList := by
    simp [SettingsText.single, h]
  constructor
  · rw [htext]
    exact fraction_takes h
  · rw [htext]
    obtain ⟨t, ht, hcases⟩ := Single.written_eq h
    rw [ht]
    split
    · exact .cons rfl (by decide) (by decide)
    · rcases hcases with ⟨rfl, -⟩ | ⟨s, rfl, -⟩
      · exact .cons rfl (by decide) (by decide)
      · exact opensItem_digits s.whole_ne s.isDigit_whole _

theorem truth_written (b : Bool) : Written truth b (SettingsText.truth b) := by
  refine ⟨truth_takes b, ?_⟩
  cases b <;> exact .cons rfl (by decide) (by decide)

theorem text_written (u : String) : Written text u (SettingsText.quoted u) := by
  rw [SettingsText.quoted]
  constructor
  · rw [String.toList_ofList]
    exact text_takes u
  · rw [String.toList_ofList]
    exact .cons rfl (by decide) (by decide)

theorem viewMode_written (v : ViewMode) : Written viewMode v v.name := by
  constructor
  · intro rest hrest
    have hend : rest.head?.any isRawRest = false := hrest.any_head rfl rfl
    unfold viewMode
    cases v with
    | full =>
      have hname : IsName "Full".toList := by decide
      rw [ViewMode.name, bind_of_eq (identifier_append hname hend)]
      rfl
    | sliced =>
      have hname : IsName "Sliced".toList := by decide
      rw [ViewMode.name, bind_of_eq (identifier_append hname hend)]
      rfl
  · cases v <;> exact .cons rfl (by decide) (by decide)

theorem signed_takes (n : Int32) :
    Takes (do return Int32.ofInt (← integer (.signed 32))) (toString n.toInt).toList n := by
  have hholds : (IntegerType.signed 32).holds n.toInt = true := by
    have := n.le_toInt
    have := n.toInt_lt
    simp [IntegerType.holds, IntegerType.signed]
    omega
  have := (integer_takes hholds rfl).map fun i : Int => Int32.ofInt i
  rwa [Int32.ofInt_toInt] at this

theorem someOf_takes {α : Type} {r bare : Reader α} {t : List Char} {x : α} (h : r.Takes t x)
    (ht : OpensItem t) (rest : List Char) :
    someOf {} r bare ('(' :: (t ++ ')' :: rest)) = some (x, rest) := by
  have hopen : Opens ('(' :: (t ++ ')' :: rest)) := .cons rfl (by decide)
  unfold someOf
  rw [bind_of_eq (blank_of_opens hopen), bind_of_eq (sign?_self '(' _), if_pos rfl,
    bind_of_eq (blank_of_opens (ht.opens _)), bind_of_eq (h _ (.close rest)),
    bind_of_eq (comma?_close rest), bind_of_eq (sign_self ')' rest)]
  rfl

theorem opensItem_toString (n : Int) : OpensItem (toString n).toList := by
  rw [toList_toString_int]
  split
  · rw [← List.append_nil (Nat.toDigits _ _)]
    exact opensItem_digits Nat.toDigits_ne_nil (fun c => isDigit_toDigits) []
  · exact .cons rfl (by decide) (by decide)

theorem level_written (n : Option Int32) : Written (level {}) n (SettingsText.level n) := by
  cases n with
  | none =>
    refine ⟨fun rest hrest => ?_, .cons rfl (by decide) (by decide)⟩
    have hnone : word? "None" ("None".toList ++ rest) = some (true, rest) :=
      word?_append (hrest.any_head rfl rfl)
    unfold level optional
    rw [SettingsText.level, bind_of_eq hnone]
    rfl
  | some n =>
    refine ⟨fun rest hrest => ?_, ?_⟩
    · have htext : (SettingsText.level (some n)).toList ++ rest =
          "Some".toList ++ '(' :: ((toString n.toInt).toList ++ ')' :: rest) := by
        simp [SettingsText.level, String.toList_append]
      unfold level optional
      rw [htext, bind_of_eq (word?_of_not_isPrefix rfl), if_neg (by decide),
        bind_of_eq (word?_append rfl), if_pos rfl,
        bind_of_eq (someOf_takes (signed_takes n) (opensItem_toString _) rest)]
      rfl
    · rw [SettingsText.level, String.toList_append, String.toList_append]
      exact .cons rfl (by decide) (by decide)

theorem sizes_written (s : ChunkSize) : Written sizes s (SettingsText.sizes s) := by
  constructor
  · intro rest hrest
    have hlines : ∀ p ∈ [s.x, s.y, s.z].map fun n => ((SettingsText.natural n).toList, n),
        natural.Takes p.1 p.2 ∧ OpensItem p.1 :=
      List.forall_mem_map.mpr fun n _ => ⟨(natural_written n).takes, (natural_written n).opens⟩
    have hitems := itemsUntil_block (isBlank_pad 3) (isBlank_pad 2) hlines rest
    have htext : (SettingsText.sizes s).toList ++ rest = '(' :: (Reader.block (pad 3) (pad 2)
        (([s.x, s.y, s.z].map fun n => ((SettingsText.natural n).toList, n)).map (·.1)) ++
          rest) := by
      simp [SettingsText.sizes, toList_block, Reader.block, lines, indent, pad,
        String.toList_append]
    unfold sizes
    rw [htext, bind_of_eq (sign_self '(' _), bind_of_eq hitems]
    rfl
  · rw [SettingsText.sizes, toList_block]
    exact .cons rfl (by decide) (by decide)

theorem Written.map {β : Type} {r : Reader α} {x : α} {text : String} (h : Written r x text)
    (g : α → β) : Written (do return g (← r)) (g x) text :=
  ⟨h.takes.map g, h.opens⟩

/-- Every value but NaN is read back by the reader for its kind. -/
theorem setting_written (x : Setting) (h : ∀ y, x.single? = some y → y.isNaN = false) :
    Written (setting {} x.kind) x x.toText := by
  cases x with
  | natural n => exact (natural_written n).map Setting.natural
  | single y => exact (single_written (h y rfl)).map Setting.single
  | truth b => exact (truth_written b).map Setting.truth
  | text u => exact (text_written u).map Setting.text
  | level n => exact (level_written n).map Setting.level
  | mode v => exact (viewMode_written v).map Setting.mode
  | sizes c => exact (sizes_written c).map Setting.sizes

/-! ### Sections and documents -/

/-- All names can be told apart and stand for themselves. -/
def AreNames (names : List String) : Prop := names.Nodup ∧ ∀ n ∈ names, IsName n.toList

instance (names : List String) : Decidable (AreNames names) :=
  inferInstanceAs (Decidable (_ ∧ _))

/-- A section is read back from its fields. -/
theorem sectionOf_written {c : SectionShape} {fields : List (String × Setting)}
    (hkinds : fields.map (fun f => (f.1, f.2.kind)) = c.fields)
    (hnames : AreNames (c.fields.map (·.1)))
    (hnumeric : ∀ f ∈ fields, ∀ y, f.2.single? = some y → y.isNaN = false) :
    Written (sectionOf {} c) fields (SettingsText.fields fields) := by
  let texts : List (FieldText Setting) := fields.map fun f =>
    ⟨f.1, f.2.toText, setting {} f.2.kind, f.2⟩
  have hreaders : readers texts = c.fields.map fun f => (f.1, setting {} f.2) := by
    rw [← hkinds, readers, List.map_map, List.map_map]
    rfl
  have hvalues : (texts.map fun f => (f.name, f.value)) = fields := by
    simp [texts, Function.comp_def]
  have hnodup : texts.map (·.name) = c.fields.map (·.1) := by
    rw [← hkinds, List.map_map, List.map_map]
    rfl
  have hwritten : ∀ f ∈ texts, f.IsWritten := by
    refine List.forall_mem_map.mpr fun f hf => ⟨?_, setting_written f.2 (hnumeric f hf)⟩
    refine hnames.2 f.1 ?_
    rw [← hkinds, List.map_map]
    exact List.mem_map.mpr ⟨f, hf, rfl⟩
  have h := record_written c.type 124 1 (hnodup ▸ hnames.1) hwritten
  rw [hreaders, hvalues, List.map_map] at h
  exact h

end Reader

/-- The names of a shape can be told apart and stand for themselves. -/
def Shape.WellNamed (shape : Shape) : Prop :=
  Reader.AreNames (shape.sections.map (·.name)) ∧
    ∀ c ∈ shape.sections, Reader.AreNames (c.fields.map (·.1))

instance (shape : Shape) : Decidable shape.WellNamed := inferInstanceAs (Decidable (_ ∧ _))

namespace Document

variable {doc : Document} {shape : Shape}

open Reader

/-- Section by section, the text of a document is the text of its fields. -/
theorem exists_fieldTexts {cs : List SectionShape}
    (hfits : doc.map (fun p => (p.1, p.2.map fun f => (f.1, f.2.kind))) =
      cs.map fun c => (c.name, c.fields))
    (hnames : ∀ c ∈ cs, IsName c.name.toList ∧ AreNames (c.fields.map (·.1)))
    (hnumeric : ∀ x ∈ doc.singles, x.isNaN = false) :
    ∃ texts : List (FieldText (List (String × Setting))),
      readers texts = cs.map (fun c => (c.name, sectionOf {} c)) ∧
      (texts.map fun f => (f.name, f.value)) = doc ∧
      (texts.map fun f => field 1 f.name f.text) =
        (doc.map fun p => field 1 p.1 (SettingsText.fields p.2)) ∧ ∀ f ∈ texts, f.IsWritten := by
  induction doc generalizing cs with
  | nil =>
    cases cs with
    | nil => exact ⟨[], rfl, rfl, rfl, by simp⟩
    | cons c cs => cases hfits
  | cons p doc ih =>
    cases cs with
    | nil => cases hfits
    | cons c cs =>
      obtain ⟨hhead, htail⟩ := List.cons.inj hfits
      obtain ⟨hname, hkinds⟩ := Prod.mk.inj hhead
      have hsingles : singles (p :: doc) = (p.2.map (·.2)).filterMap Setting.single? ++
          singles doc := by
        simp [singles, values]
      rw [hsingles] at hnumeric
      obtain ⟨texts, hreaders, hvalues, hlines, hwritten⟩ := ih htail
        (fun c' hc' => hnames c' (List.mem_cons_of_mem _ hc'))
        (fun x hx => hnumeric x (List.mem_append_right _ hx))
      obtain ⟨hisName, hfields⟩ := hnames c (List.mem_cons_self ..)
      have hsection : Written (sectionOf {} c) p.2 (SettingsText.fields p.2) := by
        refine sectionOf_written hkinds hfields fun f hf y hy => hnumeric y ?_
        refine List.mem_append_left _ (List.mem_filterMap.mpr ⟨f.2, ?_, hy⟩)
        exact List.mem_map.mpr ⟨f, hf, rfl⟩
      refine ⟨⟨p.1, SettingsText.fields p.2, sectionOf {} c, p.2⟩ :: texts, ?_, ?_, ?_, ?_⟩
      · rw [List.map_cons, ← hreaders, ← hname]
        rfl
      · rw [List.map_cons, hvalues]
      · rw [List.map_cons, List.map_cons, hlines]
      · refine List.forall_mem_cons.mpr ⟨⟨?_, hsection⟩, hwritten⟩
        rw [hname]
        exact hisName

theorem headers_toText (doc : Document) (fuel : Nat) :
    headers fuel {} doc.toText.toList = some ({}, doc.toText.toList) := by
  cases fuel with
  | zero => rfl
  | succ fuel =>
    rw [toText, toList_block]
    rfl

end Document

open Reader in
/-- Text in parentheses keeps documents of any shape with proper names. -/
theorem TextFormat.faithful_parenthesised {shape : Shape} (h : shape.WellNamed) :
    TextFormat.parenthesised.Faithful shape where
  read_write doc hfits hnumeric := by
    obtain ⟨texts, hreaders, hvalues, hlines, hwritten⟩ := doc.exists_fieldTexts hfits
      (fun c hc => ⟨h.1.2 c.name (List.mem_map.mpr ⟨c, hc, rfl⟩), h.2 c hc⟩) hnumeric
    have hnodup : (texts.map (·.name)).Nodup := by
      have hnames : (readers texts).map (·.1) = shape.sections.map (·.name) := by
        rw [hreaders, List.map_map]
        rfl
      rw [readers, List.map_map] at hnames
      exact hnames ▸ h.1.1
    have hrecord := record_written shape.type 126 0 hnodup hwritten
    rw [hreaders, hvalues, hlines] at hrecord
    change Written _ doc doc.toText at hrecord
    have htaken := hrecord.takes [] .nil
    have hopens := hrecord.opens.opens []
    rw [List.append_nil] at htaken hopens
    have hdocument : document shape doc.toText.toList = some (doc, []) := by
      unfold document
      rw [bind_of_eq (blank_of_opens hopens), bind_of_eq (get_eq _),
        bind_of_eq (doc.headers_toText _), bind_of_eq htaken]
      rfl
    show (document shape doc.toText.toList).map (·.1) = some doc
    rw [hdocument]
    rfl

end VoxelScene
