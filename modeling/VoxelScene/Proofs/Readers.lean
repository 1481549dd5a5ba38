import VoxelScene.Proofs.NumberText
import VoxelScene.Proofs.QuotedText
import VoxelScene.Text.Scalar

/-!
What the readers take of a written text.

A value is followed by a comma or a closing parenthesis, neither of which can go on with a number, a
word or a name. So each reader takes exactly what was written, whatever comes behind; and a list of
lines is taken item by item, with the blanks around them.
-/

namespace VoxelScene.Reader

variable {α β : Type} {cs rest t : List Char} {x : α} {s : String}

/-! ### What a reader takes -/

/-- What may stand behind a value: nothing, a comma or a closing parenthesis. -/
inductive Ends : List Char → Prop where
  | nil : Ends []
  | comma (rest : List Char) : Ends (',' :: rest)
  | close (rest : List Char) : Ends (')' :: rest)

/-- The reader takes the text in front of whatever may stand behind a value, and gives `x`. -/
def Takes (r : Reader α) (t : List Char) (x : α) : Prop :=
  ∀ rest, Ends rest → r (t ++ rest) = some (x, rest)

theorem Ends.any_head (h : Ends rest) {p : Char → Bool} (hcomma : p ',' = false)
    (hclose : p ')' = false) : rest.head?.any p = false := by
  cases h with
  | nil => rfl
  | comma rest => exact hcomma
  | close rest => exact hclose

theorem ne_of_test {p : Char → Bool} {c d : Char} (hc : p c = true) (hd : p d = false) : c ≠ d := by
  rintro rfl
  exact Bool.false_ne_true (hd.symm.trans hc)

theorem bind_of_eq {r : Reader α} {f : α → Reader β} (h : r cs = some (x, rest)) :
    (r >>= f) cs = f x rest := by
  show (r cs).bind (fun p => f p.1 p.2) = _
  rw [h]
  rfl

theorem Takes.map {r : Reader α} (h : r.Takes t x) (f : α → β) :
    Takes (do return f (← r)) t (f x) :=
  fun rest hrest => bind_of_eq (h rest hrest)

theorem get_eq (cs : List Char) : (get : Reader (List Char)) cs = some (cs, cs) := rfl

theorem peek?_eq (cs : List Char) : peek? cs = some (cs.head?, cs) := rfl

theorem sign?_self (c : Char) (rest : List Char) : sign? c (c :: rest) = some (true, rest) :=
  if_pos rfl

theorem sign?_of_ne {c : Char} (h : cs.head? ≠ some c) : sign? c cs = some (false, cs) := by
  cases cs with
  | nil => rfl
  | cons d rest => exact if_neg fun hd => h (congrArg some hd)

theorem sign_self (c : Char) (rest : List Char) : sign c (c :: rest) = some ((), rest) :=
  bind_of_eq (sign?_self c rest)

/-! ### Blanks -/

/-- The text starts with neither a blank nor a comment. -/
inductive Opens : List Char → Prop where
  | nil : Opens []
  | cons {c : Char} {rest : List Char} (not_blank : isBlank c = false) (ne_slash : c ≠ '/') :
    Opens (c :: rest)

theorem Ends.opens (h : Ends rest) : Opens rest := by
  cases h with
  | nil => exact .nil
  | comma rest => exact .cons rfl (by decide)
  | close rest => exact .cons rfl (by decide)

theorem blank_append {bs : List Char} (hb : ∀ c ∈ bs, isBlank c = true) (h : Opens cs) :
    blank (bs ++ cs) = some ((), cs) := by
  have hdrop : (bs ++ cs).dropWhile isBlank = cs := by
    rw [List.dropWhile_append_of_pos hb]
    cases h with
    | nil => rfl
    | cons hblank _ => exact List.dropWhile_cons_of_neg (by simp [hblank])
  have hafter : ∀ fuel, afterBlank fuel (bs ++ cs) = some cs := by
    intro fuel
    unfold afterBlank
    rw [hdrop]
    cases h with
    | nil => rfl
    | cons _ hslash => split <;> simp_all
  unfold blank
  rw [hafter]
  rfl

theorem blank_of_opens (h : Opens cs) : blank cs = some ((), cs) :=
  blank_append (List.forall_mem_nil _) h

/-! ### Words -/

theorem word?_append (h : rest.head?.any isIdentifierRest = false) :
    word? s (s.toList ++ rest) = some (true, rest) := by
  unfold word?
  have hdrop : (s.toList ++ rest).drop s.length = rest := by
    rw [← String.length_toList, List.drop_left]
  have hpre : s.toList.isPrefixOf (s.toList ++ rest) = true :=
    List.isPrefixOf_iff_prefix.mpr (List.prefix_append ..)
  simp [hdrop, hpre, h]

theorem word?_of_not_isPrefix (h : s.toList.isPrefixOf cs = false) :
    word? s cs = some (false, cs) := by
  unfold word?
  simp [h]

theorem Ends.not_isPrefixOf (h : Ends rest)
    (hs : s.toList.head?.any (fun c => c != ',' && c != ')') = true) :
    s.toList.isPrefixOf rest = false := by
  cases hlist : s.toList with
  | nil => simp [hlist] at hs
  | cons c tail =>
    simp only [hlist, List.head?_cons, Option.any_some, Bool.and_eq_true, bne_iff_ne] at hs
    cases h with
    | nil => rfl
    | comma rest => simp [List.isPrefixOf, hs.1]
    | close rest => simp [List.isPrefixOf, hs.2]

/-! ### Names -/

/-- A name that starts no quoted text, whatever follows. -/
def IsName (name : List Char) : Prop :=
  3 ≤ name.length ∧ name.head?.any Char.isAlpha = true ∧ name.all isIdentifierRest = true

instance (name : List Char) : Decidable (IsName name) :=
  inferInstanceAs (Decidable (_ ∧ _ ∧ _))

theorem isIdentifierStart_of_isAlpha {c : Char} (h : c.isAlpha = true) :
    isIdentifierStart c = true := by
  have hlt : c.toNat < 128 := by
    obtain hupper | hlower := Bool.or_eq_true_iff.mp h
    · have hle : c.val ≤ 'Z'.val :=
        (of_decide_eq_true (p := 'A'.val ≤ c.val ∧ c.val ≤ 'Z'.val) hupper).2
      exact Nat.lt_of_le_of_lt (UInt32.le_iff_toNat_le.mp hle) (by decide)
    · have hle : c.val ≤ 'z'.val := of_decide_eq_true (Bool.and_eq_true_iff.mp hlower).2
      exact Nat.lt_of_le_of_lt (UInt32.le_iff_toNat_le.mp hle) (by decide)
  rw [isIdentifierStart, if_pos hlt, h]
  rfl

theorem startsQuoted_append {name : List Char} (hlength : 3 ≤ name.length)
    (hall : name.all isIdentifierRest = true) (rest : List Char) :
    startsQuoted (name ++ rest) = false := by
  obtain ⟨a, b, c, tail, rfl⟩ : ∃ a b c tail, name = a :: b :: c :: tail := by
    match name, hlength with
    | a :: b :: c :: tail, _ => exact ⟨a, b, c, tail, rfl⟩
  simp only [List.all_cons, Bool.and_eq_true] at hall
  obtain ⟨-, hb, hc, -⟩ := hall
  have hne (d e : Char) (hd : isIdentifierRest d = true) (he : isIdentifierRest e = false) :
      e ≠ d := (ne_of_test hd he).symm
  -- Each beginning of a quoted text has a sign among its second and third characters.
  simp [startsQuoted, List.isPrefixOf, hne b '"' hb rfl, hne b '\'' hb rfl, hne b '#' hb rfl,
    hne c '#' hc rfl, hne c '"' hc rfl]

theorem takeWhile_isIdentifierRest {name : List Char} (hall : name.all isIdentifierRest = true)
    (hrest : rest.head?.any isRawRest = false) :
    (name ++ rest).takeWhile isIdentifierRest = name := by
  rw [List.takeWhile_append_of_pos (List.all_eq_true.mp hall)]
  cases rest with
  | nil => exact List.append_nil _
  | cons c rest =>
    simp only [List.head?_cons, Option.any_some, isRawRest, Bool.or_eq_false_iff] at hrest
    simp [hrest.2]

theorem identifier_append {name : List Char} (h : IsName name)
    (hrest : rest.head?.any isRawRest = false) :
    identifier (name ++ rest) = some (String.ofList name, rest) := by
  obtain ⟨hlength, hstart, hall⟩ := h
  have hquoted := startsQuoted_append hlength hall rest
  have hname : identifier? (name ++ rest) = some (some (String.ofList name), rest) := by
    obtain ⟨a, tail, rfl⟩ := List.exists_cons_of_length_pos (Nat.lt_of_lt_of_le (by decide) hlength)
    simp only [List.head?_cons, Option.any_some, List.all_cons, Bool.and_eq_true] at hstart hall
    have hraw : ∀ more, tail ++ rest ≠ '#' :: more := by
      cases tail with
      | nil => simp at hlength
      | cons b tail =>
        simp only [List.all_cons, Bool.and_eq_true] at hall
        rintro more heq
        obtain ⟨rfl, -⟩ := List.cons.inj heq
        exact absurd hall.2.1 (by decide)
    rw [List.cons_append] at hquoted ⊢
    unfold identifier?
    rw [if_neg (by simp [hquoted])]
    split
    · rename_i more heq
      exact absurd (List.cons.inj heq).2 (hraw more)
    · rename_i d more _ heq
      obtain ⟨rfl, rfl⟩ := List.cons.inj heq
      rw [if_pos (isIdentifierStart_of_isAlpha hstart)]
      dsimp only
      rw [takeWhile_isIdentifierRest hall.2 hrest, List.drop_left]
    · simp_all
  unfold identifier
  rw [bind_of_eq hname]
  dsimp only
  rw [bind_of_eq (peek?_eq rest), hrest]
  rfl

/-! ### Lists -/

theorem comma?_comma {cs' : List Char} (h : blank rest = some ((), cs')) :
    comma? (',' :: rest) = some (true, cs') := by
  unfold comma?
  rw [bind_of_eq (blank_of_opens (Ends.comma rest).opens), bind_of_eq (sign?_self ',' rest)]
  exact bind_of_eq h

theorem comma?_close (rest : List Char) : comma? (')' :: rest) = some (false, ')' :: rest) := by
  unfold comma?
  rw [bind_of_eq (blank_of_opens (Ends.close rest).opens), bind_of_eq (sign?_of_ne (by simp))]
  rfl

/-- Lines of a block: each item stands behind blanks and is followed by a comma and a line end. -/
def lines (pad : List Char) (ts : List (List Char)) : List Char :=
  ts.flatMap fun t => pad ++ t ++ [',', '\n']

/-- What an item of a list may start with. -/
inductive OpensItem : List Char → Prop where
  | cons {c : Char} {rest : List Char} (not_blank : isBlank c = false) (ne_slash : c ≠ '/')
    (ne_close : c ≠ ')') : OpensItem (c :: rest)

theorem OpensItem.opens (h : OpensItem t) (rest : List Char) : Opens (t ++ rest) := by
  cases h with
  | cons hblank hslash _ => exact .cons hblank hslash

theorem items_close {item : Reader α} {fuel : Nat} (h : blank cs = some ((), ')' :: rest)) :
    items item ')' (fuel + 1) cs = some ([], ')' :: rest) := by
  unfold items
  rw [bind_of_eq h, bind_of_eq (peek?_eq _)]
  rfl

theorem items_comma {item : Reader α} {fuel : Nat} {cs' last : List Char} {xs : List α}
    (hitem : item.Takes t x) (ht : OpensItem t) (h : blank cs = some ((), t ++ ',' :: rest))
    (hrest : blank rest = some ((), cs')) (hmore : items item ')' fuel cs' = some (xs, last)) :
    items item ')' (fuel + 1) cs = some (x :: xs, last) := by
  have hpeek : (t ++ ',' :: rest).head? ≠ some ')' := by
    cases ht with
    | cons _ _ hclose => simpa using hclose
  unfold items
  rw [bind_of_eq h, bind_of_eq (peek?_eq _),
    if_neg hpeek, bind_of_eq (hitem _ (.comma rest)), bind_of_eq (comma?_comma hrest), if_pos rfl,
    bind_of_eq hmore]
  rfl

/-- The items of a block are taken line by line. -/
theorem items_lines {item : Reader α} {pad close : List Char} {ts : List (List Char × α)}
    (hpad : ∀ c ∈ pad, isBlank c = true) (hclose : ∀ c ∈ close, isBlank c = true)
    (h : ∀ p ∈ ts, item.Takes p.1 p.2 ∧ OpensItem p.1) (rest : List Char) :
    ∃ cs, (∀ bs : List Char, (∀ c ∈ bs, isBlank c = true) →
        blank (bs ++ (lines pad (ts.map (·.1)) ++ close ++ ')' :: rest)) = some ((), cs)) ∧
      blank cs = some ((), cs) ∧
      ∀ fuel, ts.length < fuel → items item ')' fuel cs = some (ts.map (·.2), ')' :: rest) := by
  induction ts with
  | nil =>
    have hopens := (Ends.close rest).opens
    refine ⟨')' :: rest, fun bs hbs => ?_, blank_of_opens hopens, fun fuel hfuel => ?_⟩
    · rw [List.map_nil, lines, List.flatMap_nil, List.nil_append, ← List.append_assoc]
      exact blank_append (List.forall_mem_append.mpr ⟨hbs, hclose⟩) hopens
    · obtain ⟨fuel, rfl⟩ := Nat.exists_eq_succ_of_ne_zero (Nat.ne_of_gt hfuel)
      exact items_close (blank_of_opens hopens)
  | cons p ts ih =>
    obtain ⟨hp, hts⟩ := List.forall_mem_cons.mp h
    obtain ⟨cs, hblank, -, hitems⟩ := ih hts
    -- After the comma the blanks in front of the next line are skipped as well.
    have hopens := hp.2.opens (',' :: '\n' :: (lines pad (ts.map (·.1)) ++ close ++ ')' :: rest))
    refine ⟨_, fun bs hbs => ?_, blank_of_opens hopens, fun fuel hfuel => ?_⟩
    · rw [← blank_append (List.forall_mem_append.mpr ⟨hbs, hpad⟩) hopens]
      congr 1
      simp [lines]
    · obtain ⟨fuel, rfl⟩ := Nat.exists_eq_succ_of_ne_zero
        (Nat.ne_of_gt (Nat.lt_of_le_of_lt (Nat.zero_le _) hfuel))
      exact items_comma hp.1 hp.2 (blank_of_opens hopens)
        (hblank ['\n'] (List.forall_mem_singleton.mpr rfl))
        (hitems fuel (Nat.lt_of_succ_lt_succ hfuel))

/-- A block: an opening parenthesis, the lines and a closing parenthesis. -/
def block (pad close : List Char) (ts : List (List Char)) : List Char :=
  '\n' :: (lines pad ts ++ close ++ [')'])

theorem length_lines (pad : List Char) (ts : List (List Char)) :
    ts.length ≤ (lines pad ts).length := by
  induction ts with
  | nil => exact Nat.le_refl 0
  | cons t ts ih =>
    unfold lines at *
    simp only [List.flatMap_cons, List.length_append, List.length_cons]
    omega

theorem items_congr {item : Reader α} {close : Char} {fuel : Nat} {cs' : List Char}
    (h : blank cs = blank cs') : items item close fuel cs = items item close fuel cs' := by
  cases fuel with
  | zero => rfl
  | succ fuel =>
    unfold items
    show (blank cs).bind _ = (blank cs').bind _
    rw [h]

theorem itemsUntil_block {item : Reader α} {pad close : List Char} {ts : List (List Char × α)}
    (hpad : ∀ c ∈ pad, isBlank c = true) (hclose : ∀ c ∈ close, isBlank c = true)
    (h : ∀ p ∈ ts, item.Takes p.1 p.2 ∧ OpensItem p.1) (rest : List Char) :
    itemsUntil item ')' (block pad close (ts.map (·.1)) ++ rest) = some (ts.map (·.2), rest) := by
  obtain ⟨cs, hblank, hself, hitems⟩ := items_lines hpad hclose h rest
  have hblock : block pad close (ts.map (·.1)) ++ rest =
      ['\n'] ++ (lines pad (ts.map (·.1)) ++ close ++ ')' :: rest) := by
    simp [block]
  have hfuel : ts.length < (block pad close (ts.map (·.1)) ++ rest).length + 1 := by
    have := length_lines pad (ts.map (·.1))
    simp only [block, List.length_cons, List.length_append, List.length_map] at this ⊢
    omega
  have htaken : items item ')' ((block pad close (ts.map (·.1)) ++ rest).length + 1)
      (block pad close (ts.map (·.1)) ++ rest) = some (ts.map (·.2), ')' :: rest) := by
    rw [← hitems _ hfuel]
    apply items_congr
    rw [hself, hblock]
    exact hblank ['\n'] (List.forall_mem_singleton.mpr rfl)
  unfold itemsUntil
  rw [bind_of_eq (get_eq _), bind_of_eq htaken, bind_of_eq (blank_of_opens (Ends.close rest).opens),
    bind_of_eq (sign_self ')' rest)]
  rfl

/-! ### Integers -/

theorem isDigit_iff {c : Char} : c.isDigit = true ↔ '0' ≤ c ∧ c ≤ '9' := by
  simp only [Char.isDigit, Bool.and_eq_true, decide_eq_true_eq]
  rfl

theorem hexValue?_isDigit {c : Char} (h : c.isDigit = true) :
    Quoted.hexValue? c = some (c.toNat - 48) :=
  if_pos (isDigit_iff.mp h)

theorem toNat_sub_lt {c : Char} (h : c.isDigit = true) : c.toNat - 48 < 10 := by
  have hle : c.toNat ≤ 57 := UInt32.le_iff_toNat_le.mp (isDigit_iff.mp h).2
  omega

theorem foldlM_digits {ds : List Char} (h : ∀ c ∈ ds, c.isDigit = true) (n : Nat) :
    (ds.foldlM (fun n c => do
      let d ← Quoted.hexValue? c
      if d < 10 then some (10 * n + d) else none) n : Option Nat) =
    some (ds.foldl (fun n c => 10 * n + (c.toNat - 48)) n) := by
  induction ds generalizing n with
  | nil => rfl
  | cons c ds ih =>
    obtain ⟨hc, hds⟩ := List.forall_mem_cons.mp h
    rw [List.foldlM_cons, hexValue?_isDigit hc]
    show (if c.toNat - 48 < 10 then some (10 * n + (c.toNat - 48)) else none).bind _ = _
    rw [if_pos (toNat_sub_lt hc)]
    exact ih hds _

theorem digitsIn?_ten {ds : List Char} (hne : ds ≠ []) (h : ∀ c ∈ ds, c.isDigit = true) :
    digitsIn? 10 ds = some (Single.digitsValue ds) := by
  have hunderscore : ∀ c ∈ ds, (c != '_') = true := by
    intro c hc
    rw [bne_iff_ne]
    rintro rfl
    exact absurd (h _ hc) (by decide)
  have hhead : ds.head? ≠ some '_' := fun hd =>
    absurd (hunderscore '_' (List.mem_of_mem_head? hd)) (by decide)
  unfold digitsIn?
  rw [if_neg (by simp [hne, hhead]), List.filter_eq_self.mpr hunderscore]
  exact foldlM_digits h 0

theorem not_isPrefixOf_digits {ds : List Char} {m : Char} (hne : ds ≠ [])
    (h : ∀ c ∈ ds, c.isDigit = true) (hrest : Ends rest) (hm : m.isDigit = false) (hcomma : m ≠ ',')
    (hclose : m ≠ ')') : List.isPrefixOf ['0', m] (ds ++ rest) = false := by
  match ds, hne with
  | [c], _ =>
    cases hrest with
    | nil => simp [List.isPrefixOf]
    | comma rest => simp [List.isPrefixOf, hcomma]
    | close rest => simp [List.isPrefixOf, hclose]
  | c :: d :: ds, _ =>
    have hd : m ≠ d := (ne_of_test (h d (by simp)) hm).symm
    simp [List.isPrefixOf, hd]

theorem letters?_of_not_isPrefix (h : s.toList.isPrefixOf cs = false) :
    letters? s cs = some (false, cs) := by
  simp [letters?, h]

theorem base_digits {ds : List Char} (hne : ds ≠ []) (h : ∀ c ∈ ds, c.isDigit = true)
    (hrest : Ends rest) : base (ds ++ rest) = some (10, ds ++ rest) := by
  have hb : List.isPrefixOf "0b".toList (ds ++ rest) = false :=
    not_isPrefixOf_digits hne h hrest (by decide) (by decide) (by decide)
  have ho : List.isPrefixOf "0o".toList (ds ++ rest) = false :=
    not_isPrefixOf_digits hne h hrest (by decide) (by decide) (by decide)
  have hx : List.isPrefixOf "0x".toList (ds ++ rest) = false :=
    not_isPrefixOf_digits hne h hrest (by decide) (by decide) (by decide)
  unfold base
  rw [bind_of_eq (letters?_of_not_isPrefix hb), if_neg (by decide),
    bind_of_eq (letters?_of_not_isPrefix ho), if_neg (by decide),
    bind_of_eq (letters?_of_not_isPrefix hx), if_neg (by decide)]
  rfl

theorem run_append {test : Char → Bool} (h : ∀ c ∈ t, test c = true)
    (hrest : rest.head?.any test = false) : run test (t ++ rest) = some (t, rest) := by
  have htake : (t ++ rest).takeWhile test = t := by
    rw [List.takeWhile_append_of_pos h]
    cases rest with
    | nil => exact List.append_nil _
    | cons c rest =>
      rw [List.takeWhile_cons_of_neg (by simpa using hrest), List.append_nil]
  unfold run
  dsimp only
  rw [htake, List.drop_left]

theorem minus?_digits {ds : List Char} (hne : ds ≠ []) (h : ∀ c ∈ ds, c.isDigit = true) :
    minus? (ds ++ rest) = some (false, ds ++ rest) ∧
      minus? ('-' :: (ds ++ rest)) = some (true, ds ++ rest) := by
  obtain ⟨c, ds, rfl⟩ := List.exists_cons_of_ne_nil hne
  have hsign : ∀ m : Char, m.isDigit = false → (c :: ds ++ rest).head? ≠ some m := by
    intro m hm heq
    exact ne_of_test (h c List.mem_cons_self) hm (Option.some.inj heq)
  unfold minus?
  constructor
  · rw [bind_of_eq (sign?_of_ne (hsign '+' rfl)), if_neg (by decide)]
    exact sign?_of_ne (hsign '-' rfl)
  · rw [bind_of_eq (sign?_of_ne (by simp)), if_neg (by decide)]
    exact sign?_self '-' _

theorem plainInteger_takes (n : Int) : plainInteger.Takes (toString n).toList n := by
  intro rest hrest
  have hne : ∀ k : Nat, Nat.toDigits 10 k ≠ [] := fun _ => Nat.toDigits_ne_nil
  have hdigit : ∀ k : Nat, ∀ c ∈ Nat.toDigits 10 k, c.isDigit = true := fun _ _ => isDigit_toDigits
  have hsigns : ∀ k : Nat, run isDigitSign (Nat.toDigits 10 k ++ rest) =
      some (Nat.toDigits 10 k, rest) := by
    intro k
    refine run_append (fun c hc => ?_) (hrest.any_head rfl rfl)
    simp [isDigitSign, hexValue?_isDigit (hdigit k c hc)]
  have hvalue : ∀ k : Nat, digitsIn? 10 (Nat.toDigits 10 k) = some k := by
    intro k
    rw [digitsIn?_ten (hne k) (hdigit k), Single.digitsValue_toDigits]
  rw [toList_toString_int]
  unfold plainInteger
  split
  · rw [bind_of_eq (minus?_digits (hne _) (hdigit _)).1,
      bind_of_eq (base_digits (hne _) (hdigit _) hrest),
      bind_of_eq (hsigns _), hvalue]
    show some (((n.toNat : Nat) : Int), rest) = _
    congr 2
    omega
  · rw [List.cons_append, bind_of_eq (minus?_digits (hne _) (hdigit _)).2,
      bind_of_eq (base_digits (hne _) (hdigit _) hrest), bind_of_eq (hsigns _), hvalue]
    show some (-((-n).toNat : Int), rest) = _
    congr 2
    omega

theorem integer_takes {τ : IntegerType} {n : Int} (h : τ.holds n = true)
    (hsuffix : τ.suffix.toList.head?.any (fun c => c != ',' && c != ')') = true) :
    (integer τ).Takes (toString n).toList n := by
  intro rest hrest
  unfold integer
  rw [bind_of_eq (plainInteger_takes n rest hrest),
    bind_of_eq (word?_of_not_isPrefix (hrest.not_isPrefixOf hsuffix)), if_pos h]
  rfl

/-! ### Fractions -/

theorem fractionSigns_cons {c : Char} (h : isFractionSign c = true) (hc : c ≠ '.')
    (cs : List Char) : fractionSigns (c :: cs) = c :: fractionSigns cs := by
  rw [fractionSigns]
  · rw [if_pos h]
  · exact fun _ h _ => hc h

theorem fractionSigns_append (h : ∀ c ∈ t, isFractionSign c = true ∧ c ≠ '.') (cs : List Char) :
    fractionSigns (t ++ cs) = t ++ fractionSigns cs := by
  induction t with
  | nil => rfl
  | cons c t ih =>
    obtain ⟨hc, ht⟩ := List.forall_mem_cons.mp h
    rw [List.cons_append, fractionSigns_cons hc.1 hc.2, ih ht]
    rfl

theorem fractionSigns_point {c : Char} (hc : c ≠ '.') (cs : List Char) :
    fractionSigns ('.' :: c :: cs) = '.' :: fractionSigns (c :: cs) := by
  rw [fractionSigns]
  · rfl
  · rintro _ - heq
    exact hc (List.cons.inj heq).1

theorem Ends.fractionSigns (h : Ends rest) : fractionSigns rest = [] := by
  cases h <;> rfl

theorem isFractionSign_digit {c : Char} (h : c.isDigit = true) :
    isFractionSign c = true ∧ c ≠ '.' := by
  refine ⟨by simp [isFractionSign, h], ?_⟩
  rintro rfl
  exact absurd h (by decide)

theorem isFractionSign_mark (e : Option Int) :
    ∀ c ∈ Single.Spelling.mark e, isFractionSign c = true ∧ c ≠ '.' := by
  intro c hc
  rcases Single.Spelling.mem_mark hc with hd | rfl | rfl
  · exact isFractionSign_digit hd
  · decide
  · decide

theorem fractionSigns_text (s : Single.Spelling) (hrest : Ends rest) :
    fractionSigns (s.text ++ rest) = s.text := by
  have hwhole := fun c hc => isFractionSign_digit (s.isDigit_whole c hc)
  have hfraction := fun c hc => isFractionSign_digit (s.isDigit_fraction c hc)
  have hmark := isFractionSign_mark s.exponent
  have hend : fractionSigns (Single.Spelling.mark s.exponent ++ rest) =
      Single.Spelling.mark s.exponent := by
    rw [fractionSigns_append hmark, hrest.fractionSigns, List.append_nil]
  unfold Single.Spelling.text Single.Spelling.tail
  rw [List.append_assoc, fractionSigns_append hwhole]
  congr 1
  split
  · exact hend
  · rename_i hf
    have hpoint : ∀ cs, fractionSigns ('.' :: (s.fraction ++ cs)) =
        '.' :: fractionSigns (s.fraction ++ cs) := by
      obtain ⟨c, f, hcf⟩ := List.exists_cons_of_ne_nil hf
      rw [hcf] at hfraction ⊢
      exact fun cs => fractionSigns_point (hfraction c List.mem_cons_self).2 _
    rw [List.cons_append, List.cons_append, List.append_assoc, hpoint,
      fractionSigns_append hfraction, hend]

theorem dropUnderscores_self {allowed : Bool} (h : '_' ∉ cs) :
    dropUnderscores allowed cs = some cs := by
  induction cs generalizing allowed with
  | nil => rfl
  | cons c cs ih =>
    have hc : c ≠ '_' := fun hc => h (hc ▸ List.mem_cons_self)
    have hcs : '_' ∉ cs := fun hcs => h (List.mem_cons_of_mem _ hcs)
    rw [dropUnderscores, ih hcs]
    · rfl
    · exact fun h => hc h

theorem anyWord?_of_not_isPrefix {ss : List String} (h : ∀ s ∈ ss, s.toList.isPrefixOf cs = false) :
    anyWord? ss cs = some (false, cs) := by
  induction ss with
  | nil => rfl
  | cons s ss ih =>
    obtain ⟨hs, hss⟩ := List.forall_mem_cons.mp h
    unfold anyWord?
    rw [bind_of_eq (word?_of_not_isPrefix hs), if_neg (by decide)]
    exact ih hss

theorem anyWord?_head {ss : List String} (h : rest.head?.any isIdentifierRest = false) :
    anyWord? (s :: ss) (s.toList ++ rest) = some (true, rest) := by
  unfold anyWord?
  rw [bind_of_eq (word?_append h), if_pos rfl]
  rfl

theorem isPrefixOf_append_false {u v : String} (h : u.toList.isPrefixOf cs = false) :
    (u ++ v).toList.isPrefixOf cs = false := by
  rw [← Bool.not_eq_true, List.isPrefixOf_iff_prefix] at h ⊢
  rw [String.toList_append]
  exact fun hp => h ((List.prefix_append ..).trans hp)

theorem numberWord?_skip {suffixes ws : List String} {w : String}
    (h : w.toList.isPrefixOf cs = false) :
    numberWord? suffixes (w :: ws) cs = numberWord? suffixes ws cs := by
  have hall : ∀ s ∈ w :: suffixes.map (w ++ ·), s.toList.isPrefixOf cs = false := by
    refine List.forall_mem_cons.mpr ⟨h, ?_⟩
    exact List.forall_mem_map.mpr fun v _ => isPrefixOf_append_false h
  rw [numberWord?, bind_of_eq (anyWord?_of_not_isPrefix hall), if_neg (by decide)]

theorem numberWord?_none {suffixes ws : List String}
    (h : ∀ w ∈ ws, w.toList.isPrefixOf cs = false) :
    numberWord? suffixes ws cs = some (none, cs) := by
  induction ws with
  | nil => rfl
  | cons w ws ih =>
    obtain ⟨hw, hws⟩ := List.forall_mem_cons.mp h
    rw [numberWord?_skip hw, ih hws]

theorem numberWord?_head {suffixes ws : List String} {w : String}
    (h : rest.head?.any isIdentifierRest = false) :
    numberWord? suffixes (w :: ws) (w.toList ++ rest) = some (Single.ofText? w, rest) := by
  rw [numberWord?, bind_of_eq (anyWord?_head h), if_pos rfl]
  rfl

theorem fraction_signs {suffixes : List String} {y : Single}
    (hword : ∀ w ∈ numberWords, w.toList.isPrefixOf (t ++ rest) = false)
    (hsigns : fractionSigns (t ++ rest) = t) (hunderscore : '_' ∉ t)
    (hread : Single.ofText? (String.ofList t) = some y)
    (hsuffix : ∀ s ∈ suffixes, s.toList.isPrefixOf rest = false) :
    fraction suffixes (t ++ rest) = some (y, rest) := by
  have hmodify : (modify (·.drop t.length) : Reader Unit) (t ++ rest) = some ((), rest) := by
    show some ((), (t ++ rest).drop t.length) = _
    rw [List.drop_left]
  unfold fraction
  rw [bind_of_eq (numberWord?_none hword)]
  dsimp only
  rw [bind_of_eq (get_eq _), hsigns, bind_of_eq hmodify, dropUnderscores_self hunderscore,
    Option.bind_some, hread]
  dsimp only
  rw [bind_of_eq (anyWord?_of_not_isPrefix hsuffix)]
  rfl

theorem not_isPrefixOf_numberWords {c : Char} (hc : c.isDigit = true) (cs : List Char) :
    (∀ w ∈ numberWords, w.toList.isPrefixOf (c :: cs) = false) ∧
      ∀ w ∈ numberWords, w.toList.isPrefixOf ('-' :: c :: cs) = false := by
  have hne : ∀ m : Char, m.isDigit = false → m ≠ c := fun m hm => (ne_of_test hc hm).symm
  simp [numberWords, List.isPrefixOf, hne 'i' rfl, hne 'N' rfl, hne '+' rfl, hne '-' rfl]

theorem fraction_word {suffixes : List String} {y : Single}
    (h : numberWord? suffixes numberWords cs = some (some y, rest)) :
    fraction suffixes cs = some (y, rest) := by
  unfold fraction
  rw [bind_of_eq h]
  rfl

theorem fraction_takes_infinite {y : Single} (h : (⟨y.magnitude⟩ : Single) = .infinity) :
    (fraction ["f32"]).Takes ((if y.isNegative then ['-'] else []) ++ ['i', 'n', 'f']) y := by
  intro rest hrest
  apply fraction_word
  have hend : rest.head?.any isIdentifierRest = false := hrest.any_head rfl rfl
  cases hneg : y.isNegative with
  | false =>
    have hy : Single.ofText? "inf" = some y := by
      rw [← Single.eq_magnitude hneg, h]
      rfl
    rw [← hy]
    exact numberWord?_head hend
  | true =>
    have hy : Single.ofText? "-inf" = some y := by
      rw [← Single.neg_magnitude hneg, h]
      rfl
    rw [← hy, numberWords, numberWord?_skip rfl, numberWord?_skip rfl]
    exact numberWord?_head hend

theorem fraction_takes_text {y : Single} (s : Single.Spelling)
    (h : Single.ofDecimal s.decimal = ⟨y.magnitude⟩) :
    (fraction ["f32"]).Takes ((if y.isNegative then ['-'] else []) ++ s.text) y := by
  intro rest hrest
  have hsuffix : ∀ u ∈ ["f32"], u.toList.isPrefixOf rest = false :=
    List.forall_mem_singleton.mpr (hrest.not_isPrefixOf rfl)
  obtain ⟨c, tail, hcons, hc⟩ := s.exists_cons
  have hwords := not_isPrefixOf_numberWords hc (tail ++ rest)
  rw [← List.cons_append, ← hcons] at hwords
  obtain ⟨hplain, hminus⟩ := Single.ofText?_text s
  cases hneg : y.isNegative with
  | false =>
    rw [h, Single.eq_magnitude hneg] at hplain
    exact fraction_signs hwords.1 (fractionSigns_text s hrest) s.underscore_not_mem_text hplain
      hsuffix
  | true =>
    rw [h, Single.neg_magnitude hneg] at hminus
    have hsigns : fractionSigns ('-' :: s.text ++ rest) = '-' :: s.text := by
      rw [List.cons_append, fractionSigns_cons (by decide) (by decide), fractionSigns_text s hrest]
    have hunderscore : '_' ∉ '-' :: s.text := by simpa using s.underscore_not_mem_text
    exact fraction_signs hwords.2 hsigns hunderscore hminus hsuffix

/-- Every number is read back from its text. -/
theorem fraction_takes {y : Single} (h : y.isNaN = false) :
    (fraction ["f32"]).Takes y.written.toList y := by
  obtain ⟨t, htext, ⟨rfl, hsize⟩ | ⟨s, rfl, hsize⟩⟩ := Single.written_eq h
  · rw [htext]
    exact fraction_takes_infinite hsize
  · rw [htext]
    exact fraction_takes_text s hsize

/-! ### Truth values and texts -/

theorem truth_takes (b : Bool) : truth.Takes (if b then "true" else "false").toList b := by
  intro rest hrest
  have hend : rest.head?.any isIdentifierRest = false := hrest.any_head rfl rfl
  unfold truth
  cases b with
  | true =>
    rw [if_pos rfl, bind_of_eq (word?_append hend)]
    rfl
  | false =>
    rw [if_neg (by decide), bind_of_eq (word?_of_not_isPrefix rfl), if_neg (by decide),
      bind_of_eq (word?_append hend)]
    rfl

theorem text_takes (u : String) : text.Takes (Quoted.write u.toList) u := by
  intro rest hrest
  have hread : quoted Quoted.read (Quoted.write u.toList ++ rest) = some (u.toList, rest) := by
    rw [quoted, Quoted.read_write]
    rfl
  unfold text
  rw [bind_of_eq hread, String.ofList_toList]
  rfl

end VoxelScene.Reader
