import VoxelScene.Number.Notation
import VoxelScene.Proofs.ShortestDecimal
import VoxelScene.Proofs.SingleBits

/-!
Numbers are read back from their text.

The text of a number spells a decimal: digits before the point, digits behind it and perhaps an
exponent. `Single.Spelling` is a text of this form, of which the reader is shown to take just the
decimal that it spells; whichever form the writer picks, it is a spelling of the shortest decimal.
Signs and infinities are words of their own.
-/

namespace VoxelScene

/-! ### Digits -/

theorem isDigit_toDigits {n : Nat} {c : Char} (h : c ∈ Nat.toDigits 10 n) : c.isDigit = true :=
  Nat.isDigit_of_mem_toDigits (by decide) (by decide) h

theorem toList_toString_int (e : Int) : (toString e).toList =
    if 0 ≤ e then Nat.toDigits 10 e.toNat else '-' :: Nat.toDigits 10 (-e).toNat := by
  rw [Int.toString_eq_repr, Int.repr_eq_if]
  split
  · exact Nat.toList_repr
  · rw [String.toList_append, Nat.toList_repr]
    rfl

namespace Single

theorem digitsValue_toDigits (n : Nat) : digitsValue (Nat.toDigits 10 n) = n :=
  Nat.ofDigitChars_ten_toDigits

theorem digitsValue_zeros_append (k : Nat) (ds : List Char) :
    digitsValue (List.replicate k '0' ++ ds) = digitsValue ds := by
  show Nat.ofDigitChars 10 (List.replicate k '0' ++ ds) 0 = Nat.ofDigitChars 10 ds 0
  rw [Nat.ofDigitChars_append, Nat.ofDigitChars_replicate_zero, Nat.mul_zero]

theorem digitsValue_append_zeros (k : Nat) (ds : List Char) :
    digitsValue (ds ++ List.replicate k '0') = 10 ^ k * digitsValue ds := by
  show Nat.ofDigitChars 10 (ds ++ List.replicate k '0') 0 = 10 ^ k * Nat.ofDigitChars 10 ds 0
  rw [Nat.ofDigitChars_append, Nat.ofDigitChars_replicate_zero]

theorem exponentOf?_digits {ds : List Char} (hne : ds ≠ []) (h : ∀ c ∈ ds, c.isDigit = true) :
    exponentOf? ds = some (digitsValue ds : Int) ∧
      exponentOf? ('-' :: ds) = some (-(digitsValue ds : Int)) := by
  have hall : ds.all Char.isDigit = true := List.all_eq_true.mpr h
  have hempty : ds.isEmpty = false := by simpa using hne
  obtain ⟨c, rest, rfl⟩ := List.exists_cons_of_ne_nil hne
  have hc := h c List.mem_cons_self
  have hminus : c ≠ '-' := by
    rintro rfl
    exact absurd hc (by decide)
  have hplus : c ≠ '+' := by
    rintro rfl
    exact absurd hc (by decide)
  unfold exponentOf?
  simp [hminus, hplus, hall, hempty]

theorem exponentOf?_toString (e : Int) : exponentOf? (toString e).toList = some e := by
  rw [toList_toString_int]
  have hne : ∀ n, Nat.toDigits 10 n ≠ [] := fun _ => Nat.toDigits_ne_nil
  split
  · rw [(exponentOf?_digits (hne _) fun c => isDigit_toDigits).1, digitsValue_toDigits]
    congr
    omega
  · rw [(exponentOf?_digits (hne _) fun c => isDigit_toDigits).2, digitsValue_toDigits]
    congr
    omega

/-! ### Spelled decimals -/

/-- A decimal as it is spelled: digits, perhaps more of them after a point, perhaps an exponent. -/
structure Spelling where
  whole : List Char
  fraction : List Char
  exponent : Option Int
  whole_ne : whole ≠ []
  isDigit_whole : ∀ c ∈ whole, c.isDigit = true
  isDigit_fraction : ∀ c ∈ fraction, c.isDigit = true

namespace Spelling

/-- The exponent with its mark. -/
def mark : Option Int → List Char
  | none => []
  | some e => 'e' :: (toString e).toList

/-- What stands behind the whole digits. -/
def tail (s : Spelling) : List Char :=
  (if s.fraction = [] then [] else '.' :: s.fraction) ++ mark s.exponent

def text (s : Spelling) : List Char := s.whole ++ s.tail

def decimal (s : Spelling) : Decimal :=
  ⟨digitsValue (s.whole ++ s.fraction), s.exponent.getD 0 - s.fraction.length⟩

theorem takeWhile_append_mark {ds : List Char} (h : ∀ c ∈ ds, c.isDigit = true) (e : Option Int) :
    (ds ++ mark e).takeWhile Char.isDigit = ds := by
  rw [List.takeWhile_append_of_pos h]
  cases e with
  | none => exact List.append_nil _
  | some e => exact List.append_nil _

theorem dropWhile_append_mark {ds : List Char} (h : ∀ c ∈ ds, c.isDigit = true) (e : Option Int) :
    (ds ++ mark e).dropWhile Char.isDigit = mark e := by
  rw [List.dropWhile_append_of_pos h]
  cases e with
  | none => rfl
  | some e => rfl

theorem decimalOf?_text (s : Spelling) : decimalOf? s.text = some s.decimal := by
  obtain ⟨whole, fraction, exponent, hne, hwhole, hfraction⟩ := s
  unfold decimalOf? decimal text tail
  dsimp only
  by_cases hf : fraction = []
  · subst hf
    have hpoint : ∀ rest, mark exponent = '.' :: rest → False := by
      cases exponent <;> simp [mark]
    rw [if_pos rfl, List.nil_append, takeWhile_append_mark hwhole, dropWhile_append_mark hwhole]
    split
    · rename_i rest h
      exact (hpoint rest h).elim
    · simp only [List.append_nil, List.isEmpty_iff, hne, if_false]
      cases exponent with
      | none => rfl
      | some e => exact congrArg _ (exponentOf?_toString e)
  · have htake :
        (whole ++ ('.' :: (fraction ++ mark exponent))).takeWhile Char.isDigit = whole := by
      rw [List.takeWhile_append_of_pos hwhole]
      exact List.append_nil _
    have hdrop : (whole ++ ('.' :: (fraction ++ mark exponent))).dropWhile Char.isDigit =
        '.' :: (fraction ++ mark exponent) := by
      rw [List.dropWhile_append_of_pos hwhole]
      rfl
    rw [if_neg hf, List.cons_append, htake, hdrop]
    simp only [takeWhile_append_mark hfraction, dropWhile_append_mark hfraction,
      List.isEmpty_iff, List.append_eq_nil_iff, hne, false_and, if_false]
    cases exponent with
    | none => rfl
    | some e => exact congrArg _ (exponentOf?_toString e)

theorem exists_cons (s : Spelling) : ∃ c rest, s.text = c :: rest ∧ c.isDigit = true := by
  obtain ⟨c, rest, h⟩ := List.exists_cons_of_ne_nil s.whole_ne
  exact ⟨c, rest ++ s.tail, by rw [text, h]; rfl, s.isDigit_whole c (h ▸ List.mem_cons_self)⟩

theorem mem_mark {e : Option Int} {c : Char} (h : c ∈ mark e) :
    c.isDigit = true ∨ c = 'e' ∨ c = '-' := by
  cases e with
  | none => simp [mark] at h
  | some e =>
    rcases List.mem_cons.mp h with rfl | h
    · exact .inr (.inl rfl)
    rw [toList_toString_int] at h
    split at h
    · exact .inl (isDigit_toDigits h)
    · rcases List.mem_cons.mp h with rfl | h
      · exact .inr (.inr rfl)
      · exact .inl (isDigit_toDigits h)

theorem underscore_not_mem_text (s : Spelling) : '_' ∉ s.text := by
  have hnot {c : Char} (h : c.isDigit = true) : '_' ≠ c := by
    rintro rfl
    exact absurd h (by decide)
  have hmark : '_' ∉ mark s.exponent := fun h => by
    have := mem_mark h
    revert this
    decide
  have hwhole : '_' ∉ s.whole := fun h => hnot (s.isDigit_whole _ h) rfl
  have hfraction : '_' ∉ s.fraction := fun h => hnot (s.isDigit_fraction _ h) rfl
  unfold text tail
  split <;> simp [hmark, hwhole, hfraction]

end Spelling

theorem magnitudeOf?_digit {c : Char} {rest : List Char} (h : c.isDigit = true) :
    magnitudeOf? (c :: rest) = (decimalOf? (c :: rest)).map ofDecimal := by
  have hlow : c.val ≤ '9'.val := of_decide_eq_true (Bool.and_eq_true_iff.mp h).2
  have hlower : c.toLower = c := dif_neg fun hupper =>
    absurd (UInt32.le_trans hupper.1 hlow) (by decide)
  have hword (w : List Char) (hw : w.head?.any Char.isDigit = false) :
      String.ofList ((c :: rest).map Char.toLower) ≠ String.ofList w := by
    intro heq
    have := String.ofList_injective heq
    rw [← this, List.map_cons, hlower] at hw
    simp [h] at hw
  unfold magnitudeOf?
  dsimp only
  rw [if_neg, if_neg]
  · exact hword ['n', 'a', 'n'] (by decide)
  · simp only [not_or]
    exact ⟨hword ['i', 'n', 'f'] (by decide),
      hword ['i', 'n', 'f', 'i', 'n', 'i', 't', 'y'] (by decide)⟩

theorem magnitudeOf?_text (s : Spelling) : magnitudeOf? s.text = some (ofDecimal s.decimal) := by
  obtain ⟨c, rest, htext, hc⟩ := s.exists_cons
  rw [htext, magnitudeOf?_digit hc, ← htext, s.decimalOf?_text]
  rfl

/-! ### Written decimals -/

theorem exists_spelling_scientific (d : Decimal) : ∃ s : Spelling,
    d.scientific.toList = s.text ∧ s.decimal = d := by
  obtain ⟨coefficient, exponent⟩ := d
  refine ⟨⟨(Nat.toDigits 10 coefficient).take 1, (Nat.toDigits 10 coefficient).drop 1,
    some (exponent + ((Nat.toDigits 10 coefficient).length - 1 : Nat)), ?_, ?_, ?_⟩, ?_, ?_⟩
  · simp [Nat.toDigits_ne_nil]
  · exact fun c h => isDigit_toDigits (List.mem_of_mem_take h)
  · exact fun c h => isDigit_toDigits (List.mem_of_mem_drop h)
  · simp only [Decimal.scientific, decimalDigits, Spelling.text, Spelling.tail, Spelling.mark,
      List.isEmpty_iff, String.toList_append]
    show (String.ofList _).toList ++ ['e'] ++ _ = _
    rw [String.toList_ofList]
    simp
  · unfold Spelling.decimal
    dsimp only
    rw [List.take_append_drop, digitsValue_toDigits, List.length_drop, Option.getD_some]
    congr
    omega

theorem exists_spelling_point {ds : List Char} {places : Nat} (hdigit : ∀ c ∈ ds, c.isDigit = true)
    (hpos : 0 < places) (hlt : places < ds.length) : ∃ s : Spelling,
    ds.take (ds.length - places) ++ '.' :: ds.drop (ds.length - places) = s.text ∧
      s.decimal = ⟨digitsValue ds, -places⟩ := by
  have hplaces : (ds.drop (ds.length - places)).length = places := by
    rw [List.length_drop]
    omega
  have hfraction : ds.drop (ds.length - places) ≠ [] := List.ne_nil_of_length_pos (by omega)
  refine ⟨⟨ds.take (ds.length - places), ds.drop (ds.length - places), none, ?_, ?_, ?_⟩, ?_, ?_⟩
  · exact List.ne_nil_of_length_pos (by rw [List.length_take]; omega)
  · exact fun c h => hdigit c (List.mem_of_mem_take h)
  · exact fun c h => hdigit c (List.mem_of_mem_drop h)
  · rw [Spelling.text, Spelling.tail, if_neg hfraction, Spelling.mark, List.append_nil]
  · rw [Spelling.decimal, List.take_append_drop, hplaces, Option.getD_none, Int.zero_sub]

theorem exists_spelling_fraction {d : Decimal} (hd : d.exponent < 0) : ∃ s : Spelling,
    d.positional.toList = s.text ∧ s.decimal = d := by
  obtain ⟨coefficient, exponent⟩ := d
  dsimp only at hd
  obtain ⟨places, rfl⟩ : ∃ places : Nat, exponent = -places := ⟨exponent.natAbs, by omega⟩
  have htoNat : (- -(places : Int)).toNat = places := by omega
  -- Zeros are put in front until a digit stands before the point.
  have hdigit : ∀ c ∈ List.replicate (places + 1 - (Nat.toDigits 10 coefficient).length) '0' ++
      Nat.toDigits 10 coefficient, c.isDigit = true := by
    intro c hc
    rcases List.mem_append.mp hc with hc | hc
    · rw [List.eq_of_mem_replicate hc]
      rfl
    · exact isDigit_toDigits hc
  have hlength : places < (List.replicate (places + 1 - (Nat.toDigits 10 coefficient).length) '0' ++
      Nat.toDigits 10 coefficient).length := by
    rw [List.length_append, List.length_replicate]
    omega
  obtain ⟨s, htext, hdecimal⟩ := exists_spelling_point hdigit (by omega) hlength
  refine ⟨s, ?_, ?_⟩
  · rw [Decimal.positional, if_neg (by dsimp only; omega), String.toList_ofList, ← htext, htoNat]
    rfl
  · rw [hdecimal, digitsValue_zeros_append, digitsValue_toDigits]

/-- A point and a zero behind a whole number are one more digit and one less place. -/
theorem exists_spelling_whole {d : Decimal} (hd : 0 ≤ d.exponent) : ∃ s : Spelling,
    (d.positional ++ ".0").toList = s.text ∧ s.decimal.value = d.value := by
  obtain ⟨coefficient, exponent⟩ := d
  dsimp only at hd
  refine ⟨⟨Nat.toDigits 10 coefficient ++ List.replicate exponent.toNat '0', ['0'], none,
    ?_, ?_, ?_⟩,
    ?_, ?_⟩
  · simp [Nat.toDigits_ne_nil]
  · intro c hc
    rcases List.mem_append.mp hc with hc | hc
    · exact isDigit_toDigits hc
    · rw [List.eq_of_mem_replicate hc]
      rfl
  · simp
  · unfold Decimal.positional decimalDigits Spelling.text Spelling.tail Spelling.mark
    dsimp only
    rw [if_pos hd, String.toList_append, String.toList_ofList]
    rfl
  · unfold Spelling.decimal Decimal.value
    have hzero : (['0'] : List Char) = List.replicate 1 '0' := rfl
    dsimp only
    rw [hzero, digitsValue_append_zeros, digitsValue_append_zeros, digitsValue_toDigits,
      List.length_replicate, Option.getD_none]
    obtain ⟨n, rfl⟩ := Int.eq_ofNat_of_zero_le hd
    push_cast
    simp
    ring

/-! ### Written numbers -/

/-- The text of a finite number without its sign spells that number. -/
theorem exists_spelling {a : Single} (ha : a.bits < 0x7f800000) : ∃ s : Spelling,
    ((if a.bits = 0 then "0.0"
      else if a.blt 1e-4 || Single.ble 1e16 a then a.shortest.scientific
      else if 0 ≤ a.shortest.exponent then a.shortest.positional ++ ".0"
      else a.shortest.positional : String)).toList = s.text ∧ ofDecimal s.decimal = a := by
  by_cases hzero : a.bits = 0
  · refine ⟨⟨['0'], ['0'], none, by simp, by simp, by simp⟩, ?_, ?_⟩
    · rw [if_pos hzero]
      rfl
    · obtain ⟨bits⟩ := a
      dsimp only at hzero
      subst hzero
      rfl
  have hproper : a.IsProper := ⟨hzero, ha⟩
  have hread (s : Spelling) (h : s.decimal.value = a.shortest.value) : ofDecimal s.decimal = a :=
    ofDecimal_of_near hproper (h ▸ near_shortest hproper)
  rw [if_neg hzero]
  split
  · obtain ⟨s, htext, hdecimal⟩ := exists_spelling_scientific a.shortest
    exact ⟨s, htext, hread s (by rw [hdecimal])⟩
  split
  · rename_i hexponent
    obtain ⟨s, htext, hvalue⟩ := exists_spelling_whole hexponent
    exact ⟨s, htext, hread s hvalue⟩
  · rename_i hexponent
    obtain ⟨s, htext, hdecimal⟩ := exists_spelling_fraction (not_le.mp hexponent)
    exact ⟨s, htext, hread s (by rw [hdecimal])⟩

theorem eq_magnitude {a : Single} (h : a.isNegative = false) : (⟨a.magnitude⟩ : Single) = a := by
  have hlt : ¬ 2147483648 ≤ a.bits.toNat := by simp [← isNegative_iff, h]
  have hbits : a.magnitude = a.bits := by
    rw [← UInt32.toNat_inj, toNat_magnitude]
    omega
  rw [hbits]

theorem neg_magnitude {a : Single} (h : a.isNegative = true) : neg ⟨a.magnitude⟩ = a := by
  have hbit : a.bits.toBitVec.getLsbD 31 = true := by
    have hmsb := BitVec.msb_eq_decide a.bits.toBitVec
    rw [BitVec.msb_eq_getLsbD_last] at hmsb
    rw [hmsb]
    exact decide_eq_true ((isNegative_iff a).mp h)
  have hbits : (a.bits.toBitVec &&& ~~~ BitVec.twoPow 32 31) ^^^ BitVec.twoPow 32 31 =
      a.bits.toBitVec := by
    ext i hi
    by_cases h31 : i = 31
    · subst h31
      simpa [BitVec.getElem_twoPow, BitVec.getLsbD_eq_getElem] using hbit
    · simp [BitVec.getElem_twoPow, h31]
  exact congrArg Single.mk (UInt32.toBitVec_inj.mp hbits)

theorem isFinite_magnitude (a : Single) :
    (⟨a.magnitude⟩ : Single).isFinite = true ↔ a.magnitude < 0x7f800000 := by
  have hmag : (⟨a.magnitude⟩ : Single).magnitude = a.magnitude := by
    rw [← UInt32.toNat_inj, toNat_magnitude, toNat_magnitude, Nat.mod_mod]
  rw [isFinite, hmag, decide_eq_true_iff]

/-- The text of a number: its sign, and a word or a spelling of its magnitude. -/
theorem written_eq {a : Single} (h : a.isNaN = false) : ∃ t : List Char,
    a.written.toList = (if a.isNegative then ['-'] else []) ++ t ∧
      (t = ['i', 'n', 'f'] ∧ (⟨a.magnitude⟩ : Single) = infinity ∨
        ∃ s : Spelling, t = s.text ∧ ofDecimal s.decimal = ⟨a.magnitude⟩) := by
  have hsign : (if a.isNegative then "-" else "").toList = if a.isNegative then ['-'] else [] := by
    split <;> rfl
  unfold written writeWith
  rw [if_neg (by simp [h])]
  dsimp only
  rw [String.toList_append, hsign]
  refine ⟨_, rfl, ?_⟩
  split
  · rename_i hfinite
    obtain ⟨s, htext, hdecimal⟩ := exists_spelling ((isFinite_magnitude a).mp hfinite)
    exact .inr ⟨s, htext, hdecimal⟩
  · rename_i hfinite
    have hle : ¬ 2139095040 < a.magnitude.toNat := by simp [← isNaN_iff, h]
    have hge := UInt32.le_iff_toNat_le.mp (UInt32.not_lt.mp (mt (isFinite_magnitude a).mpr hfinite))
    have hbits : a.magnitude = 0x7f800000 :=
      UInt32.toNat_inj.mp (Nat.le_antisymm (Nat.not_lt.mp hle) hge)
    exact .inl ⟨rfl, congrArg Single.mk hbits⟩

theorem ofText?_text (s : Spelling) :
    ofText? (String.ofList s.text) = some (ofDecimal s.decimal) ∧
      ofText? (String.ofList ('-' :: s.text)) = some (neg (ofDecimal s.decimal)) := by
  obtain ⟨c, rest, htext, hc⟩ := s.exists_cons
  have hminus : c ≠ '-' := by
    rintro rfl
    exact absurd hc (by decide)
  have hplus : c ≠ '+' := by
    rintro rfl
    exact absurd hc (by decide)
  have hread := magnitudeOf?_text s
  unfold ofText?
  rw [String.toList_ofList, String.toList_ofList, htext] at *
  simp [hminus, hplus, hread]

end Single

end VoxelScene
