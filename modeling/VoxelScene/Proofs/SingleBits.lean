import VoxelScene.Number.Single

/-!
What the bits of a single spell.

The 31 bits below the sign are the magnitude: the exponent field over the fraction. Read as one
natural number the magnitude grows with the value, from zero by the small and the full mantissas up
to infinity, and all above that are NaNs. `Spells` ties a magnitude to the number that it stands
for; packing and unpacking both follow it, so they undo each other, and comparing two numbers that
are not NaNs is comparing their signed magnitudes. The rank is therefore the total order `Precedes`.
-/

namespace VoxelScene.Single

open Float.Model (Format UnpackedFloat)
open Float.Model.UnpackedFloat

variable {a b : Single} {s : Sign} {M : Nat} {x y : UnpackedFloat} {m n : Nat} {e f : Int}

/-! ### Fields -/

theorem isNegative_iff (a : Single) : a.isNegative = true ↔ 2147483648 ≤ a.bits.toNat := by
  have hbit : a.bits.toBitVec &&& 0x80000000#32
      = if a.bits.toBitVec.getLsbD 31 then BitVec.twoPow 32 31 else 0#32 :=
    BitVec.and_twoPow _ 31
  have hmsb := BitVec.msb_eq_decide a.bits.toBitVec
  rw [BitVec.msb_eq_getLsbD_last] at hmsb
  rw [isNegative, bne_iff_ne, ne_eq, ← UInt32.toBitVec_inj, UInt32.toBitVec_and]
  by_cases h : a.bits.toBitVec.getLsbD 31 <;> simp_all

theorem toNat_magnitude (a : Single) : a.magnitude.toNat = a.bits.toNat % 2147483648 := by
  rw [magnitude, UInt32.toNat_and]
  exact Nat.and_two_pow_sub_one_eq_mod _ 31

theorem isNaN_iff (a : Single) : a.isNaN = true ↔ 2139095040 < a.magnitude.toNat := by
  rw [isNaN, decide_eq_true_iff]
  exact UInt32.lt_iff_toNat_lt

def sign (a : Single) : Sign := if a.isNegative then .negative else .positive

/-- The number that the bits stand for. -/
def decoded (a : Single) : UnpackedFloat := unpack Format.binary32 a.bits.toBitVec

theorem toNat_unpackMantissa (a : Single) :
    (@unpackMantissa Format.binary32 a.bits.toBitVec).toNat = a.magnitude.toNat % 8388608 := by
  have h : (@unpackMantissa Format.binary32 a.bits.toBitVec).toNat = a.bits.toNat % 8388608 := by
    simp [unpackMantissa, BitVec.extractLsb, BitVec.extractLsb']
  rw [toNat_magnitude]
  omega

theorem toNat_unpackExponent (a : Single) :
    (@unpackExponent Format.binary32 a.bits.toBitVec).toNat = a.magnitude.toNat / 8388608 := by
  have h : (@unpackExponent Format.binary32 a.bits.toBitVec).toNat
      = a.bits.toNat / 8388608 % 256 := by
    simp [unpackExponent, BitVec.extractLsb, BitVec.extractLsb', Nat.shiftRight_eq_div_pow]
  rw [toNat_magnitude]
  omega

theorem ofBitVec_unpackSign (a : Single) :
    Sign.ofBitVec (@unpackSign Format.binary32 a.bits.toBitVec) = a.sign := by
  have h : (@unpackSign Format.binary32 a.bits.toBitVec).toNat
      = a.bits.toNat / 2147483648 % 2 := by
    show (BitVec.extractLsb 31 31 a.bits.toBitVec).toNat = _
    simp [BitVec.extractLsb, BitVec.extractLsb', Nat.shiftRight_eq_div_pow]
  have hlt := a.bits.toNat_lt
  simp only [Sign.ofBitVec, sign, isNegative_iff, ← BitVec.toNat_inj, h]
  by_cases hn : 2147483648 ≤ a.bits.toNat
  · rw [if_pos hn, if_neg]
    simp
    omega
  · rw [if_neg hn, if_pos]
    simp
    omega

/-! ### Spelling -/

/-- The mantissa and exponent of a finite number other than zero: the mantissa fills its 24 bits,
unless the exponent is the least. -/
structure Canonical (m : Nat) (e : Int) : Prop where
  fits : m < 16777216
  least : -149 ≤ e
  greatest : e ≤ 104
  full : 8388608 ≤ m ∨ e = -149

/-- A sign and a magnitude stand for a number. -/
inductive Spells (s : Sign) (M : Nat) : UnpackedFloat → Prop
  | zero : M = 0 → Spells s M (.zero s)
  | finite (m : Nat) (e : Int) (hm : 0 < m) :
      Canonical m e → (M : Int) = (e + 149) * 8388608 + m → Spells s M (.finite s m e hm)
  | infinite : M = 2139095040 → Spells s M (.infinity s)
  | nan : 2139095040 < M → Spells s M .notANumber

theorem spells_decoded (a : Single) : Spells a.sign a.magnitude.toNat a.decoded := by
  have hmant := a.toNat_unpackMantissa
  have hexp := a.toNat_unpackExponent
  have hmag := a.toNat_magnitude
  have hbias : (Format.binary32.exponentBias : Int) = 127 := rfl
  delta decoded unpack
  dsimp only
  rw [ofBitVec_unpackSign]
  -- the branches of `unpack`: the exponent field is 255, 0 or between
  refine iteInduction (fun hall => ?_) (fun hall => ?_)
  · have hall : a.magnitude.toNat / 8388608 = 255 := hexp.symm.trans (congrArg BitVec.toNat hall)
    refine iteInduction (fun hzero => ?_) (fun hzero => ?_)
    · have hzero : a.magnitude.toNat % 8388608 = 0 := hmant.symm.trans (congrArg BitVec.toNat hzero)
      exact .infinite (by omega)
    · rw [← BitVec.toNat_inj, hmant] at hzero
      have hzero : ¬ a.magnitude.toNat % 8388608 = 0 := hzero
      exact .nan (by omega)
  · rw [← BitVec.toNat_inj, hexp] at hall
    have hall : ¬ a.magnitude.toNat / 8388608 = 255 := hall
    refine iteInduction (fun hleast => ?_) (fun hleast => ?_)
    · have hleast : a.magnitude.toNat / 8388608 = 0 :=
        hexp.symm.trans (congrArg BitVec.toNat hleast)
      by_cases hfield : @unpackMantissa Format.binary32 a.bits.toBitVec = 0#_
      · have hzero : a.magnitude.toNat % 8388608 = 0 :=
          hmant.symm.trans (congrArg BitVec.toNat hfield)
        rw [dif_pos hfield]
        exact .zero (by omega)
      · rw [dif_neg hfield]
        refine .finite _ _ _ ⟨?_, ?_, ?_, ?_⟩ ?_ <;> omega
    · rw [← BitVec.toNat_inj, hexp] at hleast
      have hleast : ¬ a.magnitude.toNat / 8388608 = 0 := hleast
      have hm : (1#1 ++ @unpackMantissa Format.binary32 a.bits.toBitVec).toNat
          = 8388608 + a.magnitude.toNat % 8388608 := by
        rw [BitVec.toNat_append, ← hmant, ← Nat.shiftLeft_add_eq_or_of_lt (BitVec.isLt _)]
        rfl
      refine .finite _ _ _ ⟨?_, ?_, ?_, ?_⟩ ?_ <;> omega

theorem Canonical.range (h : Canonical m e) (hm : 0 < m) :
    0 < (e + 149) * 8388608 + m ∧ (e + 149) * 8388608 + m < 2139095040 := by
  obtain ⟨hfits, hleast, hgreatest, -⟩ := h
  omega

theorem Spells.unique (hx : Spells s M x) (hy : Spells s M y) : x = y := by
  cases hx with
  | zero h =>
    cases hy with
    | zero _ => rfl
    | finite m e hm hc h' => have := hc.range hm; omega
    | infinite h' => omega
    | nan h' => omega
  | finite m e hm hc h =>
    have hrange := hc.range hm
    cases hy with
    | zero h' => omega
    | finite m' e' hm' hc' h' =>
      obtain ⟨hfits, hleast, _, hfull⟩ := hc
      obtain ⟨hfits', hleast', _, hfull'⟩ := hc'
      have he : e = e' := by omega
      have hm : m = m' := by omega
      subst he hm
      rfl
    | infinite h' => omega
    | nan h' => omega
  | infinite h =>
    cases hy with
    | zero _ => omega
    | finite m e hm hc h' => have := hc.range hm; omega
    | infinite h' => rfl
    | nan h' => omega
  | nan h =>
    cases hy with
    | zero _ => omega
    | finite m e hm hc h' => have := hc.range hm; omega
    | infinite h' => omega
    | nan h' => rfl

theorem decoded_of_isNaN (h : a.isNaN = true) : a.decoded = .notANumber :=
  a.spells_decoded.unique (.nan (a.isNaN_iff.1 h))

/-! ### Packing -/

/-- The bits for a number. -/
def encoded (x : UnpackedFloat) : Single := ⟨(Float32.Model.pack x).toBits⟩

theorem toNat_packComponents (s : Sign) (E : BitVec 8) (F : BitVec 23) :
    (packComponents Format.binary32 s E F).toNat
      = s.toBitVec.toNat * 2147483648 + E.toNat * 8388608 + F.toNat := by
  rw [packComponents, BitVec.toNat_append, BitVec.toNat_append,
    ← Nat.shiftLeft_add_eq_or_of_lt (BitVec.isLt _),
    ← Nat.shiftLeft_add_eq_or_of_lt (BitVec.isLt _), Nat.shiftLeft_eq, Nat.shiftLeft_eq]
  show (s.toBitVec.toNat * 256 + E.toNat) * 8388608 + F.toNat = _
  omega

theorem encoded_components {E : BitVec 8} {F : BitVec 23}
    (h : pack Format.binary32 x = packComponents Format.binary32 s E F) :
    (encoded x).sign = s ∧ (encoded x).magnitude.toNat = E.toNat * 8388608 + F.toNat := by
  have hbits : (encoded x).bits.toNat
      = s.toBitVec.toNat * 2147483648 + E.toNat * 8388608 + F.toNat := by
    rw [← toNat_packComponents, ← h]
    rfl
  have hE := E.isLt
  have hF := F.isLt
  rw [toNat_magnitude, sign]
  simp only [isNegative_iff, hbits]
  cases s with
  | negative =>
    have hbit : Sign.negative.toBitVec.toNat = 1 := rfl
    rw [if_pos (by omega)]
    exact ⟨rfl, by omega⟩
  | positive =>
    have hbit : Sign.positive.toBitVec.toNat = 0 := rfl
    rw [if_neg (by omega)]
    exact ⟨rfl, by omega⟩

theorem pack_finite (hm : 0 < m) (hc : Canonical m e) :
    pack Format.binary32 (.finite s m e hm) = if 8388608 ≤ m then
      packComponents Format.binary32 s (BitVec.ofNat 8 (e + 150).toNat) (BitVec.ofNat 23 m)
    else packComponents Format.binary32 s 0#8 (BitVec.ofNat 23 m) := by
  obtain ⟨hfits, hleast, hgreatest, -⟩ := hc
  have hbias : e + (Format.binary32.exponentBias : Int) + (23 : Nat) = e + 150 :=
    Int.add_assoc e 127 23
  have hlog : m.log2 + 1 = Format.binary32.mantissaBits ↔ 8388608 ≤ m := by
    have hpower := Nat.log2_eq_iff (n := m) (k := 23) (by omega)
    show m.log2 + 1 = 24 ↔ _
    omega
  delta pack
  dsimp only
  rw [hbias, if_neg (by omega)]
  simp only [hlog]

theorem spells_encoded (h : Spells s M x) (hM : M ≤ 2139095040) :
    (encoded x).sign = s ∧ (encoded x).magnitude.toNat = M := by
  cases h with
  | zero h => exact h ▸ encoded_components (E := 0) (F := 0) rfl
  | finite m e hm hc h =>
    have hpack := pack_finite (s := s) hm hc
    obtain ⟨hfits, hleast, hgreatest, hfull⟩ := hc
    by_cases hlarge : 8388608 ≤ m
    · rw [if_pos hlarge] at hpack
      obtain ⟨hsign, hmag⟩ := encoded_components hpack
      refine ⟨hsign, hmag.trans ?_⟩
      simp only [BitVec.toNat_ofNat]
      omega
    · rw [if_neg hlarge] at hpack
      obtain ⟨hsign, hmag⟩ := encoded_components hpack
      refine ⟨hsign, hmag.trans ?_⟩
      simp only [BitVec.toNat_ofNat]
      omega
  | infinite h => exact h ▸ encoded_components (E := -1#8) (F := 0) rfl
  | nan h => omega

theorem decoded_encoded (h : Spells s M x) : (encoded x).decoded = x := by
  by_cases hM : M ≤ 2139095040
  · obtain ⟨hsign, hmag⟩ := spells_encoded h hM
    have hdecoded := (encoded x).spells_decoded
    rw [hsign, hmag] at hdecoded
    exact hdecoded.unique h
  · cases h with
    | zero h => omega
    | finite m e hm hc h => have := hc.range hm; omega
    | infinite h => omega
    | nan h => rfl

/-- The machine's number forgets which NaN it was, and nothing else. -/
theorem unpack_toFloat32 (a : Single) : a.toFloat32.toModel.unpack = a.decoded :=
  decoded_encoded a.spells_decoded

/-! ### Comparison -/

theorem Canonical.compare_lex (h : Canonical m e) (h' : Canonical n f) :
    (compare e f).then (compare m n)
      = compare ((e + 149) * 8388608 + m) ((f + 149) * 8388608 + n) := by
  obtain ⟨hfits, hleast, _, hfull⟩ := h
  obtain ⟨hfits', hleast', _, hfull'⟩ := h'
  rcases Int.lt_trichotomy e f with hlt | rfl | hgt
  · rw [Int.compare_eq_lt.2 hlt, Int.compare_eq_lt.2 (by omega)]
    rfl
  · rw [Int.compare_eq_eq.2 rfl]
    show compare m n = _
    rcases Nat.lt_trichotomy m n with hlt | rfl | hgt
    · rw [Nat.compare_eq_lt.2 hlt, Int.compare_eq_lt.2 (by omega)]
    · rw [Nat.compare_eq_eq.2 rfl, Int.compare_eq_eq.2 rfl]
    · rw [Nat.compare_eq_gt.2 hgt, Int.compare_eq_gt.2 (by omega)]
  · rw [Int.compare_eq_gt.2 hgt, Int.compare_eq_gt.2 (by omega)]
    rfl

theorem some_lt_eq {i j : Int} (h : i < j) : some .lt = some (compare i j) := by
  rw [Int.compare_eq_lt.2 h]

theorem some_gt_eq {i j : Int} (h : j < i) : some .gt = some (compare i j) := by
  rw [Int.compare_eq_gt.2 h]

theorem compare_neg_neg (i j : Int) : compare (-i) (-j) = compare j i := by
  rcases Int.lt_trichotomy j i with hlt | rfl | hgt
  · rw [Int.compare_eq_lt.2 hlt, Int.compare_eq_lt.2 (by omega)]
  · rw [Int.compare_eq_eq.2 rfl, Int.compare_eq_eq.2 rfl]
  · rw [Int.compare_eq_gt.2 hgt, Int.compare_eq_gt.2 (by omega)]

/-- Numbers that are not NaNs compare as their signed magnitudes. -/
theorem Spells.compare_eq {t : Sign} {N : Nat} (hx : Spells s M x) (hy : Spells t N y)
    (hM : M ≤ 2139095040) (hN : N ≤ 2139095040) :
    x.compare y = some (compare (s.apply M) (t.apply N)) := by
  have hneg (i : Int) : Sign.negative.apply i = -i := rfl
  have hpos (i : Int) : Sign.positive.apply i = i := rfl
  have hzero (s : Sign) : s.apply (0 : Nat) = 0 := by cases s <;> rfl
  cases hx with
  | zero h =>
    rw [h, hzero]
    cases hy with
    | zero h' => rw [h', hzero]; rfl
    | finite m e hm hc h' =>
      have hrange := hc.range hm
      cases t with
      | negative => exact some_gt_eq (by rw [hneg]; omega)
      | positive => exact some_lt_eq (by rw [hpos]; omega)
    | infinite h' =>
      cases t with
      | negative => exact some_gt_eq (by rw [hneg]; omega)
      | positive => exact some_lt_eq (by rw [hpos]; omega)
    | nan h' => omega
  | finite m e hm hc h =>
    have hrange := hc.range hm
    cases hy with
    | zero h' =>
      rw [h', hzero]
      cases s with
      | negative => exact some_lt_eq (by rw [hneg]; omega)
      | positive => exact some_gt_eq (by rw [hpos]; omega)
    | finite m' e' hm' hc' h' =>
      have hrange' := hc'.range hm'
      have hlex : (compare e e').then (compare m m') = compare (M : Int) N := by
        rw [hc.compare_lex hc', h, h']
      cases s with
      | negative =>
        cases t with
        | negative =>
          show some ((compare e e').then (compare m m')).swap = some (compare (-(M : Int)) (-N))
          rw [hlex, Int.compare_swap, compare_neg_neg]
        | positive => exact some_lt_eq (by rw [hneg, hpos]; omega)
      | positive =>
        cases t with
        | negative => exact some_gt_eq (by rw [hneg, hpos]; omega)
        | positive => exact congrArg some hlex
    | infinite h' =>
      cases t with
      | negative => exact some_gt_eq (by cases s <;> simp only [hneg, hpos] <;> omega)
      | positive => exact some_lt_eq (by cases s <;> simp only [hneg, hpos] <;> omega)
    | nan h' => omega
  | infinite h =>
    cases hy with
    | zero h' =>
      rw [h', hzero]
      cases s with
      | negative => exact some_lt_eq (by rw [hneg]; omega)
      | positive => exact some_gt_eq (by rw [hpos]; omega)
    | finite m e hm hc h' =>
      have hrange := hc.range hm
      cases s with
      | negative => exact some_lt_eq (by cases t <;> simp only [hneg, hpos] <;> omega)
      | positive => exact some_gt_eq (by cases t <;> simp only [hneg, hpos] <;> omega)
    | infinite h' =>
      rw [h, h']
      cases s <;> cases t <;> rfl
    | nan h' => omega
  | nan h => omega

theorem blt_iff_compare (a b : Single) :
    a.blt b = true ↔ a.decoded.compare b.decoded = some .lt := by
  rw [← unpack_toFloat32, ← unpack_toFloat32, blt, decide_eq_true_iff]
  exact decide_eq_true_iff.trans beq_iff_eq

/-- Numbers compare by their signed magnitudes, and a NaN with nothing. -/
theorem compare_decoded (a b : Single) : a.decoded.compare b.decoded =
    if a.isNaN || b.isNaN then none
    else some (compare (a.sign.apply a.magnitude.toNat) (b.sign.apply b.magnitude.toNat)) := by
  cases ha : a.isNaN with
  | true =>
    rw [decoded_of_isNaN ha]
    cases b.decoded <;> rfl
  | false =>
    cases hb : b.isNaN with
    | true =>
      rw [decoded_of_isNaN hb]
      cases a.decoded <;> rfl
    | false =>
      have hM := Bool.eq_false_iff.1 ha
      have hN := Bool.eq_false_iff.1 hb
      rw [ne_eq, isNaN_iff, Nat.not_lt] at hM hN
      exact a.spells_decoded.compare_eq b.spells_decoded hM hN

theorem blt_iff (a b : Single) : a.blt b = true ↔ a.isNaN = false ∧ b.isNaN = false ∧
    a.sign.apply a.magnitude.toNat < b.sign.apply b.magnitude.toNat := by
  rw [blt_iff_compare, compare_decoded]
  cases a.isNaN <;> cases b.isNaN <;> simp [Int.compare_eq_lt]

theorem beq_iff_compare (a b : Single) :
    a.beq b = true ↔ a.decoded.compare b.decoded = some .eq := by
  rw [← unpack_toFloat32, ← unpack_toFloat32]
  show (UnpackedFloat.compare _ _ == some Ordering.eq) = true ↔ _
  exact beq_iff_eq

theorem eq_of_magnitude_eq (hs : a.isNegative = b.isNegative)
    (hm : a.magnitude.toNat = b.magnitude.toNat) : a = b := by
  have ha := a.toNat_magnitude
  have hb := b.toNat_magnitude
  have hlta := a.bits.toNat_lt
  have hltb := b.bits.toNat_lt
  have hna := a.isNegative_iff
  have hnb := b.isNegative_iff
  rw [hs] at hna
  have hbits : a.bits.toNat = b.bits.toNat := by
    cases h : b.isNegative <;>
      simp only [h, true_iff, Bool.false_eq_true, false_iff, Nat.not_le] at hna hnb <;> omega
  cases a
  cases b
  exact congrArg Single.mk (UInt32.toNat_inj.mp hbits)

/-- Numbers are equal if their bits are, or if both are zeros; a NaN equals nothing. -/
theorem beq_iff (a b : Single) : a.beq b = true ↔
    a.isNaN = false ∧ b.isNaN = false ∧ (a = b ∨ a.magnitude = 0 ∧ b.magnitude = 0) := by
  have hza : a.magnitude = 0 ↔ a.magnitude.toNat = 0 := UInt32.toNat_inj.symm
  have hzb : b.magnitude = 0 ↔ b.magnitude.toNat = 0 := UInt32.toNat_inj.symm
  have hvalue : a.sign.apply a.magnitude.toNat = b.sign.apply b.magnitude.toNat ↔
      a = b ∨ a.magnitude = 0 ∧ b.magnitude = 0 := by
    rw [hza, hzb]
    constructor
    · intro h
      by_cases hs : a.isNegative = b.isNegative
      · left
        apply eq_of_magnitude_eq hs
        cases hb : b.isNegative <;>
          simp only [sign, hs, hb, if_true, Bool.false_eq_true, if_false, Sign.apply] at h <;> omega
      · right
        cases ha : a.isNegative <;> cases hb : b.isNegative <;>
          simp only [sign, ha, hb, if_true, Bool.false_eq_true, if_false, Sign.apply, not_true]
            at h hs <;> omega
    · rintro (rfl | ⟨ha, hb⟩)
      · rfl
      · rw [ha, hb]
        cases a.sign <;> cases b.sign <;> rfl
  rw [beq_iff_compare, compare_decoded]
  cases a.isNaN <;> cases b.isNaN <;> simp [hvalue]

/-! ### The total order -/

/-- Numbers stand in the order of their values, the negative zero before the positive one. The NaNs
with the sign set stand before all numbers and the others after them, by payload away from the
numbers. -/
def Precedes (a b : Single) : Prop :=
  match a.isNaN, b.isNaN with
  | false, false => a.blt b = true ∨
      a.magnitude = 0 ∧ b.magnitude = 0 ∧ a.isNegative = true ∧ b.isNegative = false
  | true, false => a.isNegative = true
  | false, true => b.isNegative = false
  | true, true => a.isNegative = true ∧ b.isNegative = false ∨
      a.isNegative = true ∧ b.isNegative = true ∧ b.magnitude < a.magnitude ∨
      a.isNegative = false ∧ b.isNegative = false ∧ a.magnitude < b.magnitude

theorem rank_lt_iff (a b : Single) : a.rank < b.rank ↔ a.Precedes b := by
  have hNa := a.isNaN_iff
  have hNb := b.isNaN_iff
  have hza : a.magnitude = 0 ↔ a.magnitude.toNat = 0 := UInt32.toNat_inj.symm
  have hzb : b.magnitude = 0 ↔ b.magnitude.toNat = 0 := UInt32.toNat_inj.symm
  simp only [Precedes, blt_iff, hza, hzb, UInt32.lt_iff_toNat_lt, rank, sign]
  cases ha : a.isNaN <;> cases hb : b.isNaN <;>
    simp only [ha, hb, true_iff, Bool.false_eq_true, false_iff, Nat.not_lt] at hNa hNb <;>
    cases a.isNegative <;> cases b.isNegative <;> simp [Sign.apply] <;> omega

instance : Decidable (a.Precedes b) := decidable_of_iff _ (rank_lt_iff a b)

theorem rank_injective (h : a.rank = b.rank) : a = b := by
  have ha := a.toNat_magnitude
  have hb := b.toNat_magnitude
  have hlta := a.bits.toNat_lt
  have hltb := b.bits.toNat_lt
  have hbits : a.bits.toNat = b.bits.toNat := by
    simp only [rank, isNegative_iff] at h
    omega
  cases a
  cases b
  exact congrArg mk (UInt32.toNat_inj.1 hbits)

end VoxelScene.Single
