import Mathlib.Algebra.Order.Field.Power
import Mathlib.Data.Nat.Cast.Order.Field
import Mathlib.Data.Rat.Cast.Order
import Mathlib.Tactic.FieldSimp
import Mathlib.Tactic.Linarith
import Mathlib.Tactic.Positivity
import Mathlib.Tactic.Ring
import VoxelScene.Number.Shortest

/-!
The shortest decimal of a number reads back as that number.

A number stands for all that lies closer to it than to its neighbours, and for the points halfway to
them if its last bit is even. Whatever lies there is rounded to it, in one division; among the
decimals of at most nine digits there is one; and the decimal that is written is one of those.
-/

namespace VoxelScene

/-! ### Rounding -/

theorem zpow_eq_div {b : ℚ} (hb : b ≠ 0) (e : ℤ) : b ^ e = b ^ e.toNat / b ^ (-e).toNat := by
  rw [eq_div_iff (pow_ne_zero _ hb), ← zpow_natCast, ← zpow_natCast, ← zpow_add₀ hb]
  congr 1
  omega

/-- The whole number nearest to `x`, a half to the even neighbour. -/
def RoundsTo (x : ℚ) (m : ℕ) : Prop :=
  (m - 1 / 2 ≤ x ∧ x ≤ m + 1 / 2) ∧ (m % 2 = 1 → m - 1 / 2 < x ∧ x < m + 1 / 2)

theorem roundedQuotient_eq {num den m : ℕ} (hden : 0 < den) (h : RoundsTo (num / den) m) :
    roundedQuotient num den = m := by
  have hq : (0 : ℚ) < den := by exact_mod_cast hden
  obtain ⟨⟨hlow, hhigh⟩, hodd⟩ := h
  rw [le_div_iff₀ hq] at hlow
  rw [div_le_iff₀ hq] at hhigh
  have hlow' : 2 * (den * m) ≤ 2 * num + den := by
    have : (2 * (den * m) : ℚ) ≤ 2 * num + den := by linarith
    exact_mod_cast this
  have hhigh' : 2 * num ≤ 2 * (den * m) + den := by
    have : (2 * num : ℚ) ≤ 2 * (den * m) + den := by linarith
    exact_mod_cast this
  have hodd' : m % 2 = 1 → 2 * (den * m) < 2 * num + den ∧ 2 * num < 2 * (den * m) + den := by
    intro hm
    obtain ⟨hl, hh⟩ := hodd hm
    rw [lt_div_iff₀ hq] at hl
    rw [div_lt_iff₀ hq] at hh
    constructor
    · have : (2 * (den * m) : ℚ) < 2 * num + den := by linarith
      exact_mod_cast this
    · have : (2 * num : ℚ) < 2 * (den * m) + den := by linarith
      exact_mod_cast this
  have hsum := Nat.div_add_mod num den
  have hrem := Nat.mod_lt num hden
  -- The quotient is `m`, or one less with a remainder of at least a half.
  have hcases : num / den = m ∨ num / den + 1 = m := by
    have hle : num / den ≤ m := by
      by_contra hlt
      have := Nat.mul_le_mul_left den (show m + 1 ≤ num / den by omega)
      rw [Nat.mul_add, Nat.mul_one] at this
      omega
    have hge : m ≤ num / den + 1 := by
      by_contra hlt
      have := Nat.mul_le_mul_left den (show num / den + 2 ≤ m by omega)
      rw [Nat.mul_add] at this
      omega
    omega
  unfold roundedQuotient
  rcases hcases with hm | hm
  · rw [hm] at hsum ⊢
    rw [if_neg]
    omega
  · have hprod : den * m = den * (num / den) + den := by rw [← hm, Nat.mul_add, Nat.mul_one]
    rw [if_pos, hm]
    omega

theorem scaledQuotient_eq {num den m : ℕ} {shift : ℤ} (hden : 0 < den)
    (h : RoundsTo (num / den / 2 ^ shift) m) : scaledQuotient num den shift = m := by
  rw [zpow_eq_div (by norm_num)] at h
  unfold scaledQuotient
  split
  · rename_i hs
    apply roundedQuotient_eq (Nat.mul_pos hden (Nat.pow_pos (by decide)))
    rw [show (-shift).toNat = 0 by omega, pow_zero, div_one, div_div] at h
    exact_mod_cast h
  · rename_i hs
    apply roundedQuotient_eq hden
    rw [show shift.toNat = 0 by omega, pow_zero, div_div_eq_mul_div, div_one,
      div_mul_eq_mul_div] at h
    exact_mod_cast h

/-- The comparison by which the exponent is found. -/
theorem two_zpow_le_iff {num den : ℕ} (e : ℤ) (hden : 0 < den) : (2 : ℚ) ^ e ≤ num / den ↔
    if 0 ≤ e then den * Nat.pow 2 e.toNat ≤ num else den ≤ num * Nat.pow 2 (-e).toNat := by
  have hq : (0 : ℚ) < den := by exact_mod_cast hden
  rw [le_div_iff₀ hq, zpow_eq_div (by norm_num)]
  split
  · rename_i h
    rw [show (-e).toNat = 0 by omega, pow_zero, div_one, mul_comm]
    exact_mod_cast Iff.rfl
  · rename_i h
    rw [show e.toNat = 0 by omega, pow_zero, one_div_mul_eq_div, div_le_iff₀ (by positivity)]
    exact_mod_cast Iff.rfl

theorem binaryExponent_bounds {num den : ℕ} (hnum : 0 < num) (hden : 0 < den) :
    (2 : ℚ) ^ binaryExponent num den ≤ num / den ∧
      (num : ℚ) / den < 2 ^ (binaryExponent num den + 1) := by
  have hq : (0 : ℚ) < den := by exact_mod_cast hden
  have htwo : (2 : ℚ) ≠ 0 := by norm_num
  have hnlow : (2 : ℚ) ^ num.log2 ≤ num := by exact_mod_cast Nat.log2_self_le hnum.ne'
  have hnhigh : (num : ℚ) < 2 ^ (num.log2 + 1) := by exact_mod_cast Nat.lt_log2_self
  have hdlow : (2 : ℚ) ^ den.log2 ≤ den := by exact_mod_cast Nat.log2_self_le hden.ne'
  have hdhigh : (den : ℚ) < 2 ^ (den.log2 + 1) := by exact_mod_cast Nat.lt_log2_self
  unfold binaryExponent
  dsimp only
  generalize hg : (num.log2 : ℤ) - den.log2 = g
  -- The lengths in bits leave two exponents, and the comparison decides between them.
  have hupper : (num : ℚ) / den < 2 ^ (g + 1) := by
    have hsplit : (2 : ℚ) ^ (num.log2 + 1) = 2 ^ (g + 1) * 2 ^ den.log2 := by
      rw [← zpow_natCast, ← zpow_natCast, ← zpow_add₀ htwo]
      congr 1
      omega
    rw [div_lt_iff₀ hq]
    calc (num : ℚ) < 2 ^ (g + 1) * 2 ^ den.log2 := hsplit ▸ hnhigh
      _ ≤ 2 ^ (g + 1) * den := by gcongr
  have hlower : (2 : ℚ) ^ (g - 1) ≤ num / den := by
    have hsplit : (2 : ℚ) ^ num.log2 = 2 ^ (g - 1) * 2 ^ (den.log2 + 1) := by
      rw [← zpow_natCast, ← zpow_natCast, ← zpow_add₀ htwo]
      congr 1
      omega
    rw [le_div_iff₀ hq]
    calc (2 : ℚ) ^ (g - 1) * den ≤ 2 ^ (g - 1) * 2 ^ (den.log2 + 1) := by gcongr
      _ ≤ num := hsplit ▸ hnlow
  have hreach : (2 : ℚ) ^ g ≤ num / den ↔ _ := two_zpow_le_iff g hden
  by_cases h : (2 : ℚ) ^ g ≤ num / den
  · rw [if_pos (by simpa using hreach.mp h)]
    exact ⟨h, hupper⟩
  · rw [if_neg (by simpa using mt hreach.mpr h), Int.sub_add_cancel]
    exact ⟨hlower, not_le.mp h⟩

theorem binaryExponent_eq {num den : ℕ} {e : ℤ} (hnum : 0 < num) (hden : 0 < den)
    (hlow : (2 : ℚ) ^ e ≤ num / den) (hhigh : (num : ℚ) / den < 2 ^ (e + 1)) :
    binaryExponent num den = e := by
  obtain ⟨hl, hh⟩ := binaryExponent_bounds hnum hden
  have hle := (zpow_lt_zpow_iff_right₀ (by norm_num : (1 : ℚ) < 2)).mp (hlow.trans_lt hh)
  have hge := (zpow_lt_zpow_iff_right₀ (by norm_num : (1 : ℚ) < 2)).mp (hl.trans_lt hhigh)
  omega

/-! ### Decimals -/

/-- The number that a decimal stands for. -/
def Decimal.value (d : Decimal) : ℚ := d.coefficient * 10 ^ d.exponent

theorem Decimal.div_le_value_iff (d : Decimal) {n den : ℕ} (hden : 0 < den) :
    (n : ℚ) / den ≤ d.value ↔ n * Nat.pow 10 (-d.exponent).toNat ≤
      d.coefficient * den * Nat.pow 10 d.exponent.toNat := by
  have hq : (0 : ℚ) < den := by exact_mod_cast hden
  rw [value, zpow_eq_div (by norm_num), mul_div_assoc', div_le_div_iff₀ hq (by positivity),
    mul_right_comm]
  exact_mod_cast Iff.rfl

theorem Decimal.value_le_div_iff (d : Decimal) {n den : ℕ} (hden : 0 < den) :
    d.value ≤ (n : ℚ) / den ↔ d.coefficient * den * Nat.pow 10 d.exponent.toNat ≤
      n * Nat.pow 10 (-d.exponent).toNat := by
  have hq : (0 : ℚ) < den := by exact_mod_cast hden
  rw [value, zpow_eq_div (by norm_num), mul_div_assoc', div_le_div_iff₀ (by positivity) hq,
    mul_right_comm]
  exact_mod_cast Iff.rfl

/-- How many digits the coefficient has. -/
def Decimal.digits (d : Decimal) : ℕ := (Nat.toDigits 10 d.coefficient).length

theorem Decimal.value_lt (d : Decimal) : d.value < 10 ^ (d.digits + d.exponent) := by
  have hlt : d.coefficient < 10 ^ d.digits :=
    (Nat.length_toDigits_le_iff (by decide) Nat.length_toDigits_pos).mp le_rfl
  rw [value, zpow_add₀ (by norm_num), zpow_natCast]
  gcongr
  exact_mod_cast hlt

theorem Decimal.le_value {d : Decimal} (hd : d.coefficient ≠ 0) :
    10 ^ (d.digits - 1 + d.exponent : ℤ) ≤ d.value := by
  have hle : 10 ^ (d.digits - 1) ≤ d.coefficient := by
    by_cases hone : d.digits = 1
    · rw [hone]
      exact Nat.pos_of_ne_zero hd
    · by_contra hlt
      have hpos : 0 < d.digits := Nat.length_toDigits_pos
      have := (Nat.length_toDigits_le_iff (n := d.coefficient) (b := 10) (k := d.digits - 1)
        (by decide) (by omega)).mpr (not_le.mp hlt)
      unfold digits at *
      omega
  have hpos : 0 < d.digits := Nat.length_toDigits_pos
  rw [value, zpow_add₀ (by norm_num), show (d.digits - 1 : ℤ) = (d.digits - 1 : ℕ) by omega,
    zpow_natCast]
  gcongr
  exact_mod_cast hle

namespace Single

variable {a : Single} {d : Decimal} {x : ℚ}

/-! ### The numbers around a number -/

/-- The eight bits that give the power of two. -/
def field (a : Single) : ℕ := a.bits.toNat / 8388608

/-- The bits below them. -/
def tail (a : Single) : ℕ := a.bits.toNat % 8388608

/-- The whole number that is scaled by the power of two. -/
def mantissa (a : Single) : ℕ := if a.field = 0 then a.tail else a.tail + 8388608

def power (a : Single) : ℤ := (max a.field 1 : ℕ) - 150

/-- Half the way down to the next number, in units of the last bit. It is shorter where the numbers
below lie closer. -/
def gapBelow (a : Single) : ℚ := if a.tail = 0 ∧ 1 < a.field then 1 / 4 else 1 / 2

/-- Closer to `a` than to other numbers, or halfway to one that has an odd last bit. -/
def Near (a : Single) (x : ℚ) : Prop :=
  ((a.mantissa - a.gapBelow) * 2 ^ a.power ≤ x ∧ x ≤ (a.mantissa + 1 / 2) * 2 ^ a.power) ∧
    (a.mantissa % 2 = 1 →
      (a.mantissa - a.gapBelow) * 2 ^ a.power < x ∧ x < (a.mantissa + 1 / 2) * 2 ^ a.power)

/-- A positive number that is not infinite. -/
def IsProper (a : Single) : Prop := a.bits ≠ 0 ∧ a.bits < 0x7f800000

theorem IsProper.toNat (h : a.IsProper) : 0 < a.bits.toNat ∧ a.bits.toNat < 2139095040 := by
  obtain ⟨hne, hlt⟩ := h
  refine ⟨Nat.pos_of_ne_zero fun hz => hne (UInt32.toNat_inj.mp hz), UInt32.lt_iff_toNat_lt.mp hlt⟩

theorem IsProper.mantissa_pos (h : a.IsProper) : 0 < a.mantissa := by
  have := h.toNat
  unfold mantissa field tail
  split <;> omega

theorem mantissa_lt (a : Single) : a.mantissa < 16777216 := by
  unfold mantissa tail
  split <;> omega

theorem le_mantissa (h : a.field ≠ 0) : 8388608 ≤ a.mantissa := by
  unfold mantissa
  rw [if_neg h]
  omega

theorem IsProper.power_bounds (h : a.IsProper) : -149 ≤ a.power ∧ a.power ≤ 104 := by
  have := h.toNat
  unfold power field
  omega

/-- The bits in terms of mantissa and power. -/
theorem bits_eq (a : Single) : (a.bits.toNat : ℤ) =
    if a.mantissa < 8388608 then (a.mantissa : ℤ) else (a.power + 149) * 8388608 + a.mantissa := by
  have hsum : a.bits.toNat = 8388608 * a.field + a.tail := (Nat.div_add_mod ..).symm
  have htail : a.tail < 8388608 := Nat.mod_lt _ (by decide)
  unfold mantissa power
  by_cases hf : a.field = 0
  · rw [if_pos hf, if_pos htail]
    omega
  · rw [if_neg hf, if_neg (by omega)]
    omega

theorem gapBelow_bounds (a : Single) : 1 / 4 ≤ a.gapBelow ∧ a.gapBelow ≤ 1 / 2 := by
  unfold gapBelow
  split <;> norm_num

theorem Near.weak (h : a.Near x) : (a.mantissa - 1 / 2 : ℚ) * 2 ^ a.power ≤ x := by
  have hgap := a.gapBelow_bounds.2
  refine le_trans ?_ h.1.1
  gcongr

theorem Near.lt (h : a.Near x) : x < 2 ^ (a.power + 24) := by
  have hmlt : (a.mantissa : ℚ) + 1 ≤ 16777216 := by exact_mod_cast a.mantissa_lt
  calc x ≤ (a.mantissa + 1 / 2) * 2 ^ a.power := h.1.2
    _ < 16777216 * 2 ^ a.power := by gcongr; linarith
    _ = 2 ^ (a.power + 24) := by
      rw [zpow_add₀ (by norm_num)]
      norm_num
      ring

theorem near_bounds (ha : a.IsProper) (h : a.Near x) :
    (2 : ℚ) ^ (-150 : ℤ) ≤ x ∧ x < 2 ^ (128 : ℤ) := by
  obtain ⟨hlow, hhigh⟩ := ha.power_bounds
  have hone : (1 : ℚ) ≤ a.mantissa := by exact_mod_cast ha.mantissa_pos
  constructor
  · calc (2 : ℚ) ^ (-150 : ℤ) = 1 / 2 * 2 ^ (-149 : ℤ) := by norm_num
      _ ≤ (a.mantissa - 1 / 2) * 2 ^ a.power := by
        gcongr
        · linarith
        · linarith
        · norm_num
      _ ≤ x := h.weak
  · exact h.lt.trans_le (zpow_le_zpow_right₀ (by norm_num) (by omega))

theorem ofRatio_eq {num den m : ℕ} {shift : ℤ} (ha : a.IsProper) (hden : 0 < den)
    (hshift : max (binaryExponent num den - 23) (-149) = shift)
    (hm : RoundsTo (num / den / 2 ^ shift) m)
    (hbits : (if m < 8388608 then (m : ℤ) else (shift + 149) * 8388608 + m) = a.bits.toNat) :
    ofRatio num den = a := by
  have hlt := ha.toNat.2
  have hpow : Nat.pow 2 23 = 8388608 := by decide
  unfold ofRatio
  dsimp only
  rw [hshift, scaledQuotient_eq hden hm, hpow]
  push_cast
  rw [hbits, if_pos (by omega), Int.toNat_natCast, UInt32.ofNat_toNat]

theorem Near.roundsTo (h : a.Near x) : RoundsTo (x / 2 ^ a.power) a.mantissa := by
  have hpow : (0 : ℚ) < 2 ^ a.power := by positivity
  have hgap := a.gapBelow_bounds.2
  refine ⟨⟨(le_div_iff₀ hpow).mpr h.weak, (div_le_iff₀ hpow).mpr h.1.2⟩, fun hodd => ?_⟩
  obtain ⟨hlow, hhigh⟩ := h.2 hodd
  refine ⟨(lt_div_iff₀ hpow).mpr (lt_of_le_of_lt ?_ hlow), (div_lt_iff₀ hpow).mpr hhigh⟩
  gcongr

/-- Below the power of two at which the numbers get closer the way to the next one is shorter. -/
theorem Near.of_lt (h : a.Near x) (hf : 1 < a.field) (hx : x < 2 ^ (a.power + 23)) :
    a.mantissa = 8388608 ∧ (8388608 - 1 / 4) * 2 ^ a.power ≤ x := by
  have hpow : (0 : ℚ) < 2 ^ a.power := by positivity
  have hsplit : (2 : ℚ) ^ (a.power + 23) = 8388608 * 2 ^ a.power := by
    rw [zpow_add₀ (by norm_num)]
    norm_num
    ring
  have hmant : (a.mantissa : ℚ) < 8388609 := by
    have hlt : (a.mantissa - 1 / 2 : ℚ) * 2 ^ a.power < 8388608 * 2 ^ a.power :=
      lt_of_le_of_lt h.weak (hsplit ▸ hx)
    linarith [lt_of_mul_lt_mul_right hlt hpow.le]
  have hle := le_mantissa (a := a) (by omega)
  have heq : a.mantissa = 8388608 := by
    have : a.mantissa < 8388609 := by exact_mod_cast hmant
    omega
  have htail : a.tail = 0 := by
    unfold mantissa at heq
    rw [if_neg (by omega)] at heq
    omega
  have hgap : a.gapBelow = 1 / 4 := if_pos ⟨htail, hf⟩
  have hlow := h.1.1
  rw [heq, hgap] at hlow
  exact ⟨heq, by exact_mod_cast hlow⟩

/-- What lies near to a number is rounded to it. -/
theorem ofRatio_of_near {num den : ℕ} (ha : a.IsProper) (hden : 0 < den) (h : a.Near (num / den)) :
    ofRatio num den = a := by
  have hnum : 0 < num := by
    rcases Nat.eq_zero_or_pos num with rfl | hpos
    · have := (near_bounds ha h).1
      norm_num at this
    · exact hpos
  have hpower := ha.power_bounds
  have htwo : (1 : ℚ) < 2 := by norm_num
  obtain ⟨hexp, -⟩ := binaryExponent_bounds hnum hden
  have hle := (zpow_lt_zpow_iff_right₀ htwo).mp (hexp.trans_lt h.lt)
  by_cases hsmall : a.field ≤ 1
  · -- The smallest numbers all have the same power.
    have hleast : a.power = -149 := by
      unfold power
      omega
    have hshift : max (binaryExponent num den - 23) (-149) = a.power := by omega
    exact ofRatio_eq ha hden hshift h.roundsTo a.bits_eq.symm
  by_cases hx : (2 : ℚ) ^ (a.power + 23) ≤ num / den
  · have he := binaryExponent_eq hnum hden hx (by rw [Int.add_assoc]; exact h.lt)
    have hshift : max (binaryExponent num den - 23) (-149) = a.power := by omega
    exact ofRatio_eq ha hden hshift h.roundsTo a.bits_eq.symm
  · -- Just below a power of two the mantissa is found twice as large and rounds up to the power.
    have hx := not_le.mp hx
    obtain ⟨hm, hlow⟩ := h.of_lt (by omega) hx
    have hpow : (0 : ℚ) < 2 ^ (a.power - 1) := by positivity
    have hsplit (n : ℕ) : (2 : ℚ) ^ (a.power + n) = 2 * 2 ^ n * 2 ^ (a.power - 1) := by
      rw [show a.power + n = 1 + n + (a.power - 1) by omega, zpow_add₀ (by norm_num),
        zpow_add₀ (by norm_num), zpow_one, zpow_natCast]
    have hone : (2 : ℚ) ^ a.power = 2 * 2 ^ (a.power - 1) := by
      have := hsplit 0
      simpa using this
    have h22 := hsplit 22
    have h23 := hsplit 23
    norm_num at h22 h23
    have he : binaryExponent num den = a.power + 22 := by
      apply binaryExponent_eq hnum hden
      · rw [h22]
        rw [hone] at hlow
        linarith
      · rw [Int.add_assoc]
        exact hx
    have hfield : -148 ≤ a.power := by
      unfold power
      omega
    have hshift : max (binaryExponent num den - 23) (-149) = a.power - 1 := by omega
    refine ofRatio_eq ha hden (m := 16777216) hshift ?_ ?_
    · refine ⟨⟨?_, ?_⟩, fun hodd => absurd hodd (by decide)⟩
      · rw [le_div_iff₀ hpow]
        rw [hone] at hlow
        push_cast
        linarith
      · rw [div_le_iff₀ hpow]
        rw [h23] at hx
        push_cast
        linarith
    · rw [a.bits_eq, hm]
      norm_num
      ring

/-- A decimal near to a number reads as that number. -/
theorem ofDecimal_of_near (ha : a.IsProper) (h : a.Near d.value) : ofDecimal d = a := by
  obtain ⟨hlow, hhigh⟩ := near_bounds ha h
  have hten : (1 : ℚ) < 10 := by norm_num
  have hc : d.coefficient ≠ 0 := by
    intro hz
    rw [Decimal.value, hz] at hlow
    norm_num at hlow
  have hsmall : ¬ (d.digits + d.exponent < -60) := by
    intro hlt
    have hle : (10 : ℚ) ^ (d.digits + d.exponent) ≤ 10 ^ (-60 : ℤ) :=
      zpow_le_zpow_right₀ hten.le hlt.le
    have := hlow.trans_lt (d.value_lt.trans_le hle)
    norm_num at this
  have hlarge : ¬ (60 < d.digits + d.exponent) := by
    intro hlt
    have hle : (10 : ℚ) ^ (60 : ℤ) ≤ 10 ^ (d.digits - 1 + d.exponent : ℤ) :=
      zpow_le_zpow_right₀ hten.le (by omega)
    have := (hle.trans (Decimal.le_value hc)).trans_lt hhigh
    norm_num at this
  unfold ofDecimal
  dsimp only
  rw [← Decimal.digits, if_neg (by simp [hc, hsmall]), if_neg hlarge]
  rw [Decimal.value, zpow_eq_div (by norm_num)] at h
  split
  · rename_i he
    apply ofRatio_of_near ha Nat.one_pos
    rw [show (-d.exponent).toNat = 0 by omega, pow_zero, div_one] at h
    rw [Nat.cast_one, div_one]
    exact_mod_cast h
  · rename_i he
    apply ofRatio_of_near ha (Nat.pow_pos (by decide))
    rw [show d.exponent.toNat = 0 by omega, pow_zero, mul_one_div] at h
    exact_mod_cast h

/-! ### The shortest decimal -/

theorem around_eq (a : Single) : Interval.around a =
    { value := 4 * a.mantissa * 2 ^ (a.power - 2).toNat
      low := (4 * a.mantissa - if a.tail = 0 ∧ 1 < a.field then 1 else 2) * 2 ^ (a.power - 2).toNat
      high := (4 * a.mantissa + 2) * 2 ^ (a.power - 2).toNat
      denominator := 2 ^ (-(a.power - 2)).toNat
      closed := a.mantissa % 2 = 0 } := by
  have hpower : a.power - 2 = (max a.field 1 : ℕ) - 152 := by
    unfold power
    omega
  rw [hpower]
  rfl

theorem div_denominator (a : Single) (n : ℕ) :
    ((n * 2 ^ (a.power - 2).toNat : ℕ) : ℚ) / (Interval.around a).denominator =
      n / 4 * 2 ^ a.power := by
  have hpower : (2 : ℚ) ^ a.power = 4 * 2 ^ (a.power - 2) := by
    rw [zpow_sub₀ (by norm_num)]
    ring
  rw [hpower, zpow_eq_div (by norm_num) (a.power - 2), around_eq]
  push_cast
  ring

theorem low_around (ha : a.IsProper) :
    ((Interval.around a).low : ℚ) / (Interval.around a).denominator =
      (a.mantissa - a.gapBelow) * 2 ^ a.power := by
  have hpos := ha.mantissa_pos
  have hlow : (Interval.around a).low =
      (4 * a.mantissa - if a.tail = 0 ∧ 1 < a.field then 1 else 2) * 2 ^ (a.power - 2).toNat := by
    rw [around_eq]
  rw [hlow, div_denominator, gapBelow]
  split
  · rw [Nat.cast_sub (by omega)]
    push_cast
    ring
  · rw [Nat.cast_sub (by omega)]
    push_cast
    ring

theorem high_around (a : Single) :
    ((Interval.around a).high : ℚ) / (Interval.around a).denominator =
      (a.mantissa + 1 / 2) * 2 ^ a.power := by
  have hhigh : (Interval.around a).high = (4 * a.mantissa + 2) * 2 ^ (a.power - 2).toNat := by
    rw [around_eq]
  rw [hhigh, div_denominator]
  push_cast
  ring

theorem value_around (a : Single) :
    ((Interval.around a).value : ℚ) / (Interval.around a).denominator =
      a.mantissa * 2 ^ a.power := by
  have hvalue : (Interval.around a).value = 4 * a.mantissa * 2 ^ (a.power - 2).toNat := by
    rw [around_eq]
  rw [hvalue, div_denominator]
  push_cast
  ring

theorem denominator_around_pos (a : Single) : 0 < (Interval.around a).denominator := by
  rw [around_eq]
  exact Nat.pow_pos (by decide)

theorem holds_around (ha : a.IsProper) : (Interval.around a).holds d = true ↔ a.Near d.value := by
  have hden := a.denominator_around_pos
  have hclosed : (Interval.around a).closed = decide (a.mantissa % 2 = 0) := by
    rw [around_eq]
  have hlow := d.div_le_value_iff (n := (Interval.around a).low) hden
  have hhigh := d.value_le_div_iff (n := (Interval.around a).high) hden
  have hlow' := d.value_le_div_iff (n := (Interval.around a).low) hden
  have hhigh' := d.div_le_value_iff (n := (Interval.around a).high) hden
  rw [low_around ha] at hlow hlow'
  rw [high_around] at hhigh hhigh'
  unfold Interval.holds Near
  rw [hclosed, hlow, hhigh, ← not_le, ← not_le, hlow', hhigh']
  rcases Nat.mod_two_eq_zero_or_one a.mantissa with heven | hodd
  · simp [heven]
  · simp only [hodd]
    simp
    omega

theorem near_of_close (h : |x - a.mantissa * 2 ^ a.power| < 2 ^ a.power / 4) : a.Near x := by
  have hgap := a.gapBelow_bounds.1
  have hpow : (0 : ℚ) < 2 ^ a.power := by positivity
  have hless : 1 / 4 * 2 ^ a.power ≤ a.gapBelow * 2 ^ a.power := by gcongr
  obtain ⟨hlow, hhigh⟩ := abs_lt.mp h
  have hstrict : (a.mantissa - a.gapBelow) * 2 ^ a.power < x ∧
      x < (a.mantissa + 1 / 2) * 2 ^ a.power := by
    constructor <;> linarith
  exact ⟨⟨hstrict.1.le, hstrict.2.le⟩, fun _ => hstrict⟩

/-- The leading digit of a number stands where it is said to. -/
theorem Interval.pow_wholeDigits_le {i : Interval} (hden : 0 < i.denominator)
    (hle : i.denominator ≤ i.value * 10 ^ 60) :
    (10 : ℚ) ^ (i.wholeDigits - 1) ≤ i.value / i.denominator := by
  have hpos : i.value * 10 ^ 60 / i.denominator ≠ 0 := Nat.div_ne_zero_iff.mpr ⟨hden.ne', hle⟩
  have hfloor : ((i.value * 10 ^ 60 / i.denominator : ℕ) : ℚ) ≤
      (i.value * 10 ^ 60 : ℕ) / i.denominator := Nat.cast_div_le
  have hwhole : i.wholeDigits - 1 =
      (Decimal.digits ⟨i.value * 10 ^ 60 / i.denominator, -60⟩ : ℤ) - 1 + -60 := by
    rw [wholeDigits, Nat.pow_eq, Decimal.digits]
    dsimp only
    omega
  rw [hwhole]
  refine (Decimal.le_value hpos).trans ?_
  rw [Decimal.value, zpow_neg, ← div_eq_mul_inv, div_le_iff₀ (by norm_num)]
  refine hfloor.trans (le_of_eq ?_)
  push_cast
  ring

theorem denominator_le_value (ha : a.IsProper) :
    (Interval.around a).denominator ≤ (Interval.around a).value * 10 ^ 60 := by
  have hq : (0 : ℚ) < (Interval.around a).denominator := by exact_mod_cast a.denominator_around_pos
  have hone : (1 : ℚ) ≤ a.mantissa := by exact_mod_cast ha.mantissa_pos
  have hle : (1 : ℚ) ≤ a.mantissa * 2 ^ a.power * 10 ^ 60 := by
    calc (1 : ℚ) ≤ 1 * 2 ^ (-149 : ℤ) * 10 ^ 60 := by norm_num
      _ ≤ a.mantissa * 2 ^ a.power * 10 ^ 60 := by
        gcongr
        · norm_num
        · exact ha.power_bounds.1
  rw [← value_around, div_mul_eq_mul_div, one_le_div hq] at hle
  exact_mod_cast hle

/-- The first decimal that is tried is at most half a unit away. -/
theorem Interval.nearest?_eq {i : Interval} (hden : 0 < i.denominator) (e : ℤ) :
    ∃ (c : ℕ) (rest : List Decimal), i.nearest? e = (⟨c, e⟩ :: rest).find? i.holds ∧
      |(⟨c, e⟩ : Decimal).value - i.value / i.denominator| ≤ 10 ^ e / 2 := by
  have hq : (0 : ℚ) < i.denominator := by exact_mod_cast hden
  have hten : (0 : ℚ) < 10 ^ e := by positivity
  unfold nearest?
  dsimp only
  generalize hnum : i.value * Nat.pow 10 (-e).toNat = num
  generalize hdenom : i.denominator * Nat.pow 10 e.toNat = den
  have hpos : 0 < den := hdenom ▸ Nat.mul_pos hden (Nat.pow_pos (by decide))
  have hpos' : (0 : ℚ) < den := by exact_mod_cast hpos
  have hratio : (i.value : ℚ) / i.denominator = num / den * 10 ^ e := by
    have h1 : (num : ℚ) = i.value * 10 ^ (-e).toNat := by rw [← hnum]; norm_cast
    have h2 : (den : ℚ) = i.denominator * 10 ^ e.toNat := by rw [← hdenom]; norm_cast
    rw [zpow_eq_div (by norm_num), h1, h2]
    field_simp
  have hsum : (num : ℚ) = den * (num / den : ℕ) + (num % den : ℕ) := by
    exact_mod_cast (Nat.div_add_mod num den).symm
  have hrem : ((num % den : ℕ) : ℚ) < den := by exact_mod_cast Nat.mod_lt num hpos
  have hclose : ∀ c : ℕ, |(c : ℚ) - num / den| ≤ 1 / 2 →
      |(⟨c, e⟩ : Decimal).value - i.value / i.denominator| ≤ 10 ^ e / 2 := by
    intro c hc
    rw [hratio, Decimal.value, ← sub_mul, abs_mul, abs_of_pos hten]
    calc _ ≤ 1 / 2 * (10 : ℚ) ^ e := by gcongr
      _ = 10 ^ e / 2 := by ring
  have hfrac : (num : ℚ) / den - (num / den : ℕ) = (num % den : ℕ) / den := by
    rw [sub_eq_iff_eq_add, div_add' _ _ _ hpos'.ne', add_comm, mul_comm, ← hsum]
  split
  · rename_i hhalf
    have hhalf' : (2 * (num % den : ℕ) : ℚ) < den := by exact_mod_cast hhalf
    refine ⟨num / den, _, rfl, hclose _ ?_⟩
    rw [abs_sub_comm, hfrac, abs_of_nonneg (by positivity), div_le_iff₀ hpos']
    linarith
  · rename_i hhalf
    have hhalf' : (den : ℚ) ≤ 2 * (num % den : ℕ) := by exact_mod_cast not_lt.mp hhalf
    refine ⟨num / den + 1, _, rfl, hclose _ ?_⟩
    have hrest : ((num / den + 1 : ℕ) : ℚ) - num / den = 1 - (num % den : ℕ) / den := by
      rw [← hfrac]
      push_cast
      ring
    have hle : ((num % den : ℕ) : ℚ) / den ≤ 1 := (div_le_one hpos').mpr hrem.le
    have hge : 1 / 2 ≤ ((num % den : ℕ) : ℚ) / den := by
      rw [le_div_iff₀ hpos']
      linarith
    rw [hrest, abs_of_nonneg (by linarith)]
    linarith

/-- Nine digits are enough for every number. -/
theorem nearest?_nine_digits (ha : a.IsProper) : ∃ d,
    (Interval.around a).nearest? ((Interval.around a).wholeDigits - 9) = some d := by
  have hden := a.denominator_around_pos
  have hmlt : (a.mantissa : ℚ) < 16777216 := by exact_mod_cast a.mantissa_lt
  have hlead := Interval.pow_wholeDigits_le hden (denominator_le_value ha)
  obtain ⟨c, rest, hfirst, hclose⟩ :=
    Interval.nearest?_eq hden ((Interval.around a).wholeDigits - 9)
  rw [value_around] at hlead hclose
  refine ⟨_, hfirst.trans (List.find?_cons_of_pos ((holds_around ha).mpr (near_of_close ?_)))⟩
  have hunit : (10 : ℚ) ^ ((Interval.around a).wholeDigits - 9) =
      10 ^ ((Interval.around a).wholeDigits - 1) / 10 ^ 8 := by
    rw [eq_div_iff (by norm_num), ← zpow_natCast, ← zpow_add₀ (by norm_num)]
    congr 1
    omega
  have hpow : (0 : ℚ) < 2 ^ a.power := by positivity
  calc _ ≤ (10 : ℚ) ^ ((Interval.around a).wholeDigits - 9) / 2 := hclose
    _ = 10 ^ ((Interval.around a).wholeDigits - 1) / 200000000 := by
      rw [hunit]
      ring
    _ ≤ a.mantissa * 2 ^ a.power / 200000000 := by gcongr
    _ < 16777216 * 2 ^ a.power / 200000000 := by gcongr
    _ < 2 ^ a.power / 4 := by linarith

theorem value_dropZeros (fuel : ℕ) (d : Decimal) : (dropZeros fuel d).value = d.value := by
  induction fuel generalizing d with
  | zero => rfl
  | succ fuel ih =>
    unfold dropZeros
    split
    · rename_i h
      have hcoef : (d.coefficient : ℚ) = 10 * (d.coefficient / 10 : ℕ) := by
        exact_mod_cast (Nat.mul_div_cancel' (Nat.dvd_of_mod_eq_zero h.2)).symm
      rw [ih, Decimal.value, Decimal.value, hcoef, zpow_add_one₀ (by norm_num)]
      ring
    · rfl

theorem near_shortest (ha : a.IsProper) : a.Near a.shortest.value := by
  obtain ⟨d₉, hd₉⟩ := nearest?_nine_digits ha
  have hfound : ((List.range 9).findSome? fun n : ℕ =>
      (Interval.around a).nearest?
        ((Interval.around a).wholeDigits - (n + 1 : ℕ))).isSome = true := by
    rw [List.findSome?_isSome_iff]
    exact ⟨8, by decide, Option.isSome_iff_exists.mpr ⟨d₉, hd₉⟩⟩
  obtain ⟨d, hd⟩ := Option.isSome_iff_exists.mp hfound
  obtain ⟨n, -, hn⟩ := List.exists_of_findSome?_eq_some hd
  have hholds : (Interval.around a).holds d = true := List.find?_some hn
  unfold shortest
  dsimp only
  rw [hd, Option.getD_some, value_dropZeros]
  exact (holds_around ha).mp hholds

/-- The shortest decimal of a number reads as that number. -/
theorem ofDecimal_shortest (ha : a.IsProper) : ofDecimal a.shortest = a :=
  ofDecimal_of_near ha (near_shortest ha)

end Single

end VoxelScene
