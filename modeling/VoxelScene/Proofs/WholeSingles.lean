import VoxelScene.Proofs.SingleBits

/-!
Whole numbers as singles.

A whole number below 2^24 moves up until it fills the mantissa, and no bit is lost on the way.
Rounding a number whose spare low bits are all zero takes those bits off again. So a sum of whole
numbers, aligned at the finer of the two exponents, rounds to the whole number that is the sum, and
sums of small whole numbers in single precision are exact.
-/

namespace VoxelScene.Single

open Float.Model (Format UnpackedFloat totalExponent)
open Float.Model.UnpackedFloat

variable {m n k j : Nat} {e : Int} {s : Sign}

/-! ### Rounding without loss -/

theorem shiftRight_exact (m j : Nat) :
    (⟨m <<< j, false, false⟩ : ExtendedMantissa) >>> j = ⟨m, false, false⟩ := by
  induction j generalizing m with
  | zero => rfl
  | succ j ih =>
    have hstep : (⟨m <<< (j + 1), false, false⟩ : ExtendedMantissa) >>> (j + 1)
        = ((⟨(2 * m) <<< j, false, false⟩ : ExtendedMantissa) >>> j).shiftRightOne := by
      rw [Nat.shiftLeft_succ_inside]
      rfl
    rw [hstep, ih, ExtendedMantissa.shiftRightOne]
    simp

theorem log2_shiftLeft (hm : 0 < m) (j : Nat) : (m <<< j).log2 = m.log2 + j := by
  induction j with
  | zero => rfl
  | succ j ih =>
    have hne : m <<< j ≠ 0 := Nat.ne_of_gt (Nat.shiftLeft_pos_iff.2 hm)
    rw [Nat.shiftLeft_succ, Nat.log2_two_mul hne, ih]
    omega

theorem targetExponent_eq (m : Nat) (e : Int) :
    Format.binary32.targetExponent (totalExponent m e) = max ((m.log2 : Int) + e - 23) (-149) := by
  rw [Format.targetExponent, totalExponent]
  show max (_ - (24 : Int)) (-149) = _
  omega

theorem shiftToTargetExponent_exact (hpos : 0 < m) (hm : m.log2 = 23) (he : -149 ≤ e + j) :
    shiftToTargetExponent Format.binary32 (m <<< j) e .exact = (⟨m, false, false⟩, e + j) := by
  have hamount : (max (((m <<< j).log2 : Int) + e - 23) (-149) - e).toNat = j := by
    rw [log2_shiftLeft hpos, hm]
    omega
  rw [shiftToTargetExponent, targetExponent_eq, shiftToExponent]
  simp only [hamount, ExtendedMantissa.ofMantissaAndAccuracy, shiftRight_exact]

theorem roundWithAccuracy_exact (hpos : 0 < m) (hm : m.log2 = 23) (he : -149 ≤ e + j) :
    roundWithAccuracy Format.binary32 s (m <<< j) e .exact = .finite s m (e + j) hpos := by
  have hfirst := shiftToTargetExponent_exact hpos hm he
  have hsecond : shiftToTargetExponent Format.binary32
      (⟨m, false, false⟩ : ExtendedMantissa).roundedMantissa (e + j) .exact
        = (⟨m, false, false⟩, e + j + (0 : Nat)) :=
    shiftToTargetExponent_exact (j := 0) hpos hm (by omega)
  rw [Int.natCast_zero, Int.add_zero] at hsecond
  rw [roundWithAccuracy, hfirst]
  dsimp only
  rw [hsecond]
  exact dif_neg (Nat.ne_of_gt hpos)

/-! ### Whole numbers -/

/-- How far a number below 2^24 moves up to fill the mantissa. -/
def room (n : Nat) : Nat := 23 - n.log2

/-- A whole number whose mantissa fills its bits. -/
def whole (n : Nat) : UnpackedFloat :=
  if h : n = 0 then .zero .positive
  else .finite .positive (n <<< room n) (-(room n : Int))
    (Nat.shiftLeft_pos_iff.2 (Nat.pos_of_ne_zero h))

theorem room_eq (hn : n < 16777216) : (room n : Int) = 23 - n.log2 := by
  by_cases hzero : n = 0
  · subst hzero
    rfl
  · have hlog : n.log2 < 24 := (Nat.log2_lt hzero).2 hn
    rw [room]
    omega

theorem log2_room (hpos : 0 < n) (hn : n < 16777216) : (n <<< room n).log2 = 23 := by
  have hroom := room_eq hn
  rw [log2_shiftLeft hpos]
  omega

theorem round_whole (hpos : 0 < n) (hn : n < 16777216) (j : Nat) :
    UnpackedFloat.round Format.binary32 .positive (n <<< j) (-(j : Int)) = whole n := by
  have hroom := room_eq hn
  have htarget : Format.binary32.targetExponent (totalExponent (n <<< j) (-(j : Int)))
      = -(room n : Int) := by
    rw [targetExponent_eq, log2_shiftLeft hpos]
    omega
  have hamount : (-(j : Int) - -(room n : Int)).toNat = room n - j := by omega
  -- moved too little, it is moved on; moved too far, rounding moves it back
  have hmove : (n <<< j) <<< (room n - j) = (n <<< room n) <<< (j - room n) := by
    rw [← Nat.shiftLeft_add, ← Nat.shiftLeft_add]
    congr 1
    omega
  rw [UnpackedFloat.round, htarget]
  simp only [decreaseExponent, hamount, hmove]
  rw [roundWithAccuracy_exact (Nat.shiftLeft_pos_iff.2 hpos) (log2_room hpos hn) (by omega),
    whole, dif_neg (by omega)]
  congr 1
  omega

theorem normalize_whole (hn : n < 16777216) (j : Nat) :
    UnpackedFloat.normalize Format.binary32 ((n <<< j : Nat) : Int) (-(j : Int)) .positive
      = whole n := by
  by_cases hzero : n = 0
  · subst hzero
    simp [UnpackedFloat.normalize, whole]
  · have hpos : 0 < n <<< j := Nat.shiftLeft_pos_iff.2 (Nat.pos_of_ne_zero hzero)
    have hgt : compare ((n <<< j : Nat) : Int) 0 = .gt := Int.compare_eq_gt.2 (by omega)
    rw [UnpackedFloat.normalize, hgt]
    exact round_whole (by omega) hn j

theorem shiftLeft_align {r g : Nat} (h : r ≤ g) :
    n <<< r <<< (-(r : Int) - -(g : Int)).toNat = n <<< g := by
  rw [← Nat.shiftLeft_add]
  congr 1
  omega

theorem add_finite {f : Int} (hm : 0 < m) (hn : 0 < n) :
    UnpackedFloat.add Format.binary32 (.finite .positive m e hm) (.finite .positive n f hn)
      = UnpackedFloat.normalize Format.binary32
        ((m <<< (e - min e f).toNat : Nat) + (n <<< (f - min e f).toNat : Nat) : Int)
        (min e f) .positive := rfl

theorem add_whole (hn : n + k < 16777216) :
    UnpackedFloat.add Format.binary32 (whole n) (whole k) = whole (n + k) := by
  by_cases hzero : n = 0
  · subst hzero
    rw [Nat.zero_add, whole, dif_pos rfl]
    by_cases hzero' : k = 0
    · subst hzero'
      rfl
    · rw [whole, dif_neg hzero']
      rfl
  · by_cases hzero' : k = 0
    · subst hzero'
      rw [Nat.add_zero, whole, dif_neg hzero, whole, dif_pos rfl]
      rfl
    · have hsum := normalize_whole hn (max (room n) (room k))
      have hfiner : min (-(room n : Int)) (-(room k : Int))
          = -((max (room n) (room k) : Nat) : Int) := by
        omega
      rw [whole, dif_neg hzero, whole, dif_neg hzero', ← hsum, add_finite, hfiner,
        shiftLeft_align (Nat.le_max_left _ _), shiftLeft_align (Nat.le_max_right _ _),
        ← Int.natCast_add]
      congr 2
      rw [Nat.shiftLeft_eq, Nat.shiftLeft_eq, Nat.shiftLeft_eq, Nat.add_mul]

theorem mul_one_finite (hm : 0 < m) :
    UnpackedFloat.mul Format.binary32 (.finite .positive m e hm)
        (.finite .positive 8388608 (-23) (by decide))
      = roundWithAccuracy Format.binary32 .positive (m <<< 23) (e + -23) .exact := by
  rw [show m <<< 23 = m * 8388608 from Nat.shiftLeft_eq m 23]
  rfl

theorem mul_one_whole (hn : n < 16777216) :
    UnpackedFloat.mul Format.binary32 (whole n) (.finite .positive 8388608 (-23) (by decide))
      = whole n := by
  by_cases hzero : n = 0
  · subst hzero
    rfl
  · have hpos : 0 < n := Nat.pos_of_ne_zero hzero
    have hroom := room_eq hn
    rw [whole, dif_neg hzero, mul_one_finite,
      roundWithAccuracy_exact (Nat.shiftLeft_pos_iff.2 hpos) (log2_room hpos hn) (by omega)]
    congr 1
    omega

theorem spells_whole (hn : n < 16777216) : ∃ M, Spells .positive M (whole n) := by
  by_cases hzero : n = 0
  · subst hzero
    exact ⟨0, .zero rfl⟩
  · have hpos : 0 < n := Nat.pos_of_ne_zero hzero
    have hroom := room_eq hn
    have hne : n <<< room n ≠ 0 := Nat.ne_of_gt (Nat.shiftLeft_pos_iff.2 hpos)
    have hfull := (Nat.log2_eq_iff hne).1 (log2_room hpos hn)
    refine ⟨((-(room n : Int) + 149) * 8388608 + (n <<< room n : Nat)).toNat, ?_⟩
    rw [whole, dif_neg hzero]
    exact .finite _ _ _ ⟨by omega, by omega, by omega, by omega⟩ (by omega)

/-! ### Sums -/

theorem float32_ofNat (hn : n < 8388608) : Float32.ofNat n = .ofModel (.pack (whole n)) := by
  have hone : (Float32.ofBits 0x3F800000).toModel.unpack
      = .finite .positive 8388608 (-23) (by decide) := rfl
  have hword : n.toUInt64.toFloat32.toModel = .pack (whole n) := by
    have hnat : n.toUInt64.toNat = n := by
      simp
      omega
    show Float32.Model.pack
      (UnpackedFloat.normalize Format.binary32 (n.toUInt64.toNat : Int) 0 .positive) = _
    rw [hnat, ← normalize_whole (n := n) (by omega) 0]
    rfl
  have hunpack : n.toUInt64.toFloat32.toModel.unpack = whole n := by
    obtain ⟨M, hM⟩ := spells_whole (n := n) (by omega)
    rw [hword]
    exact decoded_encoded hM
  show Float32.ofScientific n false 0 = _
  rw [Float32.ofScientific, dif_pos ⟨hn, by decide⟩]
  show Float32.ofModel (.pack (UnpackedFloat.mul Format.binary32
    n.toUInt64.toFloat32.toModel.unpack (Float32.ofBits 0x3F800000).toModel.unpack)) = _
  rw [hunpack, hone, mul_one_whole (by omega)]

theorem decoded_ofNat (hn : n < 8388608) : (ofNat n).decoded = whole n := by
  obtain ⟨M, hM⟩ := spells_whole (n := n) (by omega)
  rw [ofNat, float32_ofNat hn]
  exact decoded_encoded hM

theorem isNaN_ofNat (hn : n < 8388608) : (ofNat n).isNaN = false := by
  apply Bool.eq_false_iff.2
  intro hnan
  have hdecoded := (decoded_of_isNaN hnan).symm.trans (decoded_ofNat hn)
  by_cases hzero : n = 0
  · rw [whole, dif_pos hzero] at hdecoded
    cases hdecoded
  · rw [whole, dif_neg hzero] at hdecoded
    cases hdecoded

/-- Small whole numbers add without rounding. -/
theorem ofNat_add (hn : n + k < 8388608) : ofNat n + ofNat k = ofNat (n + k) := by
  have hmodel : ((ofNat n).toFloat32 + (ofNat k).toFloat32).toModel
      = .pack (UnpackedFloat.add Format.binary32 (whole n) (whole k)) := by
    rw [← decoded_ofNat (n := n) (by omega), ← decoded_ofNat (n := k) (by omega),
      ← unpack_toFloat32, ← unpack_toFloat32]
    rfl
  have hsum : (ofNat n).toFloat32 + (ofNat k).toFloat32 = Float32.ofNat (n + k) := by
    rw [float32_ofNat hn, ← add_whole (by omega), ← hmodel]
  have hresult : ofResult (Float32.ofNat (n + k)) = ofNat (n + k) := by
    rw [ofResult]
    exact if_neg (Bool.eq_false_iff.1 (isNaN_ofNat hn))
  show lift (· + ·) (ofNat n) (ofNat k) = _
  rw [lift, isNaN_ofNat (by omega), isNaN_ofNat (by omega), hsum, hresult]
  rfl

end VoxelScene.Single
