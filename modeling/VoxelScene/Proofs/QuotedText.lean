import VoxelScene.Text.Quoted

/-!
Quoted texts are read back as they were written, whatever characters they hold: each character is
written as itself, as a backslash and a sign, or by its code point, and each of these forms is taken
back by one step of reading.
-/

namespace VoxelScene.Quoted

/-! ### Code points -/

theorem hexValue?_digitChar {d : Nat} (h : d < 16) : hexValue? (Nat.digitChar d) = some d := by
  revert d
  decide

theorem hexNumber_append (ds : List Char) (c : Char) :
    hexNumber (ds ++ [c]) = 16 * hexNumber ds + (hexValue? c).getD 0 := by
  simp [hexNumber]

theorem hexNumber_toDigits (n : Nat) : hexNumber (Nat.toDigits 16 n) = n := by
  induction n using Nat.strongRecOn with
  | ind n ih =>
    rw [Nat.toDigits_eq_if (by decide)]
    split
    · rename_i h
      simp [hexNumber, hexValue?_digitChar h]
    · rename_i h
      rw [hexNumber_append, ih (n / 16) (by omega), hexValue?_digitChar (Nat.mod_lt n (by decide))]
      exact Nat.div_add_mod n 16

theorem isSome_hexValue?_toDigits {n : Nat} :
    ∀ c ∈ Nat.toDigits 16 n, (hexValue? c).isSome = true := by
  induction n using Nat.strongRecOn with
  | ind n ih =>
    rw [Nat.toDigits_eq_if (by decide)]
    split
    · rename_i h
      simp [hexValue?_digitChar h]
    · rename_i h
      intro c hc
      rcases List.mem_append.mp hc with hc | hc
      · exact ih (n / 16) (by omega) c hc
      · rw [List.mem_singleton.mp hc, hexValue?_digitChar (Nat.mod_lt n (by decide))]
        rfl

theorem charAt_toNat (c : Char) : charAt c.toNat = .ok c := by
  have hvalid : c.toNat.isValidChar := c.valid
  rw [charAt, if_pos hvalid, Char.ofNat_toNat]

theorem readCodePoint_toDigits (c : Char) (rest : List Char) :
    readCodePoint ('\x7b' :: (Nat.toDigits 16 c.toNat ++ '\x7d' :: rest)) = .ok (c, rest) := by
  have hdigits : (Nat.toDigits 16 c.toNat ++ '\x7d' :: rest).takeWhile
      (fun c => (hexValue? c).isSome) = Nat.toDigits 16 c.toNat := by
    rw [List.takeWhile_append_of_pos isSome_hexValue?_toDigits]
    exact List.append_nil _
  have hlength : (Nat.toDigits 16 c.toNat).length ≤ 6 := by
    rw [Nat.length_toDigits_le_iff (by decide) (by decide)]
    rcases c.valid with h | h
    · exact Nat.lt_trans h (by decide)
    · exact Nat.lt_trans h.2 (by decide)
  rw [readCodePoint, hdigits, List.drop_left]
  show (if 1 ≤ (Nat.toDigits 16 c.toNat).length ∧ (Nat.toDigits 16 c.toNat).length ≤ 6
    then _ else _) = _
  rw [if_pos ⟨Nat.length_toDigits_pos, hlength⟩, hexNumber_toDigits, charAt_toNat]
  rfl

/-! ### Texts -/

theorem readBody_plain {k : Kind} {fuel : Nat} {c : Char} {more : List Char} {cs rest : List Char}
    (hquote : c ≠ '"') (hback : c ≠ '\\') (h : readBody k fuel more = .ok (cs, rest)) :
    readBody k (fuel + 1) (c :: more) = .ok (c :: cs, rest) := by
  rw [readBody]
  · rw [h]
    rfl
  all_goals grind

theorem readBody_escape {k : Kind} {fuel : Nat} {c m : Char} {more tail cs rest : List Char}
    (hn : m ≠ '\n') (hr : m ≠ '\r') (hescape : readEscape k (m :: more) = .ok (c, tail))
    (h : readBody k fuel tail = .ok (cs, rest)) :
    readBody k (fuel + 1) ('\\' :: m :: more) = .ok (c :: cs, rest) := by
  rw [readBody]
  · rw [hescape]
    show (readBody k fuel tail >>= _) = _
    rw [h]
    rfl
  all_goals grind

theorem readBody_escaped {fuel : Nat} {c : Char} {more cs rest : List Char}
    (h : readBody .text fuel more = .ok (cs, rest)) :
    readBody .text (fuel + 1) (escaped c ++ more) = .ok (c :: cs, rest) := by
  unfold escaped
  split
  iterate 7 exact readBody_escape (by decide) (by decide) rfl h
  split
  · exact readBody_plain ‹_› ‹_› h
  · have hescape : readEscape .text ('u' :: '\x7b' :: (Nat.toDigits 16 c.toNat ++ '\x7d' :: more)) =
        .ok (c, more) := readCodePoint_toDigits c more
    have htext : byCodePoint c ++ more =
        '\\' :: 'u' :: '\x7b' :: (Nat.toDigits 16 c.toNat ++ '\x7d' :: more) := by
      simp [byCodePoint]
    rw [htext]
    exact readBody_escape (by decide) (by decide) hescape h

theorem readBody_text (s rest : List Char) :
    ∀ fuel, s.length < fuel →
      readBody .text fuel (s.flatMap escaped ++ '"' :: rest) = .ok (s, rest) := by
  induction s with
  | nil =>
    intro fuel hfuel
    obtain ⟨fuel, rfl⟩ := Nat.exists_eq_succ_of_ne_zero (Nat.ne_of_gt hfuel)
    rfl
  | cons c s ih =>
    intro fuel hfuel
    match fuel, hfuel with
    | fuel + 1, hfuel =>
      rw [List.flatMap_cons, List.append_assoc]
      exact readBody_escaped (ih fuel (Nat.lt_of_succ_lt_succ hfuel))

theorem escaped_ne_nil (c : Char) : escaped c ≠ [] := by
  unfold escaped
  split
  iterate 7 exact List.cons_ne_nil _ _
  split
  · exact List.cons_ne_nil _ _
  · exact List.cons_ne_nil _ _

theorem length_le_flatMap (s : List Char) : s.length ≤ (s.flatMap escaped).length := by
  induction s with
  | nil => exact Nat.le_refl 0
  | cons c s ih =>
    have := List.length_pos_iff.mpr (escaped_ne_nil c)
    rw [List.flatMap_cons, List.length_append, List.length_cons]
    omega

/-- Every text is read back from its quoted form. -/
theorem read_write (s rest : List Char) : read (write s ++ rest) = .ok (s, rest) := by
  have htext : write s ++ rest = '"' :: (s.flatMap escaped ++ '"' :: rest) := by simp [write]
  rw [htext]
  show readBody .text _ _ = _
  apply readBody_text
  have := length_le_flatMap s
  rw [List.length_append, List.length_cons]
  omega

end VoxelScene.Quoted
