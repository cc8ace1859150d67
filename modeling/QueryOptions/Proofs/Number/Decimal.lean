import QueryOptions.Proofs.Number.Nearest

/-!
# Rounding a decimal

`Magnitude.ofDecimal` forms no power of ten where the point stands too far from the digits.  It
answers zero or infinity there without any rounding, and this is what rounding would have answered:
the least positive double is above `10⁻³³¹` by more than a factor of two, and all doubles are below
`10³¹⁰`.  So the limits are nowhere to be seen, and a decimal is rounded as the quotient of two
whole numbers that it is, whatever its scale (`ofDecimal_eq_nearest`).
-/

namespace QueryOptions

/-! ## Rows of digits -/

namespace Numeral

theorem ofDigits_append (t u : Text) :
    ofDigits (t ++ u) = 10 ^ u.length * ofDigits t + ofDigits u := by
  unfold ofDigits
  rw [Nat.ofDigitChars_append, Nat.ofDigitChars_eq_ofDigitChars_zero]

theorem ofDigits_replicate_zero (n : ℕ) : ofDigits (List.replicate n '0') = 0 := by
  unfold ofDigits
  rw [Nat.ofDigitChars_replicate_zero, Nat.mul_zero]

theorem ofDigits_toDigits (n : ℕ) : ofDigits (Nat.toDigits 10 n) = n :=
  Nat.ofDigitChars_ten_toDigits

theorem signedInteger_toDigits (z : ℤ) :
    signedInteger (z < 0) (Nat.toDigits 10 z.natAbs) = z := by
  unfold signedInteger
  rw [ofDigits_toDigits]
  by_cases hz : z < 0
  · rw [decide_eq_true hz, if_pos rfl]
    omega
  · rw [decide_eq_false hz, if_neg Bool.false_ne_true]
    omega

/-- The digits of a number other than zero begin with another digit than zero. -/
theorem head?_toDigits_ne_zero {n : ℕ} (hn : n ≠ 0) : (Nat.toDigits 10 n).head? ≠ some '0' := by
  induction n using Nat.strong_induction_on with
  | _ n ih =>
      by_cases hlt : n < 10
      · have hdigit : ∀ n < 10, n ≠ 0 → Nat.digitChar n ≠ '0' := by decide
        rw [Nat.toDigits_of_lt_base hlt]
        exact fun h => hdigit n hlt hn (Option.some.inj h)
      · have hhead := ih (n / 10) (by omega) (by omega)
        obtain ⟨d, ds, hds⟩ := List.exists_cons_of_ne_nil (Nat.toDigits_ne_nil (n := n / 10))
        rw [Nat.toDigits_of_base_le (by decide) (not_lt.mp hlt)]
        rw [hds] at hhead ⊢
        exact hhead

theorem lt_pow_length_toDigits (n : ℕ) : n < 10 ^ (Nat.toDigits 10 n).length :=
  (Nat.length_toDigits_le_iff (by decide) Nat.length_toDigits_pos).mp le_rfl

/-- A number has no more digits than it needs. -/
theorem pow_length_toDigits_le {n k : ℕ} (hn : n ≠ 0) (hk : k < (Nat.toDigits 10 n).length) :
    10 ^ k ≤ n := by
  rcases Nat.eq_zero_or_pos k with rfl | hpos
  · exact Nat.one_le_iff_ne_zero.mpr hn
  · rw [← not_le, Nat.length_toDigits_le_iff (by decide) hpos, not_lt] at hk
    exact hk

end Numeral

namespace Magnitude

theorem units_zero : zero.units = 0 := unitsOfCode_of_lt binade_pos

theorem units_infinity : infinity.units = binade * 2 ^ 2046 := by
  have hcode : infinity.code = 2046 * binade + binade := by decide
  have hleading : Significand 2046 binade := ⟨fun _ => le_rfl, by omega⟩
  rw [units, hcode, unitsOfCode_eq hleading]

/-! ## Values beyond the limits -/

/-- What is below half a unit is rounded to zero. -/
theorem nearestUnits_eq_zero {scaled den : ℕ} (h : 2 * scaled < den) :
    nearestUnits scaled den = zero := by
  have hzero : unitsOfCode 0 = 0 := unitsOfCode_of_lt binade_pos
  have hone : unitsOfCode (0 + 1) = 1 := unitsOfCode_of_lt (by decide)
  have hlow : codeBelow (scaled / den) = 0 := by
    rw [Nat.div_eq_of_lt (by omega)]
    decide
  rw [nearestUnits_eq, hlow, hzero, hone, Nat.zero_add, Nat.one_mul, Nat.compare_eq_lt.mpr h]
  rfl

theorem ofCode_of_le {code : ℕ} (h : infinityCode ≤ code) : ofCode code = infinity := by
  unfold ofCode infinity
  congr 1
  exact Nat.min_eq_right h

theorem infinityCode_le_codeBelow {scaled den : ℕ} (hden : 0 < den)
    (h : infinity.units * den ≤ scaled) : infinityCode ≤ codeBelow (scaled / den) := by
  have hlt : unitsOfCode infinityCode < unitsOfCode (codeBelow (scaled / den) + 1) :=
    lt_of_le_of_lt ((Nat.le_div_iff_mul_le hden).mpr h) (lt_unitsOfCode_codeBelow_succ _)
  exact Nat.le_of_lt_succ (unitsOfCode_strictMono.lt_iff_lt.mp hlt)

theorem nearestUnits_eq_infinity {scaled den : ℕ} (hden : 0 < den)
    (h : infinity.units * den ≤ scaled) : nearestUnits scaled den = infinity := by
  have hle := infinityCode_le_codeBelow hden h
  rcases nearestUnits_eq_or scaled den with h | h
  · rw [h, ofCode_of_le hle]
  · rw [h, ofCode_of_le (Nat.le_succ_of_le hle)]

/-! ## The limits -/

/-- The least positive double and infinity, against the powers of ten that are not formed. -/
theorem limits :
    2 * 2 ^ unitExponent < 10 ^ 331 ∧ binade * 2 ^ 2046 ≤ 10 ^ 310 * 2 ^ unitExponent := by
  decide +kernel

theorem nearest_eq_zero_of_position {c e : ℕ} (h : (Nat.toDigits 10 c).length + 331 ≤ e) :
    nearest c (10 ^ e) = zero := by
  have hlimit := limits.1
  unfold nearest
  rw [unitsOfOne_eq]
  generalize 2 ^ unitExponent = u at hlimit
  refine nearestUnits_eq_zero ?_
  have hpow : 0 < 10 ^ (Nat.toDigits 10 c).length := Nat.pow_pos (by decide)
  calc 2 * (c * u) = c * (2 * u) := Nat.mul_left_comm ..
    _ ≤ 10 ^ (Nat.toDigits 10 c).length * (2 * u) :=
        Nat.mul_le_mul_right _ (Numeral.lt_pow_length_toDigits c).le
    _ < 10 ^ (Nat.toDigits 10 c).length * 10 ^ 331 := Nat.mul_lt_mul_of_pos_left hlimit hpow
    _ = 10 ^ ((Nat.toDigits 10 c).length + 331) := (pow_add ..).symm
    _ ≤ 10 ^ e := Nat.pow_le_pow_right (by decide) h

theorem nearest_eq_infinity_of_position {c e e' : ℕ} (hc : c ≠ 0)
    (h : 310 + e' < (Nat.toDigits 10 c).length + e) :
    nearest (c * 10 ^ e) (10 ^ e') = infinity := by
  have hlimit := limits.2
  have hpow : ∀ n : ℕ, 0 < 10 ^ n := fun n => Nat.pow_pos (by decide)
  unfold nearest
  rw [unitsOfOne_eq]
  refine nearestUnits_eq_infinity (hpow _) ?_
  rw [units_infinity]
  generalize 2 ^ unitExponent = u at hlimit
  have hdigits : 10 ^ (310 + e' - e) ≤ c :=
    Numeral.pow_length_toDigits_le hc (by have := Nat.length_toDigits_pos (b := 10) (n := c); omega)
  have hvalue : 10 ^ 310 * 10 ^ e' ≤ c * 10 ^ e :=
    calc 10 ^ 310 * 10 ^ e' = 10 ^ (310 + e') := (pow_add ..).symm
      _ ≤ 10 ^ (310 + e' - e + e) := Nat.pow_le_pow_right (by decide) (by omega)
      _ = 10 ^ (310 + e' - e) * 10 ^ e := pow_add ..
      _ ≤ c * 10 ^ e := Nat.mul_le_mul_right _ hdigits
  calc binade * 2 ^ 2046 * 10 ^ e' ≤ 10 ^ 310 * u * 10 ^ e' := Nat.mul_le_mul_right _ hlimit
    _ = 10 ^ 310 * 10 ^ e' * u := Nat.mul_right_comm ..
    _ ≤ c * 10 ^ e * u := Nat.mul_le_mul_right _ hvalue

theorem nearest_zero {den : ℕ} (hden : 0 < den) : nearest 0 den = zero := by
  refine nearest_eq_of_exact hden ?_
  rw [units_zero, Nat.zero_mul, Nat.zero_mul]

/-- **A decimal is rounded as a quotient.** -/
theorem ofDecimal_eq_nearest (d : Decimal) :
    ofDecimal d = nearest (d.coefficient * 10 ^ d.scale.toNat) (10 ^ (-d.scale).toNat) := by
  unfold ofDecimal
  simp only
  split_ifs with hsmall hgreat hscale
  · symm
    rcases hsmall with hzero | hposition
    · rw [hzero, Nat.zero_mul]
      exact nearest_zero (Nat.pow_pos (by decide))
    · rw [show d.scale.toNat = 0 by omega, pow_zero, Nat.mul_one]
      exact nearest_eq_zero_of_position (by omega)
  · exact (nearest_eq_infinity_of_position (fun h => hsmall (Or.inl h)) (by omega)).symm
  · rw [show (-d.scale).toNat = 0 by omega]
    rfl
  · rw [show d.scale.toNat = 0 by omega, pow_zero, Nat.mul_one]
    rfl

theorem ofDecimal_zero (s : ℤ) : ofDecimal ⟨0, s⟩ = zero := by
  unfold ofDecimal
  exact if_pos (Or.inl rfl)

/-- **Zeros at the end of the coefficient** may be counted by the scale instead. -/
theorem ofDecimal_mul_pow (c z : ℕ) (s : ℤ) : ofDecimal ⟨c * 10 ^ z, s⟩ = ofDecimal ⟨c, s + z⟩ := by
  have hpow : ∀ n : ℕ, 0 < 10 ^ n := fun n => Nat.pow_pos (by decide)
  rw [ofDecimal_eq_nearest, ofDecimal_eq_nearest]
  refine nearest_congr (hpow _) (hpow _) ?_
  simp only
  rw [Nat.mul_assoc, Nat.mul_assoc, Nat.mul_assoc, ← pow_add, ← pow_add, ← pow_add]
  congr 2
  omega

end Magnitude

end QueryOptions
