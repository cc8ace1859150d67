import Mathlib.Tactic.Ring
import Mathlib.Order.Monotone.Basic
import QueryOptions.Number.Binary64

/-!
# The scale of magnitudes

`unitsOfCode` gives each code a whole number of units, and `codeBelow` looks up where a number of
units lies among them.  Everything about rounding rests on two facts: the scale is strictly
increasing (`unitsOfCode_strictMono`), and `codeBelow` finds the last code that is not above
(`unitsOfCode_codeBelow_le`, `lt_unitsOfCode_codeBelow_succ`).

Both come from one way to write a code.  With `s` for the binade and `q` for the significand, every
code is `s * binade + q` where `q` takes 53 bits, and full 53 bits unless `s = 0`; its value is then

  `unitsOfCode (s * binade + q) = q * 2 ^ s`,

which also holds for the `q = 2 * binade` that is one past the last significand
(`unitsOfCode_eq`).
-/

namespace QueryOptions.Magnitude

/-! ## Codes by binade and significand -/

theorem binade_pos : 0 < binade := by decide

theorem unitsOfOne_eq : unitsOfOne = 2 ^ unitExponent := by
  unfold unitsOfOne
  generalize unitExponent = e
  rfl

theorem unitsOfOne_pos : 0 < unitsOfOne := by
  rw [unitsOfOne_eq]
  exact Nat.pow_pos (by decide)

/-- A significand belongs to a binade: it has the leading bit, unless the binade is the first. -/
structure Significand (s q : ℕ) : Prop where
  leading : s ≠ 0 → binade ≤ q
  le : q ≤ 2 * binade

theorem unitsOfCode_of_lt {q : ℕ} (hq : q < binade) : unitsOfCode q = q := if_pos hq

/-- **The value of a code.** -/
theorem unitsOfCode_eq {s q : ℕ} (h : Significand s q) :
    unitsOfCode (s * binade + q) = q * 2 ^ s := by
  have hpos := binade_pos
  rcases Nat.lt_or_ge q binade with hlt | hge
  · -- without the leading bit there is only the first binade
    have hs : s = 0 := by
      by_contra hne
      exact absurd (h.leading hne) (not_le_of_gt hlt)
    subst hs
    rw [Nat.zero_mul, Nat.zero_add, unitsOfCode_of_lt hlt, pow_zero, Nat.mul_one]
  · have hle := h.le
    have hbig : ¬ s * binade + q < binade := by
      have := Nat.zero_le (s * binade)
      omega
    unfold unitsOfCode
    rw [if_neg hbig]
    rcases Nat.lt_or_ge q (2 * binade) with hlt | hlast
    · -- the leading bit is the one by which the quotient of the code exceeds the binade
      have hcode : s * binade + q = (q - binade) + binade * (s + 1) := by
        rw [Nat.mul_succ, Nat.mul_comm binade s]
        omega
      have hmod : (s * binade + q) % binade = q - binade := by
        rw [hcode, Nat.add_mul_mod_self_left, Nat.mod_eq_of_lt (by omega)]
      have hdiv : (s * binade + q) / binade = s + 1 := by
        rw [hcode, Nat.add_mul_div_left _ _ hpos, Nat.div_eq_of_lt (by omega), Nat.zero_add]
      rw [hmod, hdiv, Nat.add_sub_cancel, Nat.add_sub_cancel' hge]
      rfl
    · -- one past the last significand: the first code of the next binade
      obtain rfl : q = 2 * binade := le_antisymm hle hlast
      have hcode : s * binade + 2 * binade = binade * (s + 2) := by ring
      rw [hcode, Nat.mul_mod_right, Nat.mul_div_cancel_left _ hpos, Nat.add_zero,
        show s + 2 - 1 = s + 1 by omega]
      show binade * 2 ^ (s + 1) = _
      ring

/-- Every code is of this form. -/
theorem exists_significand (code : ℕ) :
    ∃ s q, code = s * binade + q ∧ Significand s q ∧ q < 2 * binade := by
  have hpos := binade_pos
  rcases Nat.lt_or_ge code binade with hlt | hge
  · exact ⟨0, code, by omega, ⟨fun h => absurd rfl h, by omega⟩, by omega⟩
  · have hdiv : 1 ≤ code / binade := (Nat.one_le_div_iff hpos).mpr hge
    have hmod := Nat.mod_lt code hpos
    have hcode := Nat.div_add_mod code binade
    refine ⟨code / binade - 1, binade + code % binade, ?_, ⟨fun _ => by omega, by omega⟩, by omega⟩
    rw [Nat.sub_mul, Nat.one_mul, Nat.mul_comm]
    have : binade ≤ binade * (code / binade) := Nat.le_mul_of_pos_right _ hdiv
    omega

theorem unitsOfCode_lt_succ (code : ℕ) : unitsOfCode code < unitsOfCode (code + 1) := by
  obtain ⟨s, q, rfl, hq, hlt⟩ := exists_significand code
  have hnext : Significand s (q + 1) :=
    ⟨fun hs => (hq.leading hs).trans (Nat.le_succ q), hlt⟩
  rw [unitsOfCode_eq hq, Nat.add_assoc, unitsOfCode_eq hnext]
  exact Nat.mul_lt_mul_of_pos_right (Nat.lt_succ_self q) (Nat.pow_pos (by decide))

theorem unitsOfCode_strictMono : StrictMono unitsOfCode :=
  strictMono_nat_of_lt_succ unitsOfCode_lt_succ

/-! ## Looking a value up -/

/-- The binade and the significand that `codeBelow` keeps of a number of units. -/
theorem exists_codeBelow_eq (units : ℕ) :
    ∃ s, codeBelow units = s * binade + units / 2 ^ s ∧ Significand s (units / 2 ^ s) ∧
      units / 2 ^ s < 2 * binade := by
  refine ⟨units.log2 - 52, rfl, ?_⟩
  have hupper : units / 2 ^ (units.log2 - 52) < 2 * binade := by
    rw [Nat.div_lt_iff_lt_mul (Nat.pow_pos (by decide))]
    have hlog : units < 2 ^ (units.log2 + 1) := Nat.lt_log2_self
    have hpow : 2 ^ (units.log2 + 1) ≤ 2 ^ (53 + (units.log2 - 52)) :=
      Nat.pow_le_pow_right (by decide) (by omega)
    rw [pow_add 2 53] at hpow
    exact hlog.trans_le hpow
  refine ⟨⟨fun hs => ?_, hupper.le⟩, hupper⟩
  have hunits : units ≠ 0 := by
    rintro rfl
    exact hs (by decide)
  rw [Nat.le_div_iff_mul_le (Nat.pow_pos (by decide))]
  have hlog : 2 ^ units.log2 ≤ units := Nat.log2_self_le hunits
  rwa [show units.log2 = 52 + (units.log2 - 52) by omega, pow_add] at hlog

/-- The code that is found is not above. -/
theorem unitsOfCode_codeBelow_le (units : ℕ) : unitsOfCode (codeBelow units) ≤ units := by
  obtain ⟨s, hcode, hq, -⟩ := exists_codeBelow_eq units
  rw [hcode, unitsOfCode_eq hq]
  exact Nat.div_mul_le_self units (2 ^ s)

/-- The code that is found is the last one that is not above. -/
theorem lt_unitsOfCode_codeBelow_succ (units : ℕ) :
    units < unitsOfCode (codeBelow units + 1) := by
  obtain ⟨s, hcode, hq, hlt⟩ := exists_codeBelow_eq units
  have hnext : Significand s (units / 2 ^ s + 1) :=
    ⟨fun hs => (hq.leading hs).trans (Nat.le_succ _), hlt⟩
  rw [hcode, Nat.add_assoc, unitsOfCode_eq hnext]
  exact Nat.lt_mul_of_div_lt (Nat.lt_succ_self _) (Nat.pow_pos (by decide))

theorem codeBelow_unitsOfCode (code : ℕ) : codeBelow (unitsOfCode code) = code := by
  have hle := unitsOfCode_codeBelow_le (unitsOfCode code)
  have hlt := lt_unitsOfCode_codeBelow_succ (unitsOfCode code)
  rw [unitsOfCode_strictMono.le_iff_le] at hle
  rw [unitsOfCode_strictMono.lt_iff_lt] at hlt
  omega

end QueryOptions.Magnitude
