import Mathlib.Data.List.DropRight
import QueryOptions.Number.Shortest
import QueryOptions.Proofs.Number.Decimal

/-!
# Digits that read back

`Magnitude.shortest` tries a few decimals and keeps one that `Magnitude.ofDecimal` reads back.  If
none of them does, it keeps all the digits there are, and these read back for a reason of their
own: `Magnitude.exact` is the magnitude as a decimal without any loss (`ofDecimal_exact`).  So
whatever is kept, it reads back (`ofDecimal_shortest`).

A decimal can be written with zeros at the end of its coefficient or without them, and both have
the same nearest magnitude (`ofDecimal_mul_pow`).
-/

namespace QueryOptions

namespace Magnitude

/-! ## All the digits -/

theorem exact_eq (m : Magnitude) :
    m.exact = ⟨m.units * 5 ^ unitExponent, -(unitExponent : ℤ)⟩ := by
  unfold Magnitude.exact
  generalize unitExponent = e
  rfl

/-- **All the digits read back.** -/
theorem ofDecimal_exact (m : Magnitude) : ofDecimal m.exact = m := by
  rw [ofDecimal_eq_nearest, exact_eq]
  refine nearest_eq_of_exact (Nat.pow_pos (by decide)) ?_
  rw [unitsOfOne_eq]
  generalize unitExponent = e
  have hten : (10 : ℕ) ^ e = 5 ^ e * 2 ^ e := by rw [← Nat.mul_pow]
  simp only [neg_neg, Int.toNat_natCast, Int.toNat_neg_natCast, pow_zero, Nat.mul_one, hten,
    Nat.mul_assoc]

/-! ## Without the zeros at the end -/

theorem normalize_eq {c : ℕ} (hc : c ≠ 0) (s : ℤ) :
    ∃ c' z : ℕ, c = c' * 10 ^ z ∧ Decimal.normalize ⟨c, s⟩ = ⟨c', s + z⟩ := by
  obtain ⟨zeros, hzeros⟩ : ∃ zeros, zeros = (Nat.toDigits 10 c).rtakeWhile (· == '0') := ⟨_, rfl⟩
  have hrow : zeros = List.replicate zeros.length '0' := by
    refine List.eq_replicate_of_mem fun d hd => ?_
    rw [hzeros] at hd
    have hzero := List.mem_rtakeWhile_imp hd
    simpa using hzero
  have hc' : c = Numeral.ofDigits ((Nat.toDigits 10 c).rdropWhile (· == '0')) *
      10 ^ zeros.length := by
    have hdigits := congrArg Numeral.ofDigits
      (List.rdropWhile_append_rtakeWhile (p := (· == '0')) (l := Nat.toDigits 10 c))
    rw [← hzeros, Numeral.ofDigits_append, Numeral.ofDigits_toDigits] at hdigits
    rw [hrow, Numeral.ofDigits_replicate_zero, Nat.add_zero, Nat.mul_comm] at hdigits
    simpa using hdigits.symm
  refine ⟨_, zeros.length, hc', ?_⟩
  have hlength : ((Nat.toDigits 10 c).reverse.takeWhile (· == '0')).length = zeros.length := by
    rw [hzeros, List.rtakeWhile, List.length_reverse]
  unfold Decimal.normalize
  simp only [if_neg hc, hlength]
  congr 1
  exact Nat.div_eq_of_eq_mul_left (Nat.pow_pos (by decide)) hc'

theorem ofDecimal_normalize (d : Decimal) : ofDecimal d.normalize = ofDecimal d := by
  obtain ⟨c, s⟩ := d
  rcases eq_or_ne c 0 with rfl | hc
  · rw [ofDecimal_zero]
    exact ofDecimal_zero 0
  · obtain ⟨c', z, rfl, hnormalize⟩ := normalize_eq hc s
    rw [hnormalize, ofDecimal_mul_pow]

/-! ## The fewest digits -/

theorem ofDecimal_of_withoutLast? {rule : TieRule} {m : Magnitude} {all d : Decimal} {cut : ℕ}
    (h : withoutLast? rule m all cut = some d) : ofDecimal d = m := by
  unfold withoutLast? at h
  simp only at h
  split at h
  · rename_i hlower hupper
    rw [← Option.some.inj h]
    exact iteInduction (motive := fun d => ofDecimal d = m)
      (fun _ => of_decide_eq_true hupper) fun _ => of_decide_eq_true hlower
  · rename_i hlower _
    rw [← Option.some.inj h]
    exact of_decide_eq_true hlower
  · rename_i _ hupper
    rw [← Option.some.inj h]
    exact of_decide_eq_true hupper
  · cases h

/-- **The digits that are written read back.** -/
theorem ofDecimal_shortest (rule : TieRule) (m : Magnitude) : ofDecimal (m.shortest rule) = m := by
  unfold shortest
  simp only
  cases htried : (List.range' 1 17).findSome? fun n =>
      withoutLast? rule m m.exact ((Nat.toDigits 10 m.exact.coefficient).length - n) with
  | none => rw [Option.getD_none, ofDecimal_normalize, ofDecimal_exact]
  | some d =>
      obtain ⟨n, -, hn⟩ := List.exists_of_findSome?_eq_some htried
      exact ofDecimal_of_withoutLast? hn

end Magnitude

end QueryOptions
