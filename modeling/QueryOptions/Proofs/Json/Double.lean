import QueryOptions.Proofs.Json.Number
import QueryOptions.Proofs.Number.Rounding

/-!
# Reading doubles in JSON

The double that a number is computed as is the nearest one if the computation rounds only once:

* the digits are gathered completely, and all of them are a significand;
* the power of ten is a double itself, which the first 22 are, since five to the 22nd has 52 bits;
* then the product or the quotient is rounded, and nothing before it was.

So a number with less than 2⁵³ for its digits and a power of ten up to the 22nd, of either sign, is
read as it is everywhere else (`double?_eq_ofNumeral`), and a double that is written as such a number
is read back (`readsBack_of_decimal`).  Beyond that range a double may be read back as another one,
and the reader does not tell.
-/

namespace QueryOptions

/-! ## Exact operands -/

namespace Magnitude

theorem units_nearest_whole {n e : ℕ} (hn : n < 2 * binade) (he : e ≤ 971) :
    (nearest (n * 2 ^ e) 1).units = n * 2 ^ e * unitsOfOne := by
  obtain ⟨m, -, hunits⟩ := exists_units_eq hn he
  rw [nearest_eq_of_exact Nat.one_pos (hunits.symm.trans (Nat.mul_one _).symm), hunits]

/-- The product of whole numbers is rounded once. -/
theorem mul_eq_nearest {a b : Magnitude} {n k : ℕ} (ha : a.units = n * unitsOfOne)
    (hb : b.units = k * unitsOfOne) : a.mul b = nearest (n * k) 1 := by
  have hpos := unitsOfOne_pos
  unfold mul
  rw [ha, hb]
  refine nearest_congr (Nat.mul_pos hpos hpos) Nat.one_pos ?_
  generalize unitsOfOne = u
  ring

/-- The quotient of whole numbers is rounded once. -/
theorem div_eq_nearest {a b : Magnitude} {n k : ℕ} (ha : a.units = n * unitsOfOne)
    (hb : b.units = k * unitsOfOne) (hk : 0 < k) : a.div b = nearest n k := by
  have hpos := unitsOfOne_pos
  unfold div
  rw [ha, hb]
  refine nearest_congr (Nat.mul_pos hk hpos) hk ?_
  generalize unitsOfOne = u
  ring

end Magnitude

namespace Json

open Magnitude

theorem units_powerOfTen {k : ℕ} (hk : k ≤ 22) :
    (powerOfTen k).units = 10 ^ k * unitsOfOne := by
  have hfive : 5 ^ k < 2 * binade :=
    lt_of_le_of_lt (Nat.pow_le_pow_right (by decide) hk) (by decide)
  have hten : 10 ^ k = 5 ^ k * 2 ^ k := by rw [← Nat.mul_pow]
  unfold powerOfTen
  rw [ofDecimal_eq_nearest]
  simp only [Int.toNat_natCast, Int.toNat_neg_natCast, pow_zero, Nat.one_mul, hten]
  exact units_nearest_whole hfive (by omega)

/-! ## The parts of a number -/

theorem le_ofDigitChars (digits : Text) (n : ℕ) : n ≤ Nat.ofDigitChars 10 digits n := by
  rw [Nat.ofDigitChars_eq_ofDigitChars_zero]
  exact (Nat.le_mul_of_pos_left n (Nat.pow_pos (by decide))).trans (Nat.le_add_right ..)

theorem gather_eq {significand : ℕ} {digits : Text}
    (h : Nat.ofDigitChars 10 digits significand < UInt64.size) :
    gather significand digits = (Nat.ofDigitChars 10 digits significand, []) := by
  induction digits generalizing significand with
  | nil => rfl
  | cons c rest ih =>
      rw [Nat.ofDigitChars_cons, Nat.mul_comm] at h ⊢
      have hnext := lt_of_le_of_lt (le_ofDigitChars rest _) h
      rw [gather, if_pos hnext]
      exact ih h

/-- The digits are gathered completely if they are no greater than 64 bits. -/
theorem parts_eq {n : Numeral} (h : n.decimal.coefficient < UInt64.size) :
    parts n = (n.decimal.coefficient, n.decimal.scale) := by
  have hcoefficient : n.decimal.coefficient =
      Nat.ofDigitChars 10 (n.fraction.getD []) (Nat.ofDigitChars 10 n.whole 0) :=
    Nat.ofDigitChars_append 0
  rw [hcoefficient] at h ⊢
  have hwhole := gather_eq (lt_of_le_of_lt (le_ofDigitChars _ _) h)
  have hfraction := gather_eq h
  unfold parts
  simp only [hwhole, hfraction, Numeral.decimal, Prod.mk.injEq, true_and, List.length_nil]
  omega

/-! ## The double -/

theorem scaled?_eq {c : ℕ} {s : ℤ} (hc : c < 2 * binade) (hs : s.natAbs ≤ 22) :
    scaled? c s = some (ofDecimal ⟨c, s⟩) := by
  have hunits : (nearest c 1).units = c * unitsOfOne := by
    have hwhole := units_nearest_whole hc (Nat.zero_le 971)
    rwa [pow_zero, Nat.mul_one] at hwhole
  rw [ofDecimal_eq_nearest]
  unfold scaled?
  simp only
  by_cases hnegative : s < 0
  · have hzero : s.toNat = 0 := by omega
    have hneg : (-s).toNat = s.natAbs := by omega
    rw [if_pos hnegative, divide, if_pos (by omega),
      div_eq_nearest hunits (units_powerOfTen hs) (Nat.pow_pos (by decide)), hzero, hneg, pow_zero,
      Nat.mul_one]
  · have hzero : (-s).toNat = 0 := by omega
    have hpower := units_powerOfTen (k := s.toNat) (by omega)
    have hfinite : (nearest (c * 10 ^ s.toNat) 1).isFinite = true := by
      obtain ⟨m, hm, hbound⟩ := exists_units_eq (n := 1) (e := 127) (by decide) (by decide)
      have hle : c * 10 ^ s.toNat ≤ 1 * 2 ^ 127 :=
        calc c * 10 ^ s.toNat ≤ 2 * binade * 10 ^ 22 :=
              Nat.mul_le_mul hc.le (Nat.pow_le_pow_right (by decide) (by omega))
          _ ≤ 1 * 2 ^ 127 := by decide
      have hcode : (nearest (c * 10 ^ s.toNat) 1).code ≤ m.code := by
        refine code_nearest_le Nat.one_pos ?_
        rw [Nat.mul_one]
        exact (Nat.mul_le_mul_right _ hle).trans hbound.ge
      exact decide_eq_true (lt_of_le_of_lt hcode (of_decide_eq_true hm))
    rw [if_neg hnegative, if_pos (by omega), mul_eq_nearest hunits hpower, if_pos hfinite, hzero,
      pow_zero]

/-- **A number of few digits and a small power of ten** is read as the nearest double. -/
theorem double?_eq_ofNumeral {n : Numeral} (hc : n.decimal.coefficient < 2 ^ 53)
    (hs : n.decimal.scale.natAbs ≤ 22) : double? n = some (.ofNumeral n) := by
  have hparts := parts_eq (hc.trans (by decide))
  unfold double?
  rw [hparts]
  simp only
  rw [scaled?_eq hc hs]
  rfl

/-! ## Reading back -/

/-- The reader of numbers returns the double that was written. -/
def ReadsBack (x : Binary64) : Prop := ∀ n, ofBinary64 x = .number n → double? n = some x

theorem readsBack_signed {negative : Bool} {m : Magnitude} :
    ReadsBack (.signed negative m) ↔
      (m.isFinite = true →
        double? (FloatLayout.json.numeral negative m) = some (.signed negative m)) := by
  unfold ReadsBack ofBinary64
  by_cases hfinite : m.isFinite = true
  · simp [hfinite]
  · simp [hfinite]

instance : DecidablePred ReadsBack
  | .nan => isTrue nofun
  | .signed _ _ => decidable_of_iff _ readsBack_signed.symm

/-- **A double that is written with few digits and a small power of ten** is read back. -/
theorem readsBack_of_decimal {negative : Bool} {m : Magnitude}
    (hc : (FloatLayout.json.numeral negative m).decimal.coefficient < 2 ^ 53)
    (hs : (FloatLayout.json.numeral negative m).decimal.scale.natAbs ≤ 22) :
    ReadsBack (.signed negative m) := by
  rw [readsBack_signed]
  intro _
  rw [double?_eq_ofNumeral hc hs, FloatLayout.ofNumeral_numeral]

/-- The double nearest to 10⁻²³ comes back as its neighbour. -/
example : ¬ ReadsBack (.signed false (ofDecimal ⟨1, -23⟩)) := by decide +kernel

end Json

end QueryOptions
