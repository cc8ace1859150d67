import Mathlib.Data.Rat.Cast.Order
import Mathlib.Algebra.Order.Field.Basic
import Mathlib.Tactic.Push
import QueryOptions.Literal.Reading
import QueryOptions.Proofs.Number.Layout

/-!
# Doubles that are integers

A numeral whose nearest double is an integer of 64 bits is read as that integer, so only the other
doubles are float literals: `Binary64.toInt64?` is what tells them apart, and
`toInt64?_eq_some_iff` says so in terms of the value of a double.

A float literal that is written and read again must not turn into an integer literal.  This could
only happen where its text is a numeral without a point that spells an integer of 64 bits, of
absolute value `n ≤ 2⁶³`.  Rounding does not pass a magnitude and keeps whole numbers whole, so the
double is a whole number `k ≤ 2⁶³` up to its sign:

```text
-k                the double is an integer of 64 bits
+k, k < 2⁶³       the double is an integer of 64 bits
+k, k = 2⁶³       its shortest digits are written out as 9223372036854776000, which is above 2⁶³
```

and none of the three can be (`not_isWord_of_plainInteger?`).
-/

namespace QueryOptions

/-! ## Whole magnitudes -/

namespace Magnitude

theorem whole?_eq_some {m : Magnitude} {n : ℕ} :
    m.whole? = some n ↔ m.isFinite = true ∧ m.units = n * unitsOfOne := by
  have hpos := unitsOfOne_pos
  unfold whole?
  generalize unitsOfOne = u at hpos
  constructor
  · intro h
    split at h
    · rename_i hwhole
      rw [Bool.and_eq_true, beq_iff_eq] at hwhole
      rw [← Option.some.inj h, Nat.div_mul_cancel (Nat.dvd_of_mod_eq_zero hwhole.2)]
      exact ⟨hwhole.1, rfl⟩
    · cases h
  · rintro ⟨hfinite, hunits⟩
    rw [hfinite, hunits, Nat.mul_mod_left, Nat.mul_div_cancel _ hpos]
    rfl

/-- The magnitude of 2⁶³. -/
def wordBound : Magnitude := ⟨1086 * binade, by decide⟩

theorem pow_wordBound : binade * 2 ^ 1085 = 2 ^ 63 * 2 ^ unitExponent := by decide +kernel

theorem units_wordBound : wordBound.units = 2 ^ 63 * unitsOfOne := by
  have hcode : wordBound.code = 1085 * binade + binade := by decide
  have hleading : Significand 1085 binade := ⟨fun _ => le_rfl, by omega⟩
  rw [units, hcode, unitsOfCode_eq hleading, unitsOfOne_eq, pow_wordBound]

theorem eq_of_units_eq {a b : Magnitude} (h : a.units = b.units) : a = b := by
  obtain ⟨a, ha⟩ := a
  obtain ⟨b, hb⟩ := b
  obtain rfl : a = b := unitsOfCode_strictMono.injective h
  rfl

/-- A whole number up to 2⁶³ is rounded to a whole number up to 2⁶³. -/
theorem exists_whole_of_ofDecimal {n : ℕ} {m : Magnitude} (h : ofDecimal ⟨n, 0⟩ = m)
    (hfinite : m.isFinite = true) (hn : n ≤ 2 ^ 63) : ∃ k ≤ 2 ^ 63, m.whole? = some k := by
  have hnearest : nearest n 1 = m := by simpa [ofDecimal_eq_nearest] using h
  obtain ⟨k, hk⟩ : unitsOfOne ∣ m.units := by
    rw [← hnearest] at hfinite ⊢
    exact unitsOfOne_dvd_units_nearest hfinite
  rw [Nat.mul_comm] at hk
  have hle : m.units ≤ wordBound.units := by
    have hcode : m.code ≤ wordBound.code := by
      rw [← hnearest]
      refine code_nearest_le Nat.one_pos ?_
      rw [Nat.mul_one]
      show _ ≤ wordBound.units
      rw [units_wordBound]
      exact Nat.mul_le_mul_right _ hn
    exact unitsOfCode_strictMono.monotone hcode
  rw [units_wordBound, hk] at hle
  exact ⟨k, Nat.le_of_mul_le_mul_right hle unitsOfOne_pos, whole?_eq_some.mpr ⟨hfinite, hk⟩⟩

end Magnitude

/-! ## Doubles and their values -/

namespace Binary64

/-- A whole number with a sign. -/
def ofWhole (negative : Bool) (n : ℕ) : ℤ := if negative then -(n : ℤ) else n

/-- The value of a finite double. -/
def value : Binary64 → ℚ
  | nan => 0
  | signed negative m => (ofWhole negative m.units : ℚ) / Magnitude.unitsOfOne

theorem ofWhole_mul (negative : Bool) (n u : ℕ) :
    ofWhole negative (n * u) = ofWhole negative n * u := by
  cases negative <;> simp [ofWhole]

theorem natAbs_ofWhole (negative : Bool) (n : ℕ) : (ofWhole negative n).natAbs = n := by
  cases negative with
  | false => rfl
  | true => simp [ofWhole]

theorem dvd_ofWhole {negative : Bool} {u n : ℕ} : (u : ℤ) ∣ ofWhole negative n ↔ u ∣ n := by
  cases negative <;> simp [ofWhole, Int.natCast_dvd_natCast]

theorem value_eq_iff {negative : Bool} {m : Magnitude} {z : ℤ} :
    (signed negative m).value = z ↔ ofWhole negative m.units = z * Magnitude.unitsOfOne := by
  have hpos := Magnitude.unitsOfOne_pos
  unfold value
  generalize Magnitude.unitsOfOne = u at hpos
  rw [div_eq_iff (by exact_mod_cast hpos.ne')]
  exact_mod_cast Iff.rfl

theorem isWord_iff {z : ℤ} : isWord z = true ↔ -2 ^ 63 ≤ z ∧ z < 2 ^ 63 := by
  unfold isWord wordBound
  rw [Bool.and_eq_true, decide_eq_true_eq, decide_eq_true_eq]
  norm_num

theorem isWord_toInt (z : Int64) : isWord z.toInt = true :=
  isWord_iff.mpr ⟨Int64.le_toInt z, Int64.toInt_lt z⟩

theorem toInt_ofInt {z : ℤ} (h : isWord z = true) : (Int64.ofInt z).toInt = z :=
  Int64.toInt_ofInt_of_le (isWord_iff.mp h).1 (isWord_iff.mp h).2

theorem toInt64?_eq (negative : Bool) (m : Magnitude) :
    (signed negative m).toInt64? = m.whole?.bind fun n =>
      if isWord (ofWhole negative n) then some (Int64.ofInt (ofWhole negative n)) else none := by
  unfold toInt64? ofWhole
  simp only
  cases m.whole? with
  | none => rfl
  | some n => rfl

theorem toInt64?_signed (negative : Bool) (m : Magnitude) :
    (signed negative m).toInt64? = none ↔
      ∀ n, m.whole? = some n → isWord (ofWhole negative n) = false := by
  simp [toInt64?_eq]

/-- Infinity is beyond all integers of 64 bits. -/
theorem isFinite_of_value_eq {negative : Bool} {m : Magnitude} {z : Int64}
    (h : (signed negative m).value = z.toInt) : (signed negative m).isFinite = true := by
  by_contra hinfinite
  have hbeyond : infinityCode ≤ m.code := not_lt.mp fun hlt => hinfinite (decide_eq_true hlt)
  have hcode : Magnitude.wordBound.code < m.code := lt_of_lt_of_le (by decide) hbeyond
  have hunits : m.units = z.toInt.natAbs * Magnitude.unitsOfOne := by
    rw [value_eq_iff] at h
    rw [← natAbs_ofWhole negative m.units, h, Int.natAbs_mul, Int.natAbs_natCast]
  have hword : z.toInt.natAbs ≤ 2 ^ 63 := by
    have hlower := Int64.le_toInt z
    have hupper := Int64.toInt_lt z
    omega
  have hle : m.units ≤ Magnitude.wordBound.units := by
    rw [hunits, Magnitude.units_wordBound]
    exact Nat.mul_le_mul_right _ hword
  exact absurd hle (not_le_of_gt (Magnitude.unitsOfCode_strictMono hcode))

theorem value_of_toInt64? {negative : Bool} {m : Magnitude} {z : Int64}
    (h : (signed negative m).toInt64? = some z) : (signed negative m).value = z.toInt := by
  rw [toInt64?_eq] at h
  obtain ⟨n, hwhole, hz⟩ := Option.bind_eq_some_iff.mp h
  split at hz
  · rename_i hword
    rw [← Option.some.inj hz, toInt_ofInt hword, value_eq_iff,
      (Magnitude.whole?_eq_some.mp hwhole).2, ofWhole_mul]
  · cases hz

theorem toInt64?_of_value_eq {negative : Bool} {m : Magnitude} {z : Int64}
    (h : (signed negative m).value = z.toInt) : (signed negative m).toInt64? = some z := by
  have hunits := value_eq_iff.mp h
  obtain ⟨n, hn⟩ : Magnitude.unitsOfOne ∣ m.units :=
    dvd_ofWhole.mp ⟨z.toInt, by rw [hunits, mul_comm]⟩
  rw [Nat.mul_comm] at hn
  have hwhole : m.whole? = some n := Magnitude.whole?_eq_some.mpr ⟨isFinite_of_value_eq h, hn⟩
  rw [hn, ofWhole_mul] at hunits
  have hpos : (Magnitude.unitsOfOne : ℤ) ≠ 0 := by
    exact_mod_cast Magnitude.unitsOfOne_pos.ne'
  rw [toInt64?_eq, hwhole, Option.bind_some, mul_right_cancel₀ hpos hunits,
    if_pos (isWord_toInt z), Int64.ofInt_toInt]

/-- **A double is taken for an integer** exactly if that is its value. -/
theorem toInt64?_eq_some_iff {negative : Bool} {m : Magnitude} {z : Int64} :
    (signed negative m).toInt64? = some z ↔ (signed negative m).value = z.toInt :=
  ⟨value_of_toInt64?, toInt64?_of_value_eq⟩

/-- The doubles that are no integers of 64 bits, by their values. -/
theorem toInt64?_eq_none_iff {x : Binary64} (hx : x.isFinite = true) :
    x.toInt64? = none ↔ ∀ z : ℤ, isWord z = true → x.value ≠ z := by
  cases x with
  | nan => cases hx
  | signed negative m =>
      constructor
      · intro h z hz hvalue
        rw [← toInt_ofInt hz] at hvalue
        rw [toInt64?_of_value_eq hvalue] at h
        cases h
      · intro h
        cases hword : (signed negative m).toInt64? with
        | none => rfl
        | some z => exact absurd (value_of_toInt64? hword) (h _ (isWord_toInt z))

/-! ## The text of a float literal -/

theorem plainInteger?_eq_some {n : Numeral} {z : ℤ} (h : n.plainInteger? = some z) :
    z = ofWhole n.negative n.decimal.coefficient ∧ n.decimal.scale = 0 := by
  unfold Numeral.plainInteger? at h
  split at h
  · rename_i hplain
    rw [Bool.and_eq_true, Option.isNone_iff_eq_none, Option.isNone_iff_eq_none] at hplain
    rw [← Option.some.inj h]
    simp [Numeral.decimal, hplain.1, hplain.2, Numeral.signedInteger, ofWhole]
  · cases h

theorem plainInteger?_numeral_wordBound :
    (FloatLayout.query.numeral false Magnitude.wordBound).plainInteger? =
      some 9223372036854776000 := by
  decide +kernel

theorem ne_zero_of_toInt64? {negative : Bool} {m : Magnitude}
    (hfloat : (signed negative m).toInt64? = none) : m ≠ .zero := by
  rintro rfl
  have hwhole : Magnitude.zero.whole? = some 0 :=
    Magnitude.whole?_eq_some.mpr ⟨by decide, by rw [Magnitude.units_zero, Nat.zero_mul]⟩
  have hword := (toInt64?_signed negative .zero).mp hfloat 0 hwhole
  cases negative <;> exact absurd hword (by decide)

/-- The numeral that is written for a float literal spells no integer of 64 bits. -/
theorem not_isWord_of_plainInteger? {negative : Bool} {m : Magnitude} {z : ℤ}
    (hm : m.isFinite = true) (hfloat : (signed negative m).toInt64? = none)
    (hz : (FloatLayout.query.numeral negative m).plainInteger? = some z) : isWord z = false := by
  rw [Bool.eq_false_iff]
  intro hword
  obtain ⟨hspelled, hscale⟩ := plainInteger?_eq_some hz
  rw [FloatLayout.negative_numeral] at hspelled
  have hread := FloatLayout.ofDecimal_numeral .query negative m
  generalize (FloatLayout.query.numeral negative m).decimal = d at hspelled hscale hread
  obtain ⟨n, s⟩ := d
  simp only at hspelled hscale
  subst hscale
  rw [hspelled, isWord_iff] at hword
  have hn : n ≤ 2 ^ 63 := by
    unfold ofWhole at hword
    split at hword <;> omega
  -- the double is a whole number as well, and no greater than 2⁶³
  obtain ⟨k, hk, hwhole⟩ :=
    Magnitude.exists_whole_of_ofDecimal hread hm hn
  have hout := (toInt64?_signed negative m).mp hfloat k hwhole
  rw [Bool.eq_false_iff, ne_eq, isWord_iff] at hout
  -- but it is no integer of 64 bits, which leaves one case
  obtain ⟨rfl, rfl⟩ : negative = false ∧ k = 2 ^ 63 := by
    cases negative with
    | true =>
        simp only [ofWhole, if_true] at hout
        omega
    | false =>
        simp only [ofWhole, Bool.false_eq_true, if_false] at hout
        exact ⟨rfl, by omega⟩
  have hm' : m = Magnitude.wordBound := by
    refine Magnitude.eq_of_units_eq ?_
    rw [(Magnitude.whole?_eq_some.mp hwhole).2, Magnitude.units_wordBound]
  rw [hm', plainInteger?_numeral_wordBound] at hz
  rw [← hspelled, ← Option.some.inj hz] at hword
  omega

end Binary64

end QueryOptions
