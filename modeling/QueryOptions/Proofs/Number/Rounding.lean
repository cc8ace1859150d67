import Mathlib.Tactic.FieldSimp
import Mathlib.Tactic.Linarith
import Mathlib.Algebra.Order.AbsoluteValue.Basic
import QueryOptions.Proofs.Number.Integral

/-!
# Correct rounding

`Binary64.ofNumeral` is the double nearest to the number that a numeral spells, ties to even
(`isNearest_ofNumeral`).  Being nearest is a statement about the values of all doubles, which are
rational numbers: none is nearer, and another one is as near only if the significand is even
(`Binary64.IsNearest`).  There is one such value only (`IsNearest.value_unique`).  Infinity takes
part with the number that would follow the largest double, 2¹⁰²⁴, which is how rounding decides
between the two.

The proof compares whole numbers.  With `scaled / den` for the number in units, the two codes that
`nearestUnits` chooses from are neighbours around it,

```text
      units low * den   ≤   scaled   <   units (low + 1) * den
```

and every other magnitude is beyond one of the two (`units_le_or_le`).  From infinity on there are
no neighbours, but then nothing is above (`distance_infinity_le`).
-/

namespace QueryOptions

/-! ## Values -/

/-- The value of a decimal. -/
def Decimal.value (d : Decimal) : ℚ := d.coefficient * 10 ^ d.scale

/-- A number with a sign. -/
def withSign (negative : Bool) (q : ℚ) : ℚ := if negative then -q else q

/-- The number that a numeral spells. -/
def Numeral.value (n : Numeral) : ℚ := withSign n.negative n.decimal.value

namespace Magnitude

/-- The value of a magnitude.  For infinity it is the number that would follow the largest one. -/
def value (m : Magnitude) : ℚ := m.units / unitsOfOne

/-- No magnitude is nearer to a number, and another one is as near only if the code is even. -/
structure IsNearest (q : ℚ) (m : Magnitude) : Prop where
  le : ∀ k : Magnitude, |m.value - q| ≤ |k.value - q|
  even : ∀ k : Magnitude, k ≠ m → |m.value - q| = |k.value - q| → m.code % 2 = 0

end Magnitude

/-- No double is nearer to a number, and another one is as near only if the code is even. -/
def Binary64.IsNearest (q : ℚ) : Binary64 → Prop
  | nan => False
  | signed negative m =>
    (∀ b k, |(signed negative m).value - q| ≤ |(signed b k).value - q|) ∧
      ∀ b k, (signed b k).value ≠ (signed negative m).value →
        |(signed negative m).value - q| = |(signed b k).value - q| → m.code % 2 = 0

/-! ## Rounding to whole units -/

namespace Magnitude

theorem units_le_or_le (low : ℕ) (k : Magnitude) :
    k.units ≤ unitsOfCode low ∨ unitsOfCode (low + 1) ≤ k.units := by
  rcases Nat.lt_or_ge low k.code with h | h
  · exact Or.inr (unitsOfCode_strictMono.monotone h)
  · exact Or.inl (unitsOfCode_strictMono.monotone h)

/-- The distance of a magnitude from `scaled / den`, in units and times the denominator. -/
def distance (scaled den : ℕ) (m : Magnitude) : ℕ := ((m.units * den : ℕ) - scaled : ℤ).natAbs

theorem distance_infinity_le {scaled den : ℕ} (h : infinity.units * den ≤ scaled)
    (k : Magnitude) : distance scaled den infinity ≤ distance scaled den k := by
  have hk : k.units * den ≤ infinity.units * den :=
    Nat.mul_le_mul_right _ (unitsOfCode_strictMono.monotone k.code_le)
  unfold distance
  omega

theorem eq_of_units_mul_eq {m k : Magnitude} {den : ℕ} (hden : 0 < den)
    (h : k.units * den = m.units * den) : k = m :=
  eq_of_units_eq (Nat.eq_of_mul_eq_mul_right hden h)

/-- **The choice between two neighbours** is right among all magnitudes. -/
theorem distance_ofNeighbours_le {scaled den low : ℕ} (hden : 0 < den)
    (hlow : low < infinityCode) (hle : unitsOfCode low * den ≤ scaled)
    (hlt : scaled < unitsOfCode (low + 1) * den) {m : Magnitude}
    (hm : m = ofNeighbours low
      (compare (2 * scaled) ((unitsOfCode low + unitsOfCode (low + 1)) * den)))
    (k : Magnitude) :
    distance scaled den m ≤ distance scaled den k ∧
      (k ≠ m → distance scaled den m = distance scaled den k → m.code % 2 = 0) := by
  have hlower : (ofCode low).units = unitsOfCode low := units_ofCode_of_le hlow.le
  have hupper : (ofCode (low + 1)).units = unitsOfCode (low + 1) := units_ofCode_of_le hlow
  have hk : k.units * den ≤ unitsOfCode low * den ∨ unitsOfCode (low + 1) * den ≤ k.units * den :=
    (units_le_or_le low k).imp (Nat.mul_le_mul_right den) (Nat.mul_le_mul_right den)
  rw [Nat.add_mul] at hm
  unfold distance
  rcases Nat.lt_trichotomy (2 * scaled) (unitsOfCode low * den + unitsOfCode (low + 1) * den)
    with h | h | h
  · -- nearer to the lower neighbour
    obtain rfl : m = ofCode low := by rw [hm, Nat.compare_eq_lt.mpr h, ofNeighbours]
    rw [hlower]
    refine ⟨by omega, fun hne heq => absurd (eq_of_units_mul_eq hden ?_) hne⟩
    rw [hlower]
    omega
  · -- in the middle: both are as near, and the even one is taken
    have hcode : m.code % 2 = 0 := by
      rw [hm, Nat.compare_eq_eq.mpr h, ofNeighbours]
      show min (low + low % 2) infinityCode % 2 = 0
      omega
    refine ⟨?_, fun _ _ => hcode⟩
    rcases ofNeighbours_eq_or low .eq with hor | hor
    · rw [hm, Nat.compare_eq_eq.mpr h, hor, hlower]
      omega
    · rw [hm, Nat.compare_eq_eq.mpr h, hor, hupper]
      omega
  · -- nearer to the upper neighbour
    obtain rfl : m = ofCode (low + 1) := by rw [hm, Nat.compare_eq_gt.mpr h, ofNeighbours]
    rw [hupper]
    refine ⟨by omega, fun hne heq => absurd (eq_of_units_mul_eq hden ?_) hne⟩
    rw [hupper]
    omega

theorem distance_nearestUnits_le {scaled den : ℕ} (hden : 0 < den) (k : Magnitude) :
    distance scaled den (nearestUnits scaled den) ≤ distance scaled den k ∧
      (k ≠ nearestUnits scaled den →
        distance scaled den (nearestUnits scaled den) = distance scaled den k →
          (nearestUnits scaled den).code % 2 = 0) := by
  have hle : unitsOfCode (codeBelow (scaled / den)) * den ≤ scaled :=
    (Nat.le_div_iff_mul_le hden).mp (unitsOfCode_codeBelow_le _)
  have hlt : scaled < unitsOfCode (codeBelow (scaled / den) + 1) * den :=
    (Nat.div_lt_iff_lt_mul hden).mp (lt_unitsOfCode_codeBelow_succ _)
  rcases Nat.lt_or_ge (codeBelow (scaled / den)) infinityCode with hlow | hinfinity
  · exact distance_ofNeighbours_le hden hlow hle hlt (nearestUnits_eq scaled den) k
  · have hbeyond : infinity.units * den ≤ scaled :=
      (Nat.mul_le_mul_right den (unitsOfCode_strictMono.monotone hinfinity)).trans hle
    rw [nearestUnits_eq_infinity hden hbeyond]
    exact ⟨distance_infinity_le hbeyond k, fun _ _ => by decide⟩

/-! ## Rounding a quotient -/

/-- The distance of the values, from the distance in whole units. -/
theorem abs_value_sub (num : ℕ) {den : ℕ} (hden : 0 < den) (m : Magnitude) :
    |m.value - num / den| = distance (num * unitsOfOne) den m / (unitsOfOne * den) := by
  have hpos := unitsOfOne_pos
  unfold value distance
  generalize unitsOfOne = u at hpos
  have hu : (0 : ℚ) < u := by exact_mod_cast hpos
  have hd : (0 : ℚ) < den := by exact_mod_cast hden
  have hsub : (m.units / u - num / den : ℚ) =
      (((m.units * den : ℕ) - (num * u : ℕ) : ℤ) : ℚ) / (u * den) := by
    push_cast
    field_simp
  rw [hsub, abs_div, abs_of_pos (mul_pos hu hd), Nat.cast_natAbs, Int.cast_abs]

theorem isNearest_nearest (num : ℕ) {den : ℕ} (hden : 0 < den) :
    (nearest num den).IsNearest (num / den) := by
  have hscale : (0 : ℚ) < unitsOfOne * den := by
    exact_mod_cast Nat.mul_pos unitsOfOne_pos hden
  unfold nearest
  constructor
  · intro k
    rw [abs_value_sub num hden, abs_value_sub num hden]
    exact div_le_div_of_nonneg_right (Nat.cast_le.mpr (distance_nearestUnits_le hden k).1) hscale.le
  · intro k hne heq
    rw [abs_value_sub num hden, abs_value_sub num hden, div_left_inj' hscale.ne'] at heq
    exact (distance_nearestUnits_le hden k).2 hne (by exact_mod_cast heq)

/-- The whole numbers of 53 bits and some zeros are finite magnitudes, as long as there are not more
zeros than the last binade has. -/
theorem exists_units_eq {n e : ℕ} (hn : n < 2 * binade) (he : e ≤ 971) :
    ∃ m : Magnitude, m.isFinite = true ∧ m.units = n * 2 ^ e * unitsOfOne := by
  have hexact : unitsOfCode (codeBelow (n * 2 ^ e * unitsOfOne)) = n * 2 ^ e * unitsOfOne := by
    rw [unitsOfOne_eq, Nat.mul_assoc, ← pow_add]
    exact unitsOfCode_codeBelow_of_lt hn
  have hlt : n * 2 ^ e * unitsOfOne < infinity.units := by
    rw [units_infinity, unitsOfOne_eq]
    calc n * 2 ^ e * 2 ^ unitExponent < 2 * binade * 2 ^ e * 2 ^ unitExponent :=
          Nat.mul_lt_mul_of_pos_right
            (Nat.mul_lt_mul_of_pos_right hn (Nat.pow_pos (by decide))) (Nat.pow_pos (by decide))
      _ ≤ 2 * binade * 2 ^ 971 * 2 ^ unitExponent :=
          Nat.mul_le_mul_right _ (Nat.mul_le_mul_left _ (Nat.pow_le_pow_right (by decide) he))
      _ = binade * 2 ^ 2046 := by decide +kernel
  have hcode : codeBelow (n * 2 ^ e * unitsOfOne) < infinityCode := by
    refine unitsOfCode_strictMono.lt_iff_lt.mp ?_
    rw [hexact]
    exact hlt
  exact ⟨⟨_, hcode.le⟩, decide_eq_true hcode, hexact⟩

/-- The whole numbers below 2⁵³ are magnitudes. -/
theorem exists_value_eq {n : ℕ} (hn : n < 2 * binade) : ∃ m : Magnitude, m.value = n := by
  obtain ⟨m, -, hunits⟩ := exists_units_eq hn (Nat.zero_le 971)
  have hpos := unitsOfOne_pos
  refine ⟨m, ?_⟩
  unfold value
  rw [hunits, pow_zero, Nat.mul_one]
  generalize unitsOfOne = u at hpos
  push_cast
  exact mul_div_cancel_right₀ _ (by exact_mod_cast hpos.ne')

/-! ## Rounding a numeral -/

theorem isNearest_ofDecimal (d : Decimal) : (ofDecimal d).IsNearest d.value := by
  have hvalue : d.value =
      (d.coefficient * 10 ^ d.scale.toNat : ℕ) / (10 ^ (-d.scale).toNat : ℕ) := by
    obtain ⟨c, s⟩ := d
    unfold Decimal.value
    simp only
    push_cast
    rw [mul_div_assoc, ← zpow_natCast, ← zpow_natCast, ← zpow_sub₀ (by norm_num)]
    congr 2
    omega
  rw [hvalue, ofDecimal_eq_nearest]
  exact isNearest_nearest _ (Nat.pow_pos (by decide))

theorem value_nonneg (m : Magnitude) : 0 ≤ m.value :=
  div_nonneg (Nat.cast_nonneg _) (Nat.cast_nonneg _)

theorem value_zero : zero.value = 0 := by
  rw [value, units_zero, Nat.cast_zero, zero_div]

/-- A nearest magnitude that is as far from a number as their sum is zero. -/
theorem IsNearest.value_eq_zero {q : ℚ} {m : Magnitude} (hm : m.IsNearest q)
    (h : |m.value - q| = m.value + q) : m.value = 0 := by
  have hpos := m.value_nonneg
  rcases abs_cases (m.value - q) with ⟨habs, -⟩ | ⟨habs, -⟩
  · -- then the number is zero, and zero would be nearer
    have hq : q = 0 := by linarith
    have hle := hm.le zero
    rw [hq, value_zero, sub_zero, sub_zero, abs_zero] at hle
    exact abs_nonpos_iff.mp hle
  · linarith

end Magnitude

theorem Decimal.value_nonneg (d : Decimal) : 0 ≤ d.value :=
  mul_nonneg (Nat.cast_nonneg _) (zpow_nonneg (by norm_num) _)

theorem withSign_zero (negative : Bool) : withSign negative 0 = 0 := by
  cases negative with
  | false => rfl
  | true => exact neg_zero

theorem abs_withSign_sub (negative : Bool) (p q : ℚ) :
    |withSign negative p - withSign negative q| = |p - q| := by
  cases negative with
  | false => rfl
  | true =>
      have hneg : withSign true p - withSign true q = -(p - q) := by
        simp only [withSign, if_true]
        ring
      rw [hneg, abs_neg]

/-- Unequal signs put two numbers as far apart as their sum. -/
theorem abs_withSign_sub_of_ne {b c : Bool} (h : b ≠ c) {p q : ℚ} (hp : 0 ≤ p) (hq : 0 ≤ q) :
    |withSign b p - withSign c q| = p + q := by
  cases b with
  | false =>
      obtain rfl : c = true := by simpa using h
      simp only [withSign, if_true, Bool.false_eq_true, if_false, sub_neg_eq_add]
      exact abs_of_nonneg (add_nonneg hp hq)
  | true =>
      obtain rfl : c = false := by simpa using h
      simp only [withSign, if_true, Bool.false_eq_true, if_false]
      rw [abs_sub_comm, sub_neg_eq_add, add_comm]
      exact abs_of_nonneg (add_nonneg hp hq)

theorem abs_sub_le_add {p q : ℚ} (hp : 0 ≤ p) (hq : 0 ≤ q) : |p - q| ≤ p + q :=
  abs_le.mpr ⟨by linarith, by linarith⟩

namespace Binary64

theorem ofWhole_cast (negative : Bool) (n : ℕ) :
    (ofWhole negative n : ℚ) = withSign negative n := by
  cases negative with
  | false => simp [ofWhole, withSign]
  | true => simp [ofWhole, withSign]

theorem value_signed (negative : Bool) (m : Magnitude) :
    (signed negative m).value = withSign negative m.value := by
  unfold value Magnitude.value
  simp only [ofWhole_cast]
  generalize Magnitude.unitsOfOne = u
  cases negative with
  | false => rfl
  | true => exact neg_div ..

/-- A double of the right sign is nearest if its magnitude is. -/
theorem isNearest_signed {q : ℚ} (hq : 0 ≤ q) {m : Magnitude} (hm : m.IsNearest q)
    (negative : Bool) : (signed negative m).IsNearest (withSign negative q) := by
  have hdistance : ∀ b (k : Magnitude),
      |k.value - q| ≤ |withSign b k.value - withSign negative q| := by
    intro b k
    by_cases hb : b = negative
    · rw [hb, abs_withSign_sub]
    · rw [abs_withSign_sub_of_ne hb k.value_nonneg hq]
      exact abs_sub_le_add k.value_nonneg hq
  refine ⟨fun b k => ?_, fun b k hne heq => ?_⟩
  · rw [value_signed, value_signed, abs_withSign_sub]
    exact (hm.le k).trans (hdistance b k)
  · rw [value_signed, value_signed] at hne heq
    rw [abs_withSign_sub] at heq
    by_cases hk : k = m
    · -- the same magnitude with the other sign is as near to zero only, and then it is zero
      subst hk
      have hb : b ≠ negative := fun hb => hne (by rw [hb])
      rw [abs_withSign_sub_of_ne hb k.value_nonneg hq] at heq
      rw [hm.value_eq_zero heq, withSign_zero, withSign_zero] at hne
      exact absurd rfl hne
    · exact hm.even k hk (le_antisymm (hm.le k) (heq ▸ hdistance b k))

/-- **A numeral denotes the double nearest to the number that it spells.** -/
theorem isNearest_ofNumeral (n : Numeral) : (ofNumeral n).IsNearest n.value :=
  isNearest_signed n.decimal.value_nonneg (Magnitude.isNearest_ofDecimal n.decimal) n.negative

/-- What is a double already is its own nearest double. -/
theorem IsNearest.value_eq {q : ℚ} {x : Binary64} (hx : x.IsNearest q) {negative : Bool}
    {m : Magnitude} (hm : (signed negative m).value = q) : x.value = q := by
  cases x with
  | nan => exact absurd hx id
  | signed b k =>
      have hle := hx.1 negative m
      rw [hm, sub_self, abs_zero] at hle
      exact sub_eq_zero.mp (abs_nonpos_iff.mp hle)

/-- An integer below 2⁵³ in absolute value is its own nearest double. -/
theorem IsNearest.value_eq_intCast {z : ℤ} (hz : z.natAbs < 2 ^ 53) {x : Binary64}
    (hx : x.IsNearest z) : x.value = z := by
  obtain ⟨m, hm⟩ := Magnitude.exists_value_eq hz
  have hvalue : (signed (decide (z < 0)) m).value = z := by
    rw [value_signed, hm, withSign, Nat.cast_natAbs]
    split_ifs with hneg
    · rw [abs_of_neg (of_decide_eq_true hneg), Int.cast_neg, neg_neg]
    · rw [abs_of_nonneg (not_lt.mp fun h => hneg (decide_eq_true h))]
  exact hx.value_eq hvalue

end Binary64

/-! ## The nearest double is unique

Two doubles that are as near to a number have even codes, and between two even codes there is
another one, which is nearer. -/

namespace Magnitude

theorem value_lt_iff {m k : Magnitude} : m.value < k.value ↔ m.code < k.code := by
  have hpos : (0 : ℚ) < unitsOfOne := by exact_mod_cast unitsOfOne_pos
  unfold value
  rw [div_lt_div_iff_of_pos_right hpos, Nat.cast_lt]
  exact unitsOfCode_strictMono.lt_iff_lt

theorem value_injective {m k : Magnitude} (h : m.value = k.value) : m = k := by
  rcases Nat.lt_trichotomy m.code k.code with hlt | heq | hgt
  · exact absurd h (value_lt_iff.mpr hlt).ne
  · obtain ⟨m, hm⟩ := m
    obtain rfl : m = k.code := heq
    rfl
  · exact absurd h (value_lt_iff.mpr hgt).ne'

/-- Between two magnitudes with even codes there is another one. -/
theorem exists_between {m k : Magnitude} (hm : m.code % 2 = 0) (hk : k.code % 2 = 0)
    (h : m.value < k.value) : ∃ n : Magnitude, m.value < n.value ∧ n.value < k.value := by
  have hcode := value_lt_iff.mp h
  have hle := k.code_le
  have hnext : (ofCode (m.code + 1)).code = m.code + 1 := min_eq_left (by omega)
  refine ⟨ofCode (m.code + 1), ?_, ?_⟩
  · rw [value_lt_iff]
    omega
  · rw [value_lt_iff]
    omega

end Magnitude

namespace Binary64

/-- What lies between two numbers is nearer to any third than one of them is. -/
theorem abs_sub_lt_or {x y z q : ℚ} (hx : x < z) (hy : z < y) :
    |z - q| < |x - q| ∨ |z - q| < |y - q| := by
  rcases le_total q z with hq | hq
  · right
    rw [abs_of_nonneg (by linarith), abs_of_nonneg (by linarith)]
    linarith
  · left
    rw [abs_of_nonpos (by linarith), abs_of_nonpos (by linarith)]
    linarith

/-- Between two doubles with even codes there is another one. -/
theorem exists_between {b c : Bool} {m k : Magnitude} (hm : m.code % 2 = 0) (hk : k.code % 2 = 0)
    (h : (signed b m).value < (signed c k).value) :
    ∃ a n, (signed b m).value < (signed a n).value ∧
      (signed a n).value < (signed c k).value := by
  have hm₀ := m.value_nonneg
  have hk₀ := k.value_nonneg
  simp only [value_signed] at h ⊢
  cases b with
  | false =>
      cases c with
      | false =>
          obtain ⟨n, hn⟩ := Magnitude.exists_between hm hk h
          exact ⟨false, n, hn⟩
      | true =>
          simp only [withSign, if_true, Bool.false_eq_true, if_false] at h
          linarith
  | true =>
      cases c with
      | true =>
          obtain ⟨n, hn₁, hn₂⟩ := Magnitude.exists_between hk hm (neg_lt_neg_iff.mp h)
          exact ⟨true, n, neg_lt_neg hn₂, neg_lt_neg hn₁⟩
      | false =>
          have hzero : (Magnitude.zero.code) % 2 = 0 := rfl
          rcases hm₀.eq_or_lt with hnull | hpos
          · have hlt : Magnitude.zero.value < k.value := by
              simpa [withSign, ← hnull, Magnitude.value_zero] using h
            obtain ⟨n, hn₁, hn₂⟩ := Magnitude.exists_between hzero hk hlt
            rw [Magnitude.value_zero] at hn₁
            exact ⟨false, n, by simpa [withSign, ← hnull] using hn₁, hn₂⟩
          · rw [← Magnitude.value_zero] at hpos
            obtain ⟨n, hn₁, hn₂⟩ := Magnitude.exists_between hzero hm hpos
            rw [Magnitude.value_zero] at hn₁
            exact ⟨true, n, neg_lt_neg hn₂, (neg_lt_zero.mpr hn₁).trans_le hk₀⟩

/-- Of two nearest doubles neither is below the other: both would be as near, and so both even. -/
theorem IsNearest.not_value_lt {q : ℚ} {x y : Binary64} (hx : x.IsNearest q) (hy : y.IsNearest q) :
    ¬ x.value < y.value := by
  intro hlt
  cases x with
  | nan => exact hx
  | signed b m =>
      cases y with
      | nan => exact hy
      | signed c k =>
          have hsame : |(signed b m).value - q| = |(signed c k).value - q| :=
            le_antisymm (hx.1 c k) (hy.1 b m)
          have hm : m.code % 2 = 0 := hx.2 c k hlt.ne' hsame
          have hk : k.code % 2 = 0 := hy.2 b m hlt.ne hsame.symm
          obtain ⟨a, n, hn₁, hn₂⟩ := exists_between hm hk hlt
          rcases abs_sub_lt_or hn₁ hn₂ with h | h
          · exact absurd (hx.1 a n) (not_le.mpr h)
          · exact absurd (hy.1 a n) (not_le.mpr h)

/-- **The nearest double is one number.** -/
theorem IsNearest.value_unique {q : ℚ} {x y : Binary64} (hx : x.IsNearest q)
    (hy : y.IsNearest q) : x.value = y.value :=
  le_antisymm (not_lt.mp (hy.not_value_lt hx)) (not_lt.mp (hx.not_value_lt hy))

/-- Only zero has two signs. -/
theorem eq_of_value_eq {b c : Bool} {m k : Magnitude}
    (h : (signed b m).value = (signed c k).value) (hne : (signed b m).value ≠ 0) :
    signed b m = signed c k := by
  rw [value_signed, value_signed] at h
  rw [value_signed] at hne
  have hm := m.value_nonneg
  have hk := k.value_nonneg
  by_cases hb : b = c
  · subst hb
    have hvalue : |withSign b m.value - withSign b k.value| = 0 := by rw [h, sub_self, abs_zero]
    rw [abs_withSign_sub, abs_eq_zero, sub_eq_zero] at hvalue
    rw [Magnitude.value_injective hvalue]
  · have hsum := abs_withSign_sub_of_ne hb hm hk
    rw [h, sub_self, abs_zero] at hsum
    have hnull : m.value = 0 := by linarith
    rw [hnull, withSign_zero] at hne
    exact absurd rfl hne

/-- So there is one nearest double, unless it is one of the two zeros. -/
theorem IsNearest.eq_of_value_ne_zero {q : ℚ} {x y : Binary64} (hx : x.IsNearest q)
    (hy : y.IsNearest q) (hne : x.value ≠ 0) : x = y := by
  have hvalue := hx.value_unique hy
  cases x with
  | nan => exact absurd hx id
  | signed b m =>
      cases y with
      | nan => exact absurd hy id
      | signed c k => exact eq_of_value_eq hvalue hne

theorem value_ne_zero_of_not_isFinite {b : Bool} {m : Magnitude}
    (h : (signed b m).isFinite = false) : (signed b m).value ≠ 0 := by
  have hcode : Magnitude.zero.code < m.code :=
    lt_of_lt_of_le (by decide) (not_lt.mp (of_decide_eq_false h))
  have hpos := Magnitude.value_lt_iff.mpr hcode
  rw [Magnitude.value_zero] at hpos
  rw [value_signed]
  cases b with
  | false => exact hpos.ne'
  | true => exact (neg_lt_zero.mpr hpos).ne

/-- Whether the nearest double is an infinity does not depend on which one is taken. -/
theorem IsNearest.isFinite_eq {q : ℚ} {x y : Binary64} (hx : x.IsNearest q)
    (hy : y.IsNearest q) (hinfinite : x.isFinite = false) : y.isFinite = false := by
  cases x with
  | nan => exact absurd hx id
  | signed b m =>
      rwa [← hx.eq_of_value_ne_zero hy (value_ne_zero_of_not_isFinite hinfinite)]

end Binary64

end QueryOptions
