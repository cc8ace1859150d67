import QueryOptions.Proofs.Number.Rounding

/-!
# Casting a double to an integer of 64 bits

`Binary64.toInt64?` takes a double for an integer if it is a whole number from -2⁶³ to 2⁶³ - 1.  A
machine asks this in doubles (`castIfLossless?`): whether anything is left behind the point, whether
the double lies between the ends, and then it casts, which drops what is behind the point and stops
at the ends.  The ends of the comparison are doubles as well, so they are rounded:

```text
-2⁶³        is a double                                      x may be equal to it
2⁶³ - 1     is none, and is rounded to 2⁶³, one too great    x must be less than it
```

This file shows that the two questions have one answer (`castIfLossless?_eq`) and that the cast,
where it is made, changes nothing: no bits are behind the point and neither end is passed
(`toInt64?_exact`).
-/

namespace QueryOptions

namespace Magnitude

theorem value_pos_iff {m : Magnitude} : 0 < m.value ↔ 0 < m.code := by
  rw [← value_zero, value_lt_iff]
  rfl

theorem value_eq_natCast_iff {m : Magnitude} {n : ℕ} : m.value = n ↔ m.units = n * unitsOfOne := by
  have hpos := unitsOfOne_pos
  unfold value
  generalize unitsOfOne = u at hpos
  rw [div_eq_iff (by exact_mod_cast hpos.ne')]
  exact_mod_cast Iff.rfl

theorem value_wordBound : wordBound.value = 2 ^ 63 := by
  have h := value_eq_natCast_iff.mpr units_wordBound
  exact_mod_cast h

end Magnitude

namespace Binary64

/-! ## What a machine does -/

/-- The place in ascending order, which the two zeros share; what is no number has none. -/
def place? : Binary64 → Option ℤ
  | nan => none
  | signed negative m => some (ofWhole negative m.code)

/-- Whether a double is less than another. -/
def isLess (x y : Binary64) : Bool :=
  match x.place?, y.place? with
  | some i, some j => i < j
  | _, _ => false

/-- Whether a double is at most another. -/
def isAtMost (x y : Binary64) : Bool :=
  match x.place?, y.place? with
  | some i, some j => i ≤ j
  | _, _ => false

/-- What stands in front of the point. -/
def wholePart : Binary64 → ℤ
  | nan => 0
  | signed negative m => ofWhole negative (m.units / Magnitude.unitsOfOne)

/-- Whether nothing is left behind the point. -/
def isWhole : Binary64 → Bool
  | nan => false
  | signed _ m => m.isFinite && m.units % Magnitude.unitsOfOne == 0

/-- The cast: the part behind the point is dropped, and what is beyond an end becomes that end. -/
def cast (x : Binary64) : Int64 :=
  Int64.ofInt (max Int64.minValue.toInt (min x.wholePart Int64.maxValue.toInt))

/-- Whether a double lies between the doubles that are nearest to the two ends. -/
def isBetweenEnds (x : Binary64) : Bool :=
  (ofInt Int64.minValue.toInt).isAtMost x && x.isLess (ofInt Int64.maxValue.toInt)

/-- The cast of a double that is whole and lies between the ends. -/
def castIfLossless? (x : Binary64) : Option Int64 :=
  if x.isWhole && x.isBetweenEnds then some x.cast else none

/-! ## Comparing doubles is comparing values -/

theorem isLess_signed (b c : Bool) (m k : Magnitude) :
    (signed b m).isLess (signed c k) = decide (ofWhole b m.code < ofWhole c k.code) := rfl

theorem isAtMost_signed (b c : Bool) (m k : Magnitude) :
    (signed b m).isAtMost (signed c k) = decide (ofWhole b m.code ≤ ofWhole c k.code) := rfl

theorem isAtMost_signed_eq_not (b c : Bool) (m k : Magnitude) :
    (signed b m).isAtMost (signed c k) = !(signed c k).isLess (signed b m) := by
  rw [isAtMost_signed, isLess_signed, ← decide_not, decide_eq_decide, not_lt]

/-- Between a number that is not positive and one that is not negative lies something, unless both
are zero. -/
theorem neg_lt_iff_pos_or_pos {p q : ℚ} (hp : 0 ≤ p) (hq : 0 ≤ q) : -p < q ↔ 0 < p ∨ 0 < q := by
  constructor
  · intro h
    by_contra hnone
    rw [not_or, not_lt, not_lt] at hnone
    linarith
  · rintro (h | h)
    · linarith
    · linarith

/-- **A double is less than another** exactly if its value is. -/
theorem isLess_iff {b c : Bool} {m k : Magnitude} :
    (signed b m).isLess (signed c k) = true ↔ (signed b m).value < (signed c k).value := by
  have hm := m.value_nonneg
  have hk := k.value_nonneg
  rw [isLess_signed, decide_eq_true_eq, value_signed, value_signed]
  cases b with
  | false =>
      cases c with
      | false => simpa [ofWhole, withSign] using Magnitude.value_lt_iff.symm
      | true =>
          simp only [ofWhole, withSign, if_true, Bool.false_eq_true, if_false]
          exact iff_of_false (by omega) (by linarith)
  | true =>
      cases c with
      | false =>
          simp only [ofWhole, withSign, if_true, Bool.false_eq_true, if_false]
          rw [neg_lt_iff_pos_or_pos hm hk, Magnitude.value_pos_iff, Magnitude.value_pos_iff]
          omega
      | true => simpa [ofWhole, withSign] using Magnitude.value_lt_iff.symm

theorem isAtMost_iff {b c : Bool} {m k : Magnitude} :
    (signed b m).isAtMost (signed c k) = true ↔ (signed b m).value ≤ (signed c k).value := by
  rw [isAtMost_signed_eq_not, Bool.not_eq_true', ← Bool.not_eq_true, isLess_iff, not_lt]

/-! ## The ends -/

theorem ofInt_minValue : ofInt Int64.minValue.toInt = signed true Magnitude.wordBound := by
  decide +kernel

/-- The greatest integer of 64 bits is rounded up. -/
theorem ofInt_maxValue : ofInt Int64.maxValue.toInt = signed false Magnitude.wordBound := by
  decide +kernel

/-- **The lower end is met, the upper one is not**, and this is what the two comparisons ask. -/
theorem isBetweenEnds_iff {negative : Bool} {m : Magnitude} :
    (signed negative m).isBetweenEnds = true ↔
      -2 ^ 63 ≤ (signed negative m).value ∧ (signed negative m).value < 2 ^ 63 := by
  have hlower : (signed true Magnitude.wordBound).value = -2 ^ 63 := by
    rw [value_signed, Magnitude.value_wordBound]
    rfl
  have hupper : (signed false Magnitude.wordBound).value = 2 ^ 63 := by
    rw [value_signed, Magnitude.value_wordBound]
    rfl
  unfold isBetweenEnds
  rw [ofInt_minValue, ofInt_maxValue, Bool.and_eq_true, isAtMost_iff, isLess_iff, hlower, hupper]

/-! ## The cast -/

theorem isWhole_signed (negative : Bool) (m : Magnitude) :
    (signed negative m).isWhole = m.whole?.isSome := by
  unfold isWhole Magnitude.whole?
  simp only
  split
  · rename_i h
    exact h
  · rename_i h
    exact Bool.eq_false_iff.mpr h

section Whole

variable {m : Magnitude} {n : ℕ}

theorem value_of_whole (h : m.whole? = some n) (negative : Bool) :
    (signed negative m).value = ofWhole negative n := by
  rw [value_eq_iff, (Magnitude.whole?_eq_some.mp h).2, ofWhole_mul]

theorem wholePart_of_whole (h : m.whole? = some n) (negative : Bool) :
    (signed negative m).wholePart = ofWhole negative n := by
  unfold wholePart
  simp only
  rw [(Magnitude.whole?_eq_some.mp h).2, Nat.mul_div_cancel _ Magnitude.unitsOfOne_pos]

theorem isBetweenEnds_of_whole (h : m.whole? = some n) (negative : Bool) :
    (signed negative m).isBetweenEnds = isWord (ofWhole negative n) := by
  rw [Bool.eq_iff_iff, isBetweenEnds_iff, isWord_iff, value_of_whole h]
  exact_mod_cast Iff.rfl

end Whole

/-- Between the ends the cast stops at none of them. -/
theorem cast_of_isWord {x : Binary64} (h : isWord x.wholePart = true) :
    x.cast = Int64.ofInt x.wholePart := by
  rw [isWord_iff] at h
  have hmin : Int64.minValue.toInt = -2 ^ 63 := by decide
  have hmax : Int64.maxValue.toInt = 2 ^ 63 - 1 := by decide
  unfold cast
  rw [hmin, hmax, min_eq_left (by omega), max_eq_right h.1]

/-- **The question in doubles has the same answer.** -/
theorem castIfLossless?_eq (x : Binary64) : x.castIfLossless? = x.toInt64? := by
  cases x with
  | nan => rfl
  | signed negative m =>
      rw [toInt64?_eq]
      unfold castIfLossless?
      rw [isWhole_signed]
      cases hwhole : m.whole? with
      | none => rfl
      | some n =>
          rw [isBetweenEnds_of_whole hwhole, Option.isSome_some, Bool.true_and, Option.bind_some,
            ← wholePart_of_whole hwhole negative]
          split
          · rename_i hword
            rw [cast_of_isWord hword]
          · rfl

/-! ## Exactness -/

theorem isWord_iff_le {n : ℤ} : isWord n = true ↔ -2 ^ 63 ≤ n ∧ n ≤ 2 ^ 63 - 1 := by
  rw [isWord_iff, Int.le_sub_one_iff]

/-- The integer that a double is taken for is its value, and any value in range is taken. -/
theorem map_toInt64?_eq_some_iff {negative : Bool} {m : Magnitude} {n : ℤ} :
    (signed negative m).toInt64?.map Int64.toInt = some n ↔
      (signed negative m).value = n ∧ -2 ^ 63 ≤ n ∧ n ≤ 2 ^ 63 - 1 := by
  rw [← isWord_iff_le]
  constructor
  · intro h
    obtain ⟨z, hz, rfl⟩ := Option.map_eq_some_iff.mp h
    exact ⟨value_of_toInt64? hz, isWord_toInt z⟩
  · rintro ⟨hvalue, hword⟩
    rw [← toInt_ofInt hword] at hvalue ⊢
    rw [toInt64?_of_value_eq hvalue, Option.map_some]

/-- Where the cast is made, nothing stands behind the point and neither end is passed. -/
theorem cast_of_toInt64? {negative : Bool} {m : Magnitude} {z : Int64}
    (h : (signed negative m).toInt64? = some z) :
    (signed negative m).cast = z ∧ (signed negative m).wholePart = z.toInt ∧
      (signed negative m).value = (signed negative m).wholePart := by
  have hvalue := value_of_toInt64? h
  have hwhole := h
  rw [toInt64?_eq] at hwhole
  obtain ⟨n, hn, -⟩ := Option.bind_eq_some_iff.mp hwhole
  have hpart : (signed negative m).value = (signed negative m).wholePart := by
    rw [value_of_whole hn, wholePart_of_whole hn]
  have hz : (signed negative m).wholePart = z.toInt := by
    rw [hpart] at hvalue
    exact_mod_cast hvalue
  have hword : isWord (signed negative m).wholePart = true := hz ▸ isWord_toInt z
  exact ⟨by rw [cast_of_isWord hword, hz, Int64.ofInt_toInt], hz, hpart⟩

/-- **A finite double is taken for an integer of 64 bits exactly if its value is one.**  Comparing
with rounded ends decides the same, and where the cast is made it neither drops anything nor stops
at an end. -/
theorem toInt64?_exact {x : Binary64} (hx : x.isFinite = true) :
    (∀ n : ℤ, x.toInt64?.map Int64.toInt = some n ↔
        x.value = n ∧ -2 ^ 63 ≤ n ∧ n ≤ 2 ^ 63 - 1) ∧
      (x.toInt64? = none ↔ ¬ ∃ n : ℤ, x.value = n ∧ -2 ^ 63 ≤ n ∧ n ≤ 2 ^ 63 - 1) ∧
      x.toInt64? = (if x.isWhole && x.isBetweenEnds then some x.cast else none) ∧
      ∀ z, x.toInt64? = some z →
        x.cast = z ∧ x.wholePart = z.toInt ∧ x.value = x.wholePart := by
  refine ⟨fun n => ?_, ?_, (castIfLossless?_eq x).symm, fun z h => ?_⟩
  · cases x with
    | nan => cases hx
    | signed negative m => exact map_toInt64?_eq_some_iff
  · rw [toInt64?_eq_none_iff hx, not_exists]
    refine forall_congr' fun n => ?_
    rw [isWord_iff_le, not_and']
  · cases x with
    | nan => cases hx
    | signed negative m => exact cast_of_toInt64? h

/-- The doubles at the two ends and next to them, and the negative zero. -/
theorem toInt64?_exact_ends :
    (signed true .wordBound).toInt64?.map Int64.toInt = some (-2 ^ 63) ∧
      (signed true (.ofCode (1086 * binade - 1))).toInt64?.map Int64.toInt =
        some (-2 ^ 63 + 1024) ∧
      (signed true (.ofCode (1086 * binade + 1))).toInt64? = none ∧
      (signed false .wordBound).toInt64? = none ∧
      (signed false (.ofCode (1086 * binade - 1))).toInt64?.map Int64.toInt =
        some (2 ^ 63 - 1024) ∧
      (signed true .zero).toInt64?.map Int64.toInt = some 0 := by
  have htaken : ∀ {b m} (n : ℤ), (signed b m).isFinite = true →
      ofWhole b m.units = n * Magnitude.unitsOfOne → -2 ^ 63 ≤ n ∧ n ≤ 2 ^ 63 - 1 →
      (signed b m).toInt64?.map Int64.toInt = some n :=
    fun n hfinite hunits hle => ((toInt64?_exact hfinite).1 n).mpr ⟨value_eq_iff.mpr hunits, hle⟩
  have hrefused : ∀ {b m} (n : ℤ), (signed b m).isFinite = true →
      ofWhole b m.units = n * Magnitude.unitsOfOne → ¬ (-2 ^ 63 ≤ n ∧ n ≤ 2 ^ 63 - 1) →
      (signed b m).toInt64? = none := by
    intro b m n hfinite hunits hle
    refine (toInt64?_exact hfinite).2.1.mpr ?_
    rintro ⟨k, hk, hin⟩
    rw [value_eq_iff.mpr hunits] at hk
    obtain rfl : n = k := by exact_mod_cast hk
    exact hle hin
  refine ⟨htaken _ ?_ ?_ ?_, htaken _ ?_ ?_ ?_, hrefused (-2 ^ 63 - 2048) ?_ ?_ ?_,
    hrefused (2 ^ 63) ?_ ?_ ?_, htaken _ ?_ ?_ ?_, htaken _ ?_ ?_ ?_⟩
  all_goals decide +kernel

end Binary64

end QueryOptions
