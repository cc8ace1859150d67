import QueryOptions.Proofs.Number.Magnitude

/-!
# Rounding to the nearest magnitude

`Magnitude.nearest num den` depends on the quotient only (`nearest_congr`), leaves a value that is
a magnitude alone (`nearest_eq_of_exact`), and does not pass a magnitude that is above
(`code_nearest_le`).  Whole numbers stay whole: up to 2⁵³ all of them are
magnitudes, and from there on all magnitudes are whole (`unitsOfOne_dvd_units_nearest`).

The number of units in one has a thousand binary digits.  The proofs speak about `nearestUnits`,
whose numerator is already in units, so that it is never computed.
-/

namespace QueryOptions.Magnitude

theorem nearestUnits_eq (scaled den : ℕ) :
    nearestUnits scaled den = ofNeighbours (codeBelow (scaled / den))
      (compare (2 * scaled) ((unitsOfCode (codeBelow (scaled / den)) +
        unitsOfCode (codeBelow (scaled / den) + 1)) * den)) := rfl

/-! ## The quotient decides -/

theorem nearestUnits_mul_left {a : ℕ} (ha : 0 < a) (scaled den : ℕ) :
    nearestUnits (a * scaled) (a * den) = nearestUnits scaled den := by
  have hcompare : ∀ k : ℕ, compare (2 * (a * scaled)) (k * (a * den)) =
      compare (2 * scaled) (k * den) := by
    intro k
    rw [Nat.mul_left_comm 2 a, Nat.mul_left_comm k a]
    rcases Nat.lt_trichotomy (2 * scaled) (k * den) with h | h | h
    · rw [Nat.compare_eq_lt.mpr h, Nat.compare_eq_lt.mpr (Nat.mul_lt_mul_of_pos_left h ha)]
    · rw [h, Nat.compare_eq_eq.mpr rfl, Nat.compare_eq_eq.mpr rfl]
    · rw [Nat.compare_eq_gt.mpr h, Nat.compare_eq_gt.mpr (Nat.mul_lt_mul_of_pos_left h ha)]
  rw [nearestUnits_eq, nearestUnits_eq, Nat.mul_div_mul_left _ _ ha, hcompare]

/-- Equal quotients have the same nearest magnitude. -/
theorem nearest_congr {num den num' den' : ℕ} (hden : 0 < den) (hden' : 0 < den')
    (h : num * den' = num' * den) : nearest num den = nearest num' den' := by
  unfold nearest
  generalize unitsOfOne = u
  calc nearestUnits (num * u) den = nearestUnits (den' * (num * u)) (den' * den) :=
        (nearestUnits_mul_left hden' ..).symm
    _ = nearestUnits (den * (num' * u)) (den * den') := by
        rw [← Nat.mul_assoc, Nat.mul_comm den' num, h, Nat.mul_comm num' den, Nat.mul_assoc,
          Nat.mul_comm den' den]
    _ = nearestUnits (num' * u) den' := nearestUnits_mul_left hden ..

/-! ## The two neighbours -/

theorem ofNeighbours_eq_or (low : ℕ) (o : Ordering) :
    ofNeighbours low o = ofCode low ∨ ofNeighbours low o = ofCode (low + 1) := by
  cases o with
  | lt => exact Or.inl rfl
  | gt => exact Or.inr rfl
  | eq =>
      -- the even one of the two codes
      unfold ofNeighbours
      rcases Nat.mod_two_eq_zero_or_one low with h | h
      · rw [h]
        exact Or.inl rfl
      · rw [h]
        exact Or.inr rfl

/-- The nearest magnitude is one of the two neighbours. -/
theorem nearestUnits_eq_or (scaled den : ℕ) :
    nearestUnits scaled den = ofCode (codeBelow (scaled / den)) ∨
      nearestUnits scaled den = ofCode (codeBelow (scaled / den) + 1) :=
  ofNeighbours_eq_or _ _

/-- **A quotient that is a magnitude is that magnitude.** -/
theorem nearestUnits_eq_ofCode {scaled den code : ℕ} (hden : 0 < den)
    (h : scaled = unitsOfCode code * den) : nearestUnits scaled den = ofCode code := by
  have hlow : codeBelow (scaled / den) = code := by
    rw [h, Nat.mul_div_cancel _ hden, codeBelow_unitsOfCode]
  have hlt : 2 * scaled < (unitsOfCode code + unitsOfCode (code + 1)) * den := by
    rw [h, ← Nat.mul_assoc, Nat.two_mul]
    exact Nat.mul_lt_mul_of_pos_right (Nat.add_lt_add_left (unitsOfCode_lt_succ code) _) hden
  rw [nearestUnits_eq, hlow, Nat.compare_eq_lt.mpr hlt, ofNeighbours]

theorem ofCode_code (m : Magnitude) : ofCode m.code = m := by
  obtain ⟨code, hle⟩ := m
  unfold ofCode
  congr 1
  exact Nat.min_eq_left hle

theorem nearest_eq_of_exact {num den : ℕ} {m : Magnitude} (hden : 0 < den)
    (h : num * unitsOfOne = m.units * den) : nearest num den = m := by
  unfold nearest
  rw [nearestUnits_eq_ofCode hden h, ofCode_code]

theorem code_ofCode_le (code : ℕ) : (ofCode code).code ≤ code := Nat.min_le_left ..

/-- Rounding does not pass a magnitude that is above. -/
theorem code_nearestUnits_le {scaled den code : ℕ} (hden : 0 < den)
    (h : scaled ≤ unitsOfCode code * den) : (nearestUnits scaled den).code ≤ code := by
  rcases h.lt_or_eq with hlt | heq
  · have hbelow : unitsOfCode (codeBelow (scaled / den)) < unitsOfCode code :=
      lt_of_le_of_lt (unitsOfCode_codeBelow_le _) ((Nat.div_lt_iff_lt_mul hden).mpr hlt)
    rw [unitsOfCode_strictMono.lt_iff_lt] at hbelow
    rcases nearestUnits_eq_or scaled den with h | h
    · rw [h]
      exact (code_ofCode_le _).trans hbelow.le
    · rw [h]
      exact (code_ofCode_le _).trans hbelow
  · rw [nearestUnits_eq_ofCode hden heq]
    exact code_ofCode_le _

theorem code_nearest_le {num den code : ℕ} (hden : 0 < den)
    (h : num * unitsOfOne ≤ unitsOfCode code * den) : (nearest num den).code ≤ code := by
  unfold nearest
  exact code_nearestUnits_le hden h

theorem units_ofCode_of_le {code : ℕ} (h : code ≤ infinityCode) :
    (ofCode code).units = unitsOfCode code := by
  have hcode : (ofCode code).code = code := min_eq_left h
  rw [units, hcode]

/-- A magnitude that is finite has the value of the code it was made with. -/
theorem units_ofCode {code : ℕ} (h : (ofCode code).isFinite = true) :
    (ofCode code).units = unitsOfCode code := by
  have hlt : min code infinityCode < infinityCode := of_decide_eq_true h
  exact units_ofCode_of_le (by omega)

/-! ## Whole numbers -/

/-- A number of units is a value of its own if the distance of its neighbours divides it. -/
theorem unitsOfCode_codeBelow_of_dvd {units s : ℕ}
    (hcode : codeBelow units = s * binade + units / 2 ^ s) (hq : Significand s (units / 2 ^ s))
    (hdvd : 2 ^ s ∣ units) : unitsOfCode (codeBelow units) = units := by
  rw [hcode, unitsOfCode_eq hq, Nat.div_mul_cancel hdvd]

theorem dvd_units_nearestUnits {e n : ℕ}
    (hfinite : (nearestUnits (n * 2 ^ e) 1).isFinite = true) :
    2 ^ e ∣ (nearestUnits (n * 2 ^ e) 1).units := by
  obtain ⟨s, hcode, hq, hlt⟩ := exists_codeBelow_eq (n * 2 ^ e)
  have hnext : Significand s (n * 2 ^ e / 2 ^ s + 1) :=
    ⟨fun hs => (hq.leading hs).trans (Nat.le_succ _), hlt⟩
  rcases Nat.le_total s e with hle | hle
  · -- the distance of the neighbours divides the number, which is one of them
    have hexact : unitsOfCode (codeBelow (n * 2 ^ e)) = n * 2 ^ e :=
      unitsOfCode_codeBelow_of_dvd hcode hq ((pow_dvd_pow 2 hle).trans (Nat.dvd_mul_left _ n))
    have hnearest := nearestUnits_eq_ofCode Nat.one_pos (hexact.symm.trans (Nat.mul_one _).symm)
    rw [hnearest] at hfinite ⊢
    rw [units_ofCode hfinite, hexact]
    exact Nat.dvd_mul_left _ n
  · -- both neighbours are multiples of their distance, which one divides
    have hdvd : ∀ q, 2 ^ e ∣ q * 2 ^ s := fun q => (pow_dvd_pow 2 hle).mul_left q
    rcases nearestUnits_eq_or (n * 2 ^ e) 1 with h | h
    · rw [h, Nat.div_one] at hfinite ⊢
      rw [units_ofCode hfinite, hcode, unitsOfCode_eq hq]
      exact hdvd _
    · rw [h, Nat.div_one] at hfinite ⊢
      rw [units_ofCode hfinite, hcode, Nat.add_assoc, unitsOfCode_eq hnext]
      exact hdvd _

/-- A whole number below 2⁵³ needs no more bits than a significand has. -/
theorem unitsOfCode_codeBelow_of_lt {e n : ℕ} (hn : n < 2 * binade) :
    unitsOfCode (codeBelow (n * 2 ^ e)) = n * 2 ^ e := by
  obtain ⟨s, hcode, hq, -⟩ := exists_codeBelow_eq (n * 2 ^ e)
  refine unitsOfCode_codeBelow_of_dvd hcode hq ?_
  have hs : s ≤ e := by
    by_contra hlt
    have hleading : binade * 2 ^ s ≤ n * 2 ^ e :=
      (Nat.le_div_iff_mul_le (Nat.pow_pos (by decide))).mp (hq.leading (by omega))
    have hpow : 2 ^ (e + 1) ≤ 2 ^ s := Nat.pow_le_pow_right (by decide) (by omega)
    have hupper : n * 2 ^ e < binade * 2 ^ s :=
      calc n * 2 ^ e < 2 * binade * 2 ^ e :=
            Nat.mul_lt_mul_of_pos_right hn (Nat.pow_pos (by decide))
        _ = binade * 2 ^ (e + 1) := by ring
        _ ≤ binade * 2 ^ s := Nat.mul_le_mul_left _ hpow
    exact absurd hleading (not_le_of_gt hupper)
  exact (pow_dvd_pow 2 hs).trans (Nat.dvd_mul_left _ n)

/-- **A whole number is rounded to a whole number.** -/
theorem unitsOfOne_dvd_units_nearest {n : ℕ} (hfinite : (nearest n 1).isFinite = true) :
    unitsOfOne ∣ (nearest n 1).units := by
  unfold nearest at hfinite ⊢
  rw [unitsOfOne_eq] at hfinite ⊢
  exact dvd_units_nearestUnits hfinite

end QueryOptions.Magnitude
