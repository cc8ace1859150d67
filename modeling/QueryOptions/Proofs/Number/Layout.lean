import QueryOptions.Number.Layout
import QueryOptions.Proofs.Number.Numeral
import QueryOptions.Proofs.Number.Shortest

/-!
# Reading back a double

The numeral of a double denotes the double again, in either layout (`ofNumeral_numeral`).  Where the
point stands does not matter: with the point among or in front of the digits, or behind the first of
them and a power of ten, the numeral is the decimal that was to be written, and with zeros behind
the digits it is a decimal of equal value.

In a query the numeral is plain, so it is read back from its text as well (`ofText?_numeral`).
-/

namespace QueryOptions.FloatLayout

/-! ## The numeral that is written -/

theorem isDigit_of_mem_zeros {n : ℤ} : ∀ c ∈ zeros n, c.isDigit = true := by
  intro c hc
  rw [List.eq_of_mem_replicate hc]
  rfl

theorem isDigit_of_mem_append {t u : Text} (ht : ∀ c ∈ t, c.isDigit = true)
    (hu : ∀ c ∈ u, c.isDigit = true) : ∀ c ∈ t ++ u, c.isDigit = true := by
  intro c hc
  rcases List.mem_append.mp hc with hc | hc
  · exact ht c hc
  · exact hu c hc

theorem plain_writtenOut (negative : Bool) {digits : Text} (hne : digits ≠ [])
    (hdigits : ∀ c ∈ digits, c.isDigit = true) (position : ℤ) :
    (query.writtenOut negative digits position).Plain := by
  unfold writtenOut
  split
  · refine ⟨by simp, by simp, ?_, rfl⟩
    rintro _ ⟨⟩
    exact isDigit_of_mem_append isDigit_of_mem_zeros hdigits
  · split
    · refine ⟨?_, fun c hc => hdigits c (List.mem_of_mem_take hc), ?_, rfl⟩
      · simp only [ne_eq, List.take_eq_nil_iff, not_or]
        exact ⟨by omega, hne⟩
      · rintro _ ⟨⟩
        exact fun c hc => hdigits c (List.mem_of_mem_drop hc)
    · refine ⟨by simp [hne], isDigit_of_mem_append hdigits isDigit_of_mem_zeros, ?_, rfl⟩
      rintro _ ⟨⟩

theorem wholeFraction_getD (layout : FloatLayout) :
    ∃ k, layout.wholeFraction.getD [] = List.replicate k '0' := by
  unfold wholeFraction
  split
  · exact ⟨1, rfl⟩
  · exact ⟨0, rfl⟩

/-- A row of digits with the point at a position denotes the same magnitude however the point is
written. -/
theorem ofDecimal_writtenOut (layout : FloatLayout) (negative : Bool) (digits : Text)
    (position : ℤ) :
    Magnitude.ofDecimal (layout.writtenOut negative digits position).decimal =
      Magnitude.ofDecimal ⟨Numeral.ofDigits digits, position - digits.length⟩ := by
  unfold writtenOut
  split
  · -- the zeros in front add nothing, and the point has all digits behind it
    rename_i hposition
    congr 1
    have hzero : Numeral.ofDigits ['0'] = 0 := rfl
    simp only [Numeral.decimal, Option.getD_some, Option.getD_none, zeros, List.length_append,
      List.length_replicate, Numeral.ofDigits_append, Numeral.ofDigits_replicate_zero, hzero,
      Nat.mul_zero, Nat.zero_add, Decimal.mk.injEq, true_and]
    omega
  · split
    · -- cutting a row of digits in two does not change what it denotes
      rename_i hlow hhigh
      congr 1
      simp only [Numeral.decimal, Option.getD_some, Option.getD_none, List.take_append_drop,
        List.length_drop, Decimal.mk.injEq, true_and]
      omega
    · -- with zeros behind the digits it is another decimal, but one of the same value
      rename_i hlow hhigh
      obtain ⟨z, hz⟩ : ∃ z : ℕ, position - digits.length = z :=
        ⟨(position - digits.length).toNat, by omega⟩
      obtain ⟨k, hk⟩ := layout.wholeFraction_getD
      have hscale : (z : ℤ) = -k + (k + z : ℕ) := by omega
      rw [hz, hscale, ← Magnitude.ofDecimal_mul_pow]
      simp [Numeral.decimal, hk, zeros, Numeral.ofDigits_append, Numeral.ofDigits_replicate_zero,
        pow_add, Nat.mul_comm]

theorem decimal_scientific (negative : Bool) {digits : Text} (hne : digits ≠ []) (exponent : ℤ) :
    (scientific negative digits exponent).decimal =
      ⟨Numeral.ofDigits digits, exponent + 1 - digits.length⟩ := by
  obtain ⟨d, ds, rfl⟩ := List.exists_cons_of_ne_nil hne
  cases ds <;> simp [scientific, Numeral.decimal]

/-! ## Reading it -/

/-- In a query a number other than zero is written out. -/
theorem numeral_query (negative : Bool) (m : Magnitude) :
    query.numeral negative m = if m = .zero then ⟨negative, ['0'], none, none⟩
      else query.writtenOut negative
        (Nat.toDigits 10 (m.shortest query.takeUpper).coefficient)
        ((Nat.toDigits 10 (m.shortest query.takeUpper).coefficient).length +
          (m.shortest query.takeUpper).scale) := by
  have hpositional : ∀ e, query.positional e = true := fun _ => rfl
  unfold numeral
  simp only [hpositional, if_true]
  rfl

theorem plain_numeral (negative : Bool) (m : Magnitude) :
    (query.numeral negative m).Plain := by
  rw [numeral_query]
  split
  · exact ⟨by simp, by simp, by simp, rfl⟩
  · exact plain_writtenOut negative Nat.toDigits_ne_nil
      (fun c hc => Nat.isDigit_of_mem_toDigits (by decide) (by decide) hc) _

theorem negative_numeral (layout : FloatLayout) (negative : Bool) (m : Magnitude) :
    (layout.numeral negative m).negative = negative := by
  unfold numeral writtenOut scientific
  dsimp only
  split_ifs <;> rfl

theorem ofDecimal_numeral (layout : FloatLayout) (negative : Bool) (m : Magnitude) :
    Magnitude.ofDecimal (layout.numeral negative m).decimal = m := by
  have hread := Magnitude.ofDecimal_shortest layout.takeUpper m
  unfold numeral
  generalize m.shortest layout.takeUpper = d at hread ⊢
  obtain ⟨c, s⟩ := d
  dsimp only
  split_ifs with hzero
  · obtain ⟨k, hk⟩ := layout.wholeFraction_getD
    have hdecimal : Numeral.decimal ⟨negative, ['0'], layout.wholeFraction, none⟩ = ⟨0, -k⟩ := by
      have hzeros : Numeral.ofDigits ['0'] = 0 := rfl
      simp only [Numeral.decimal, hk, Numeral.ofDigits_append, hzeros,
        Numeral.ofDigits_replicate_zero, List.length_replicate, Option.getD_none,
        Nat.mul_zero, Nat.zero_add, Int.zero_sub]
    rw [hzero, hdecimal, Magnitude.ofDecimal_zero]
  · rw [ofDecimal_writtenOut, Numeral.ofDigits_toDigits, add_sub_cancel_left, hread]
  · rw [decimal_scientific negative Nat.toDigits_ne_nil, Numeral.ofDigits_toDigits, sub_add_cancel,
      add_sub_cancel_left, hread]

/-- **A double is denoted by the numeral that is written for it.** -/
theorem ofNumeral_numeral (layout : FloatLayout) (negative : Bool) (m : Magnitude) :
    Binary64.ofNumeral (layout.numeral negative m) = .signed negative m := by
  unfold Binary64.ofNumeral
  rw [negative_numeral, ofDecimal_numeral]

theorem ofText?_numeral (negative : Bool) (m : Magnitude) :
    Numeral.ofText? (query.numeral negative m).text = some (query.numeral negative m) :=
  Numeral.ofText?_text (plain_numeral negative m)

end QueryOptions.FloatLayout
