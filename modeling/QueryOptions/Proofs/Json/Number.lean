import QueryOptions.Json.Number
import QueryOptions.Proofs.Json.Token
import QueryOptions.Proofs.Literal.Reading
import QueryOptions.Proofs.Number.Layout

/-!
# Writing numbers in JSON

The numeral of an integer and the numeral of a double are both JSON numbers, and they cannot be
mistaken for each other: an integer has neither point nor power of ten, and a double has one of the
two even if it is whole (`plainInteger?_numeral`).

A double is written in one of three ways,

```text
  0.00012     the point is in front of the digits
  12.5, 12.0  the point is among the digits, or zeros fill up to it
  1.25e-7     one digit, and a power of ten
```

and in each the digit in front of the point is not a zero, unless it is the only one, because the
first of the fewest digits of a double is not.
-/

namespace QueryOptions

open Numeral

/-! ## Integers -/

theorem Literal.strict_integerNumeral (z : ℤ) : (integerNumeral z).Strict where
  whole := by
    by_cases hz : z.natAbs = 0
    · exact Or.inl (by rw [integerNumeral, hz, Nat.toDigits_zero])
    · exact Or.inr ⟨Nat.toDigits_ne_nil, head?_toDigits_ne_zero hz⟩
  isDigit_whole _ hc := Nat.isDigit_of_mem_toDigits (by decide) (by decide) hc
  fraction _ h := by cases h

namespace Json

/-- An integer that fits in 64 bits, with or without a sign, is read back. -/
theorem integer?_integerNumeral {z : ℤ} (hlow : -Binary64.wordBound ≤ z)
    (hhigh : z < UInt64.size) : integer? (Literal.integerNumeral z) = some z := by
  have hsign : (decide (z < 0) && z == 0) = false := by
    by_cases hz : z = 0
    · rw [hz]
      rfl
    · rw [beq_eq_false_iff_ne.mpr hz, Bool.and_false]
  unfold integer?
  rw [Literal.plainInteger?_integerNumeral]
  show (if decide (z < 0) && z == 0 then none
    else if -Binary64.wordBound ≤ z ∧ z < UInt64.size then some z else none) = _
  rw [hsign, if_neg Bool.false_ne_true, if_pos ⟨hlow, hhigh⟩]

end Json

/-! ## Doubles -/

/-- The digits of a double other than zero do not begin with a zero. -/
theorem Magnitude.coefficient_shortest_ne_zero (rule : TieRule) {m : Magnitude} (hm : m ≠ zero) :
    (m.shortest rule).coefficient ≠ 0 := by
  have hread := ofDecimal_shortest rule m
  generalize m.shortest rule = d at hread ⊢
  obtain ⟨c, s⟩ := d
  rintro rfl
  rw [ofDecimal_zero] at hread
  exact hm hread.symm

namespace FloatLayout

theorem strict_writtenOut (negative : Bool) {digits : Text} (hne : digits ≠ [])
    (hhead : digits.head? ≠ some '0') (hdigits : ∀ c ∈ digits, c.isDigit = true) (position : ℤ) :
    (json.writtenOut negative digits position).Strict := by
  obtain ⟨d, ds, rfl⟩ := List.exists_cons_of_ne_nil hne
  unfold writtenOut
  split
  · refine ⟨Or.inl rfl, by simp, ?_⟩
    rintro _ ⟨⟩
    exact ⟨by simp, isDigit_of_mem_append isDigit_of_mem_zeros hdigits⟩
  · rename_i hpositive
    split
    · rename_i hinside
      obtain ⟨k, hk⟩ : ∃ k, position.toNat = k + 1 := ⟨position.toNat - 1, by omega⟩
      refine ⟨Or.inr ?_, fun c hc => hdigits c (List.mem_of_mem_take hc), ?_⟩
      · simp only [hk, List.take_succ_cons]
        exact ⟨List.cons_ne_nil _ _, hhead⟩
      · rintro _ ⟨⟩
        refine ⟨?_, fun c hc => hdigits c (List.mem_of_mem_drop hc)⟩
        rw [ne_eq, List.drop_eq_nil_iff]
        omega
    · refine ⟨Or.inr ⟨by simp, hhead⟩, isDigit_of_mem_append hdigits isDigit_of_mem_zeros, ?_⟩
      rintro _ ⟨⟩
      exact ⟨by decide, by decide⟩

theorem strict_scientific (negative : Bool) {digits : Text} (hne : digits ≠ [])
    (hhead : digits.head? ≠ some '0') (hdigits : ∀ c ∈ digits, c.isDigit = true) (exponent : ℤ) :
    (scientific negative digits exponent).Strict := by
  obtain ⟨d, ds, rfl⟩ := List.exists_cons_of_ne_nil hne
  refine ⟨Or.inr ⟨List.cons_ne_nil _ _, hhead⟩, fun c hc => hdigits c (List.mem_of_mem_take hc), ?_⟩
  intro others hothers
  cases ds with
  | nil => cases hothers
  | cons d' ds =>
      cases hothers
      exact ⟨List.cons_ne_nil _ _, fun c hc => hdigits c (List.mem_cons_of_mem d hc)⟩

/-- The three ways to write a double, with what the first of its digits is. -/
theorem numeral_json_cases (negative : Bool) (m : Magnitude) :
    json.numeral negative m = ⟨negative, ['0'], some ['0'], none⟩ ∨
      ∃ digits : Text, (digits ≠ [] ∧ digits.head? ≠ some '0' ∧ ∀ c ∈ digits, c.isDigit = true) ∧
        ∃ position, json.numeral negative m = json.writtenOut negative digits position ∨
          json.numeral negative m = scientific negative digits position := by
  by_cases hzero : m = .zero
  · exact Or.inl (if_pos hzero)
  · have hdigits : ∀ c ∈ Nat.toDigits 10 (m.shortest json.takeUpper).coefficient,
        c.isDigit = true :=
      fun c hc => Nat.isDigit_of_mem_toDigits (by decide) (by decide) hc
    have hhead := head?_toDigits_ne_zero (m.coefficient_shortest_ne_zero json.takeUpper hzero)
    refine Or.inr ⟨_, ⟨Nat.toDigits_ne_nil, hhead, hdigits⟩, ?_⟩
    by_cases hposition : json.positional ((Nat.toDigits 10
        (m.shortest json.takeUpper).coefficient).length + (m.shortest json.takeUpper).scale - 1)
    · exact ⟨_, Or.inl ((if_neg hzero).trans (if_pos hposition))⟩
    · exact ⟨_, Or.inr ((if_neg hzero).trans (if_neg hposition))⟩

/-- **A double is written as a JSON number.** -/
theorem strict_numeral (negative : Bool) (m : Magnitude) : (json.numeral negative m).Strict := by
  rcases numeral_json_cases negative m with
    h | ⟨digits, ⟨hne, hhead, hdigits⟩, position, h | h⟩
  · rw [h]
    refine ⟨Or.inl rfl, by simp, ?_⟩
    rintro _ ⟨⟩
    exact ⟨by decide, by decide⟩
  · rw [h]
    exact strict_writtenOut negative hne hhead hdigits position
  · rw [h]
    exact strict_scientific negative hne hhead hdigits position

/-- **A double is not written as an integer.** -/
theorem plainInteger?_numeral (negative : Bool) (m : Magnitude) :
    (json.numeral negative m).plainInteger? = none := by
  rcases numeral_json_cases negative m with h | ⟨digits, -, position, h | h⟩
  · rw [h]
    rfl
  · rw [h]
    unfold writtenOut
    split_ifs <;> rfl
  · rw [h, plainInteger?, scientific, Option.isNone_some, Bool.and_false]
    rfl

end FloatLayout

namespace Json

/-- A double is written as a number or as null. -/
theorem ofBinary64_cases (x : Binary64) :
    (x.isFinite = false ∧ ofBinary64 x = null) ∨
      ∃ n : Numeral, x.isFinite = true ∧ ofBinary64 x = number n ∧ n.Strict ∧ integer? n = none := by
  cases x with
  | nan => exact Or.inl ⟨rfl, rfl⟩
  | signed negative m =>
      by_cases hfinite : m.isFinite = true
      · have hinteger : integer? (FloatLayout.json.numeral negative m) = none := by
          rw [integer?, FloatLayout.plainInteger?_numeral]
          rfl
        exact Or.inr ⟨_, hfinite, if_pos hfinite, FloatLayout.strict_numeral negative m, hinteger⟩
      · exact Or.inl ⟨Bool.eq_false_iff.mpr hfinite, if_neg hfinite⟩

end Json

end QueryOptions
