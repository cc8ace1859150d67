import QueryOptions.Proofs.Literal.Canonical
import QueryOptions.Proofs.Number.Rounding

/-!
# Which numbers are read without loss

A numeral is to be read as an integer if the number that it spells is an integer of 64 bits, and
otherwise not.  The reader asks this of the number itself only where the numeral is digits alone and
fits.  Everywhere else it asks the nearest double, and rounding may move an integer to another one
or make an integer of a number that is none:

```text
9007199254740993.0        is read as 9007199254740992
-9223372036854775809      is read as -9223372036854775808, though it does not fit
9223372036854775807.0     is read as the double 2⁶³, though it fits
0.99999999999999999999    is read as 1
```

`Literal.lossless_iff` tells the texts that are read right from these: the integer is spelled in
digits alone, or the number is a double itself, or neither the number nor its nearest double is an
integer of 64 bits.
-/

namespace QueryOptions

/-! ## What a numeral is read as -/

namespace Numeral

/-- Whether a numeral is digits alone, and an integer of 64 bits. -/
def PlainWord (n : Numeral) : Prop :=
  n.fraction = none ∧ n.exponent = none ∧ ∃ z : Int64, n.value = z.toInt

/-- Digits alone spell the integer that they are read as. -/
theorem value_of_plainInteger? {n : Numeral} {z : ℤ} (h : n.plainInteger? = some z) :
    n.value = z := by
  obtain ⟨rfl, hscale⟩ := Binary64.plainInteger?_eq_some h
  rw [value, Decimal.value, hscale, zpow_zero, mul_one, Binary64.ofWhole_cast]

theorem filter_plainInteger?_eq_some {n : Numeral} {z : ℤ} :
    n.plainInteger?.filter Binary64.isWord = some z ↔
      n.plainInteger? = some z ∧ Binary64.isWord z = true :=
  Option.filter_eq_some_iff

theorem plainWord_iff {n : Numeral} :
    n.PlainWord ↔ ∃ z, n.plainInteger?.filter Binary64.isWord = some z := by
  constructor
  · rintro ⟨hfraction, hexponent, z, hz⟩
    obtain ⟨w, hw⟩ : ∃ w, n.plainInteger? = some w := by
      unfold plainInteger?
      rw [hfraction, hexponent]
      exact ⟨_, rfl⟩
    have hzw : z.toInt = w := by
      rw [value_of_plainInteger? hw] at hz
      exact_mod_cast hz.symm
    exact ⟨w, filter_plainInteger?_eq_some.mpr ⟨hw, hzw ▸ Binary64.isWord_toInt z⟩⟩
  · rintro ⟨w, hfilter⟩
    obtain ⟨hw, hword⟩ := filter_plainInteger?_eq_some.mp hfilter
    have hplain : n.fraction = none ∧ n.exponent = none := by
      unfold plainInteger? at hw
      split at hw
      · rename_i hplain
        simpa using hplain
      · cases hw
    refine ⟨hplain.1, hplain.2, Int64.ofInt w, ?_⟩
    rw [value_of_plainInteger? hw, Binary64.toInt_ofInt hword]

end Numeral

namespace Literal

theorem ofNumeral?_of_plainWord {n : Numeral} (h : n.PlainWord) (z : Int64) :
    ofNumeral? n = some (integer z) ↔ n.value = z.toInt := by
  obtain ⟨w, hfilter⟩ := Numeral.plainWord_iff.mp h
  obtain ⟨hw, hword⟩ := Numeral.filter_plainInteger?_eq_some.mp hfilter
  unfold ofNumeral?
  rw [hfilter, Numeral.value_of_plainInteger? hw, ← Binary64.toInt_ofInt hword, Int.cast_inj,
    Int64.toInt_inj, Binary64.toInt_ofInt hword]
  simp

/-- Every other numeral goes through the nearest double. -/
theorem ofNumeral?_eq_of_not_plainWord {n : Numeral} (h : ¬ n.PlainWord) :
    ofNumeral? n = if (Binary64.ofNumeral n).isFinite then
      some (((Binary64.ofNumeral n).toInt64?.map integer).getD (float (Binary64.ofNumeral n)))
    else none := by
  have hnone : n.plainInteger?.filter Binary64.isWord = none := by
    rw [Option.eq_none_iff_forall_not_mem]
    exact fun w hw => h (Numeral.plainWord_iff.mpr ⟨w, hw⟩)
  unfold ofNumeral?
  rw [hnone]

theorem ofNumeral?_of_not_plainWord {n : Numeral} (h : ¬ n.PlainWord) (z : Int64) :
    ofNumeral? n = some (integer z) ↔ (Binary64.ofNumeral n).value = z.toInt := by
  have hvalue : (Binary64.ofNumeral n).toInt64? = some z ↔
      (Binary64.ofNumeral n).value = z.toInt := Binary64.toInt64?_eq_some_iff
  have hfinite : (Binary64.ofNumeral n).value = z.toInt → (Binary64.ofNumeral n).isFinite = true :=
    Binary64.isFinite_of_value_eq
  rw [ofNumeral?_eq_of_not_plainWord h]
  generalize Binary64.ofNumeral n = x at hvalue hfinite
  rw [← hvalue] at hfinite ⊢
  constructor
  · intro hread
    split at hread
    · cases hword : x.toInt64? with
      | none => simp [hword] at hread
      | some w => simpa [hword] using hread
    · cases hread
  · intro hword
    rw [if_pos (hfinite hword), hword]
    rfl

theorem ofUnquoted_ne_integer (t : Text) (z : Int64) : ofUnquoted t ≠ integer z := by
  cases t with
  | nil => exact Literal.noConfusion
  | cons c t => exact Literal.noConfusion

theorem ofText_eq_integer_iff {t : Text} {n : Numeral} (h : Numeral.Spells t.trim n) (z : Int64) :
    ofText t = integer z ↔ ofNumeral? n = some (integer z) := by
  have hread := Numeral.ofText?_of_spells h
  constructor
  · intro hz
    rcases ofText_cases t with ⟨n', hn', hl⟩ | ⟨b, -, hb⟩ | hu
    · rw [hread] at hn'
      rw [Option.some.inj hn', hl, hz]
    · rw [hz] at hb
      cases hb
    · exact absurd (hu.symm.trans hz) (ofUnquoted_ne_integer _ z)
  · intro hn
    rw [ofText, ofTrimmed, number?, hread, Option.bind_some, hn]

/-- Below 2⁵³ an integer is read as itself with whatever point and power of ten it is spelled. -/
theorem ofText_of_natAbs_lt {t : Text} {n : Numeral} (h : Numeral.Spells t.trim n) {z : Int64}
    (hz : z.toInt.natAbs < 2 ^ 53) (hvalue : n.value = z.toInt) : ofText t = integer z := by
  have hnearest := Binary64.isNearest_ofNumeral n
  rw [hvalue] at hnearest
  have hexact : (Binary64.ofNumeral n).value = n.value := by
    rw [hnearest.value_eq_intCast hz, hvalue]
  rw [ofText_eq_integer_iff h]
  by_cases hn : n.PlainWord
  · exact (ofNumeral?_of_plainWord hn z).mpr hvalue
  · exact (ofNumeral?_of_not_plainWord hn z).mpr (hexact.trans hvalue)

/-! ## The texts that are read right -/

/-- A text that spells the number `q` is read without loss: as an integer exactly if `q` is it. -/
def Lossless (t : Text) (q : ℚ) : Prop := ∀ z : Int64, ofText t = integer z ↔ q = z.toInt

/-- A text is read without loss for two numbers if these are the same, or neither is an integer. -/
theorem lossless_iff_of_lossless {t : Text} {q r : ℚ} (h : Lossless t r) :
    Lossless t q ↔ r = q ∨ ∀ z : Int64, q ≠ z.toInt ∧ r ≠ z.toInt := by
  constructor
  · intro hq
    by_cases hinteger : ∃ z : Int64, r = z.toInt
    · obtain ⟨z, hz⟩ := hinteger
      exact Or.inl (hz.trans ((hq z).mp ((h z).mpr hz)).symm)
    · rw [not_exists] at hinteger
      exact Or.inr fun z => ⟨fun hz => hinteger z ((h z).mp ((hq z).mpr hz)), hinteger z⟩
  · rintro (rfl | hneither)
    · exact h
    · intro z
      rw [h z]
      exact iff_of_false (hneither z).2 (hneither z).1

/-- **Which numbers are read without loss.**  Digits alone that fit are read as the integer that
they spell, and every other numeral as the integer that the nearest double is.  So the integer is
the one that is spelled unless rounding has moved it, or made it, or lost it. -/
theorem lossless_iff {t : Text} {n : Numeral} (h : Numeral.Spells t.trim n) :
    (Binary64.ofNumeral n).IsNearest n.value ∧
      (n.PlainWord → Lossless t n.value) ∧
      (¬ n.PlainWord → Lossless t (Binary64.ofNumeral n).value) ∧
      (Lossless t n.value ↔ n.PlainWord ∨ (Binary64.ofNumeral n).value = n.value ∨
        ∀ z : Int64, n.value ≠ z.toInt ∧ (Binary64.ofNumeral n).value ≠ z.toInt) := by
  have hplain : n.PlainWord → Lossless t n.value := fun hn z =>
    (ofText_eq_integer_iff h z).trans (ofNumeral?_of_plainWord hn z)
  have hrounded : ¬ n.PlainWord → Lossless t (Binary64.ofNumeral n).value := fun hn z =>
    (ofText_eq_integer_iff h z).trans (ofNumeral?_of_not_plainWord hn z)
  refine ⟨Binary64.isNearest_ofNumeral n, hplain, hrounded, ?_⟩
  by_cases hn : n.PlainWord
  · exact iff_of_true (hplain hn) (Or.inl hn)
  · rw [lossless_iff_of_lossless (hrounded hn), or_iff_right hn]

/-- 2⁵³ + 1, the first integer that is no double, with a point behind it. -/
def oddText : Text := "9007199254740993.0".toList

def oddNumeral : Numeral := ⟨false, "9007199254740993".toList, some ['0'], none⟩

theorem value_oddNumeral : oddNumeral.value = 9007199254740993 := by
  have hdecimal : oddNumeral.decimal = ⟨90071992547409930, -1⟩ := by decide +kernel
  have hsign : oddNumeral.negative = false := rfl
  rw [Numeral.value, hdecimal, hsign, Decimal.value, withSign]
  norm_num

theorem value_ofNumeral_oddNumeral : (Binary64.ofNumeral oddNumeral).value = 9007199254740992 := by
  have hread : (Binary64.ofNumeral oddNumeral).toInt64? = some 9007199254740992 := by decide +kernel
  exact Binary64.value_of_toInt64? hread

/-- It is read as the integer below, which rounding to an even significand has made of it. -/
theorem not_lossless_oddNumeral :
    Numeral.Spells oddText.trim oddNumeral ∧ oddNumeral.value = 9007199254740993 ∧
      ofText oddText = integer 9007199254740992 ∧ ¬ Lossless oddText oddNumeral.value := by
  have hspells : Numeral.Spells oddText.trim oddNumeral :=
    Numeral.spells_of_ofText? (by decide +kernel)
  obtain ⟨-, -, hrounded, hlossless⟩ := lossless_iff hspells
  have hpoint : ¬ oddNumeral.PlainWord := fun h => Option.some_ne_none _ h.1
  refine ⟨hspells, value_oddNumeral, (hrounded hpoint _).mpr value_ofNumeral_oddNumeral, ?_⟩
  rw [hlossless, value_ofNumeral_oddNumeral, value_oddNumeral]
  rintro (h | h | h)
  · exact hpoint h
  · norm_num at h
  · exact (h 9007199254740993).1 rfl

end Literal

end QueryOptions
