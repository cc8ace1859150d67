import QueryOptions.Proofs.Text.Trim

/-!
# Letters in either case

Operators and directions are recognized in any letter case, by the text in small letters
(`Text.lower`).  Only the letters of ASCII have a case here, so a text that is a code in small
letters is made of letters itself, with as many characters as the code has.
-/

namespace QueryOptions

theorem isBlank_of_isAlpha {c : Char} (hc : c.isAlpha = true) : isBlank c = false := by
  have hrange : 65 ≤ c.toNat ∧ c.toNat ≤ 122 := by
    rcases Bool.or_eq_true_iff.mp hc with hupper | hlower
    · have hupper : 65 ≤ c.toNat ∧ c.toNat ≤ 90 := of_decide_eq_true hupper
      omega
    · obtain ⟨hfirst, hlast⟩ := Bool.and_eq_true_iff.mp hlower
      have hfirst : 97 ≤ c.toNat := of_decide_eq_true hfirst
      have hlast : c.toNat ≤ 122 := of_decide_eq_true hlast
      omega
  rw [Bool.eq_false_iff]
  intro hblank
  simp only [isBlank, Bool.or_eq_true, Bool.and_eq_true, decide_eq_true_eq, beq_iff_eq] at hblank
  omega

theorem isAlpha_of_isAlpha_toLower {c : Char} (h : c.toLower.isAlpha = true) :
    c.isAlpha = true := by
  unfold Char.toLower at h
  split at h
  · rename_i hcapital
    have hupper : c.isUpper = true := decide_eq_true hcapital
    exact Bool.or_eq_true_iff.mpr (Or.inl hupper)
  · exact h

namespace Text

variable {word code : Text}

/-- What is a row of letters in small letters is a row of letters. -/
theorem isAlpha_of_lower_eq (h : word.lower = code) (hcode : ∀ c ∈ code, c.isAlpha = true) :
    ∀ c ∈ word, c.isAlpha = true := by
  intro c hc
  apply isAlpha_of_isAlpha_toLower
  apply hcode
  rw [← h]
  exact List.mem_map_of_mem hc

theorem length_of_lower_eq (h : word.lower = code) : word.length = code.length := by
  rw [← h, lower, List.length_map]

/-- A small letter that is not in the code is in no spelling of it. -/
theorem not_mem_of_lower_eq (h : word.lower = code) {c : Char} (hc : c.toLower = c)
    (hcode : c ∉ code) : c ∉ word := by
  intro hmem
  apply hcode
  rw [← h]
  exact List.mem_map.mpr ⟨c, hmem, hc⟩

end Text

end QueryOptions
