import QueryOptions.Proofs.Clause.Shape
import QueryOptions.Proofs.Literal.Reading

/-!
# Filter clauses and their texts

The shape of a filter clause says where every character of it goes, and all else follows from that:
what is read is well-formed (`Condition.wellFormed_ofText`), since no part of it is cut short, and a
well-formed condition is read from every text that spells it (`Condition.ofText_of_spells`), since
all of them have the shape, with any gaps and an operator in any letter case.  The condition's own
text is one of them (`Condition.ofText_text`).
-/

namespace QueryOptions.Condition

open Text

/-! ## What is read -/

/-- A condition that can stand in a query. -/
structure WellFormed (c : Condition) : Prop where
  property_ne_nil : c.property ≠ []
  property_not_blank : ∀ a ∈ c.property, isBlank a = false
  property_ne_and : c.property ≠ "and".toList
  operand : c.operand.Canonical c.operator

instance : DecidablePred WellFormed := fun c =>
  decidable_of_iff
    (c.property ≠ [] ∧ (∀ a ∈ c.property, isBlank a = false) ∧ c.property ≠ "and".toList ∧
      c.operand.Canonical c.operator)
    ⟨fun h => ⟨h.1, h.2.1, h.2.2.1, h.2.2.2⟩, fun h => ⟨h.1, h.2, h.3, h.4⟩⟩

theorem ofText_eq_ok {clause : Text} {c : Condition} (h : ofText clause = .ok c) :
    ∃ code value, HasShape clause c.property code value ∧
      Operator.ofCode code = .ok c.operator ∧ c.operand = .ofText c.operator value := by
  unfold ofText at h
  split at h
  · cases h
  · rename_i property code value hsplit
    cases hcode : Operator.ofCode code with
    | error e =>
        rw [hcode] at h
        cases h
    | ok operator =>
        rw [hcode] at h
        cases h
        exact ⟨code, value, hasShape_of_split? hsplit, hcode, rfl⟩

/-- **What is read is well-formed**, if the clause does not begin with the separating word. -/
theorem wellFormed_ofText {clause : Text} {c : Condition} (h : ofText clause = .ok c)
    (hand : ∀ a rest, clause = "and".toList ++ a :: rest → isBlank a = false)
    (htrim : clause.trim = clause) : c.WellFormed := by
  obtain ⟨code, value, hshape, -, hoperand⟩ := ofText_eq_ok h
  obtain ⟨l, m, r, hl, hm, -, hne, -, hclause⟩ := hshape.clause_eq
  refine ⟨hshape.property_ne_nil, hshape.property_not_blank, fun heq => ?_, ?_⟩
  · -- there is no blank in front of the property and there is one behind it
    cases l with
    | cons d l =>
        have hhead := (trim_eq_self_iff.mp htrim).1 d (by rw [hclause]; rfl)
        rw [hl d List.mem_cons_self] at hhead
        cases hhead
    | nil =>
        cases m with
        | nil => exact hne rfl
        | cons d m =>
            rw [heq] at hclause
            have hd := hand d _ hclause
            rw [hm d List.mem_cons_self] at hd
            cases hd
  · rw [hoperand]
    exact Operand.canonical_ofText c.operator value

/-! ## What a condition is read from -/

/-- A way to write a condition: its property, the code of its operator in any letter case, and a way
to write its operand, with a gap between any two of them. -/
def Spells (c : Condition) (s : Text) : Prop :=
  ∃ m code m' v, IsGap m ∧ code.lower = c.operator.code ∧ IsGap m' ∧ c.operand.Spells v ∧
    s = c.property ++ (m ++ (code ++ (m' ++ v)))

/-- The text of a condition is one way to write it. -/
theorem spells_text (c : Condition) : c.Spells c.text := by
  refine ⟨[' '], c.operator.code, [' '], c.operand.text, isGap_space, ?_, isGap_space,
    Operand.spells_text c.operand, by simp [text]⟩
  cases c.operator <;> rfl

section Spells

variable {c : Condition} {s : Text}

/-- What spells a condition has the shape of a clause. -/
theorem exists_hasShape_of_spells (hc : c.WellFormed) (h : c.Spells s) :
    ∃ code v, HasShape s c.property code v ∧ code.lower = c.operator.code ∧
      c.operand.Spells v := by
  obtain ⟨m, code, m', v, hm, hcode, hm', hv, rfl⟩ := h
  have hletters : ∀ a ∈ code, a.isAlpha = true := by
    apply isAlpha_of_lower_eq hcode
    cases c.operator <;> decide
  have hlength : code.length = 2 := by
    rw [length_of_lower_eq hcode]
    cases c.operator <;> rfl
  have hbegins : ∃ d, v.head? = some d ∧ isBlank d = false := by
    obtain ⟨d, v', hcons⟩ := List.exists_cons_of_ne_nil (hv.ne_nil hc.operand)
    have hends := trim_eq_self_iff.mp (hv.trim_eq hc.operand)
    rw [hcons] at hends ⊢
    exact ⟨d, rfl, hends.1 d rfl⟩
  refine ⟨code, v, ⟨hc.property_ne_nil, hc.property_not_blank, hlength, hletters, hbegins, ?_⟩,
    hcode, hv⟩
  exact ⟨[], m, m', allBlank_nil, hm.blank, hm'.blank, hm.ne_nil,
    fun hnil => absurd hnil hm'.ne_nil, rfl⟩

/-- **A well-formed condition is read from everything that spells it.** -/
theorem ofText_of_spells (hc : c.WellFormed) (h : c.Spells s) : ofText s = .ok c := by
  obtain ⟨code, v, hshape, hcode, hv⟩ := exists_hasShape_of_spells hc h
  rw [ofText_of_hasShape hshape, Operator.ofCode_eq_ok_iff.mpr hcode.symm]
  show Except.ok (⟨c.property, c.operator, .ofText c.operator v⟩ : Condition) = _
  rw [Operand.ofText_of_spells hc.operand hv]

/-- A written condition is not empty and not changed by trimming. -/
theorem Spells.part (h : c.Spells s) (hc : c.WellFormed) : s ≠ [] ∧ s.trim = s := by
  obtain ⟨m, code, m', v, -, -, -, hv, rfl⟩ := h
  have hsplit : c.property ++ (m ++ (code ++ (m' ++ v))) =
      c.property ++ ((m ++ (code ++ m')) ++ v) := by simp
  rw [hsplit]
  refine ⟨by simp [hc.property_ne_nil], ?_⟩
  exact trim_append_append hc.property_ne_nil (trim_eq_self_of_no_blank hc.property_not_blank)
    (hv.ne_nil hc.operand) (hv.trim_eq hc.operand) _

/-- **A well-formed condition is read back from its text.** -/
theorem ofText_text (hc : c.WellFormed) : ofText c.text = .ok c :=
  ofText_of_spells hc (spells_text c)

/-- The text of a condition is not empty and not changed by trimming. -/
theorem text_part (hc : c.WellFormed) : c.text ≠ [] ∧ c.text.trim = c.text :=
  (spells_text c).part hc

end Spells

end QueryOptions.Condition
