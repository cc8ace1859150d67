import QueryOptions.Clause.SortKey
import QueryOptions.Proofs.Success
import QueryOptions.Proofs.Text.Case
import QueryOptions.Proofs.Text.Parts

/-!
# Order-by clauses and their texts

An order-by clause keeps one word of its text, the property, so what is read has a property
without blanks (`SortKey.wellFormed_ofText`).  Such a clause is read from every text that spells it,
with any gap and the direction in any letter case (`SortKey.ofText_of_spells`), and so from its own
text (`SortKey.ofText_text`).

A part of an order-by value that is not blank is read by its words, which say a clause
(`SortKey.Says`) or are refused (`SortKey.Refused`), and nothing else matters
(`SortKey.ofText_trim_eq_ok_iff`, `SortKey.ofText_trim_eq_error_iff`).
-/

namespace QueryOptions.SortKey

open Text

/-- An order-by clause that can stand in a query: its property is a word without commas. -/
structure WellFormed (s : SortKey) : Prop where
  property_ne_nil : s.property ≠ []
  property_not_blank : ∀ c ∈ s.property, isBlank c = false
  property_no_comma : ',' ∉ s.property

instance : DecidablePred WellFormed := fun s =>
  decidable_of_iff
    (s.property ≠ [] ∧ (∀ c ∈ s.property, isBlank c = false) ∧ ',' ∉ s.property)
    ⟨fun h => ⟨h.1, h.2.1, h.2.2⟩, fun h => ⟨h.1, h.2, h.3⟩⟩

/-- **What is read is well-formed**, if the clause has no comma. -/
theorem wellFormed_ofText {clause : Text} {s : SortKey} (hclause : ',' ∉ clause)
    (h : ofText clause = .ok s) : s.WellFormed := by
  have hword : s.property ∈ clause.words := by
    unfold ofText at h
    split at h
    · rename_i property hwords
      cases h
      rw [hwords]
      exact List.mem_cons_self
    · rename_i property word hwords
      cases hcode : Direction.ofCode word with
      | error e =>
          rw [hcode] at h
          cases h
      | ok direction =>
          rw [hcode] at h
          cases h
          rw [hwords]
          exact List.mem_cons_self
    · cases h
  obtain ⟨hne, hblank, hmem⟩ := mem_words hword
  exact ⟨hne, hblank, fun hcomma => hclause (hmem _ hcomma)⟩

/-! ## What a clause is read from -/

/-- A way to write an order-by clause: the property and, behind a gap, the word for the direction in
any letter case.  The ascending direction may be left out. -/
inductive Spells : SortKey → Text → Prop
  | property (property : Text) : Spells { property } property
  | directed {s : SortKey} {m word : Text} (hm : IsGap m) (hword : word.lower = s.direction.code) :
      Spells s (s.property ++ (m ++ word))

theorem ofCode_of_lower_eq {word : Text} {d : Direction} (h : word.lower = d.code) :
    Direction.ofCode word = .ok d := by
  unfold Direction.ofCode
  rw [h]
  cases d <;> rfl

/-- The word for a direction is not empty and holds no blank and no comma. -/
theorem word_of_lower_eq {word : Text} {d : Direction} (h : word.lower = d.code) :
    word ≠ [] ∧ (∀ c ∈ word, isBlank c = false) ∧ ',' ∉ word := by
  have hletters : ∀ c ∈ word, c.isAlpha = true := by
    apply isAlpha_of_lower_eq h
    cases d <;> decide
  refine ⟨?_, fun c hc => isBlank_of_isAlpha (hletters c hc), fun hcomma => ?_⟩
  · rintro rfl
    cases d <;> cases h
  · exact absurd (hletters ',' hcomma) (by decide)

section Spells

variable {s : SortKey} {t : Text}

/-- **A well-formed clause is read from everything that spells it.** -/
theorem ofText_of_spells (hs : s.WellFormed) (h : s.Spells t) : ofText t = .ok s := by
  have hproperty := words_eq_singleton hs.property_ne_nil hs.property_not_blank
  cases h with
  | property property => rw [ofText, hproperty]
  | @directed _ m word hm hword =>
      obtain ⟨hne, hblank, -⟩ := word_of_lower_eq hword
      obtain ⟨c, m, rfl⟩ := List.exists_cons_of_ne_nil hm.ne_nil
      obtain ⟨hc, hm⟩ := List.forall_mem_cons.mp hm.blank
      have hwords : words (s.property ++ (c :: m ++ word)) = [s.property, word] := by
        calc words (s.property ++ (c :: m ++ word))
            = words s.property ++ words (m ++ word) := words_append_blank hc s.property (m ++ word)
          _ = [s.property, word] := by
            rw [hproperty, words_blanks_append hm, words_eq_singleton hne hblank]
            rfl
      rw [ofText, hwords]
      simp only
      rw [ofCode_of_lower_eq hword]
      rfl

/-- A written clause is a part that a list is cut into and that is not changed by trimming. -/
theorem Spells.part (h : s.Spells t) (hs : s.WellFormed) : t ≠ [] ∧ t.trim = t ∧ ',' ∉ t := by
  obtain ⟨hne, hblank, hcomma⟩ := hs
  cases h with
  | property property => exact ⟨hne, trim_eq_self_of_no_blank hblank, hcomma⟩
  | @directed _ m word hm hword =>
      obtain ⟨hwordne, hwordblank, hwordcomma⟩ := word_of_lower_eq hword
      refine ⟨by simp [hne], ?_, ?_⟩
      · exact trim_append_append hne (trim_eq_self_of_no_blank hblank) hwordne
          (trim_eq_self_of_no_blank hwordblank) m
      · simp [hcomma, hwordcomma, hm.blank.not_mem (show isBlank ',' = false by decide)]

end Spells

/-! ## By words -/

/-- What a part of an order-by value says: a property, and a direction if there is a second word. -/
inductive Says : Text → SortKey → Prop
  | property {part property : Text} (h : HasWords part [property]) : Says part { property }
  | directed {part property word : Text} {direction : Direction}
      (h : HasWords part [property, word]) (hword : word.lower = direction.code) :
      Says part { property, direction }

/-- Why a part of an order-by value is refused: its second word is no direction, or there are too
many words. -/
inductive Refused : Text → QueryError → Prop
  | direction {part property word : Text} (h : HasWords part [property, word])
      (hword : ∀ d : Direction, word.lower ≠ d.code) : Refused part (.direction word)
  | shape {part : Text} {ws : List Text} (h : HasWords part ws) (hlength : 3 ≤ ws.length) :
      Refused part (.shape .orderBy ws.length part.trim)

theorem ofCode_eq_ok_iff {word : Text} {d : Direction} :
    Direction.ofCode word = .ok d ↔ word.lower = d.code := by
  refine ⟨fun h => ?_, ofCode_of_lower_eq⟩
  unfold Direction.ofCode at h
  split at h
  · rename_i hword
    rw [← Except.ok.inj h]
    exact hword
  · split at h
    · rename_i hword
      rw [← Except.ok.inj h]
      exact hword
    · cases h

theorem ofCode_eq_error_iff {word : Text} {e : QueryError} :
    Direction.ofCode word = .error e ↔
      .direction word = e ∧ ∀ d : Direction, word.lower ≠ d.code := by
  constructor
  · intro h
    refine ⟨?_, fun d hd => ?_⟩
    · unfold Direction.ofCode at h
      split_ifs at h
      exact Except.error.inj h
    · rw [ofCode_of_lower_eq hd] at h
      cases h
  · rintro ⟨rfl, hword⟩
    unfold Direction.ofCode
    rw [if_neg (hword .ascending), if_neg (hword .descending)]

/-- **A part is accepted** as what its words say. -/
theorem ofText_trim_eq_ok_iff {part : Text} {s : SortKey} :
    ofText part.trim = .ok s ↔ Says part s := by
  constructor
  · intro h
    unfold ofText at h
    rw [words_trim] at h
    split at h
    · rename_i property hwords
      cases h
      exact .property (words_eq_iff.mp hwords)
    · rename_i property word hwords
      obtain ⟨direction, hdirection, rfl⟩ := map_eq_ok.mp h
      exact .directed (words_eq_iff.mp hwords) (ofCode_eq_ok_iff.mp hdirection)
    · cases h
  · intro h
    unfold ofText
    rw [words_trim]
    cases h with
    | property h => rw [words_of_hasWords h]
    | directed h hword =>
        rw [words_of_hasWords h]
        exact map_eq_ok.mpr ⟨_, ofCode_of_lower_eq hword, rfl⟩

/-- **A part that is not blank is refused** for its second word or for the number of its words. -/
theorem ofText_trim_eq_error_iff {part : Text} (hpart : ¬ AllBlank part) {e : QueryError} :
    ofText part.trim = .error e ↔ Refused part e := by
  constructor
  · intro h
    unfold ofText at h
    rw [words_trim] at h
    split at h
    · cases h
    · rename_i property word hwords
      obtain ⟨rfl, hword⟩ := ofCode_eq_error_iff.mp (map_eq_error.mp h)
      exact .direction (words_eq_iff.mp hwords) hword
    · rename_i hone htwo
      cases h
      refine .shape (words_eq_iff.mp rfl) ?_
      -- a part without words would be blank
      match hwords : words part with
      | [] => exact absurd (allBlank_of_hasWords_nil (words_eq_iff.mp hwords)) hpart
      | [property] => exact absurd hwords (hone property)
      | [property, word] => exact absurd hwords (htwo property word)
      | first :: second :: third :: more => simp
  · intro h
    unfold ofText
    rw [words_trim]
    cases h with
    | direction h hword =>
        rw [words_of_hasWords h]
        exact map_eq_error.mpr (ofCode_eq_error_iff.mpr ⟨rfl, hword⟩)
    | @shape ws h hlength =>
        rw [words_of_hasWords h]
        match ws with
        | [] | [property] | [property, word] => simp at hlength
        | first :: second :: third :: more => rfl

/-! ## The text -/

/-- The text of a clause is one way to write it. -/
theorem spells_text (s : SortKey) : s.Spells s.text := by
  obtain ⟨property, direction⟩ := s
  cases direction with
  | ascending => exact .property property
  | descending => exact .directed (m := [' ']) isGap_space rfl

/-- **A well-formed clause is read back from its text.** -/
theorem ofText_text {s : SortKey} (hs : s.WellFormed) : ofText s.text = .ok s :=
  ofText_of_spells hs (spells_text s)

/-- The text of a clause is a part that a list is cut into and that is not changed by trimming. -/
theorem text_part {s : SortKey} (hs : s.WellFormed) :
    s.text ≠ [] ∧ s.text.trim = s.text ∧ ',' ∉ s.text :=
  (spells_text s).part hs

end QueryOptions.SortKey
