import QueryOptions.Clause.Condition
import QueryOptions.Proofs.Text.Case

/-!
# The shape of a filter clause

Reading a filter clause means cutting it at its first blank, taking two letters and skipping blanks
again.  This file says what comes out of it without any cutting.  A clause has the shape

```text
  blanks    property    blanks    code           blanks            value
            a word      one +     two letters    one +, or none    from a character that
                                                 in front of (     is not blank to the end
```

and a text has it in at most one way, whatever its property and its value look like
(`split?_eq_some_iff`, `HasShape.unique`).  The three answers of the reader follow from that
(`ofText_by_shape`): a text without the shape is refused as a whole, a code that no operator has is
refused by name, and everything else is a condition.
-/

namespace QueryOptions

/-! ## Codes in any letter case -/

namespace Operator

/-- A code is that of an operator if it is so in small letters. -/
theorem ofCode_eq_ok_iff {code : Text} {o : Operator} :
    ofCode code = .ok o ↔ o.code = code.lower := by
  constructor
  · intro h
    unfold ofCode at h
    split at h
    · rename_i o' hfound
      cases h
      simpa using List.find?_some hfound
    · cases h
  · intro h
    unfold ofCode ofCode?
    rw [← h]
    cases o <;> rfl

theorem ofCode_of_unknown {code : Text} (h : ∀ o : Operator, o.code ≠ code.lower) :
    ofCode code = .error (.operator code) := by
  have hnone : ofCode? code = none := by
    apply List.find?_eq_none.mpr
    intro o _
    simpa using h o
  rw [ofCode, hnone]

end Operator

namespace Condition

open Text

/-! ## The shape -/

/-- A text that is a property, the two letters of a code and a value, with blanks in front and
between.  A blank has to follow the code unless the value begins with a parenthesis. -/
structure HasShape (clause property code value : Text) : Prop where
  property_ne_nil : property ≠ []
  property_not_blank : ∀ c ∈ property, isBlank c = false
  code_length : code.length = 2
  code_letters : ∀ c ∈ code, c.isAlpha = true
  value_begins : ∃ c, value.head? = some c ∧ isBlank c = false
  clause_eq : ∃ l m r, AllBlank l ∧ AllBlank m ∧ AllBlank r ∧ m ≠ [] ∧
    (r = [] → value.head? = some '(') ∧
      clause = l ++ (property ++ (m ++ (code ++ (r ++ value))))

namespace HasShape

variable {clause property code value : Text}

theorem exists_code (h : HasShape clause property code value) :
    ∃ a b, code = [a, b] ∧ a.isAlpha = true ∧ b.isAlpha = true := by
  obtain ⟨a, b, hcode⟩ := List.length_eq_two.mp h.code_length
  have hletters := h.code_letters
  rw [hcode] at hletters
  exact ⟨a, b, hcode, hletters a (by simp), hletters b (by simp)⟩

theorem value_ne_nil (h : HasShape clause property code value) : value ≠ [] := by
  obtain ⟨c, hc, -⟩ := h.value_begins
  rintro rfl
  cases hc

theorem trimStart_value (h : HasShape clause property code value) : value.trimStart = value := by
  obtain ⟨c, hc, hblank⟩ := h.value_begins
  apply trimStart_eq_self_iff.mpr
  intro d hd
  rw [hc] at hd
  cases hd
  exact hblank

end HasShape

/-! ## What is cut out has the shape -/

theorem splitWord_eq (t : Text) :
    ∃ m, AllBlank m ∧ t = (splitWord t).1 ++ (m ++ (splitWord t).2) ∧
      (∀ c ∈ (splitWord t).1, isBlank c = false) ∧
      (m = [] → (splitWord t).2 = []) := by
  obtain ⟨m, hm, hrest⟩ := exists_eq_append_trimStart (t.dropWhile (!isBlank ·))
  refine ⟨m, hm, ?_, ?_, ?_⟩
  · unfold splitWord
    simp only
    rw [← hrest, List.takeWhile_append_dropWhile]
  · intro c hc
    simpa using List.mem_takeWhile_imp hc
  · rintro rfl
    show trimStart (t.dropWhile (!isBlank ·)) = []
    rw [← List.nil_append (trimStart _), ← hrest]
    cases hdrop : t.dropWhile (!isBlank ·) with
    | nil => rfl
    | cons c rest =>
        -- the first character that is left ends the word, so the blanks behind it begin here
        have hblank : isBlank c = true := by
          have hhead := List.head?_dropWhile_not (!isBlank ·) t
          simpa [hdrop] using hhead
        have hstop : trimStart (c :: rest) = c :: rest := by
          rw [hdrop] at hrest
          exact hrest.symm
        have hhead := trimStart_eq_self_iff.mp hstop c rfl
        rw [hblank] at hhead
        cases hhead

/-- What follows the code ends it, so without blanks in between it is a parenthesis. -/
theorem head?_of_endsOperator {rest : Text} (hends : endsOperator rest = true)
    (hstop : rest.trimStart = rest) (hne : rest ≠ []) : rest.head? = some '(' := by
  cases rest with
  | nil => exact absurd rfl hne
  | cons c rest =>
      have hc : isBlank c = false := trimStart_eq_self_iff.mp hstop c rfl
      have hmark : (isBlank c || c == '(') = true := hends
      rw [hc, Bool.false_or, beq_iff_eq] at hmark
      rw [hmark]
      rfl

theorem hasShape_of_split? {clause property code value : Text}
    (h : split? clause = some (property, code, value)) : HasShape clause property code value := by
  obtain ⟨l, hl, hclause⟩ := exists_eq_append_trimStart clause
  obtain ⟨m, hm, hword, hblank, hnil⟩ := splitWord_eq clause.trimStart
  unfold split? at h
  split at h
  · rename_i word a b rest hsplit
    rw [hsplit] at hword hblank hnil
    simp only at h hword hblank hnil
    split at h
    · cases h
    · rename_i hcond
      cases h
      simp only [Bool.or_eq_true, not_or, Bool.not_eq_true, List.isEmpty_eq_false_iff,
        Bool.not_eq_false'] at hcond
      obtain ⟨⟨⟨⟨hproperty, ha⟩, hb⟩, hends⟩, hvalue⟩ := hcond
      obtain ⟨r, hr, hrest⟩ := exists_eq_append_trimStart rest
      have hstop : (trimStart rest).trimStart = trimStart rest := List.dropWhile_idempotent _ _
      refine ⟨hproperty, hblank, rfl, by simp [ha, hb], ?_, l, m, r, hl, hm, hr, ?_, ?_, ?_⟩
      · obtain ⟨c, value, hcons⟩ := List.exists_cons_of_ne_nil hvalue
        rw [hcons] at hstop ⊢
        exact ⟨c, rfl, trimStart_eq_self_iff.mp hstop c rfl⟩
      · intro hmnil
        exact List.cons_ne_nil _ _ (hnil hmnil)
      · rintro rfl
        rw [List.nil_append] at hrest
        rw [← hrest] at hvalue ⊢
        exact head?_of_endsOperator hends hrest.symm hvalue
      · rw [List.cons_append, List.cons_append, List.nil_append, ← hrest, ← hword]
        exact hclause
  · cases h

/-! ## What has the shape is cut out -/

theorem splitWord_append {w : Text} (hw : ∀ c ∈ w, isBlank c = false) {c : Char}
    (hc : isBlank c = true) (t : Text) : splitWord (w ++ c :: t) = (w, trimStart t) := by
  have htake : ∀ d ∈ w, (!isBlank d) = true := fun d hd => by rw [hw d hd]; rfl
  unfold splitWord
  rw [List.takeWhile_append_of_pos htake, List.dropWhile_append_of_pos htake]
  simp [trimStart, hc]

theorem split?_of_hasShape {clause property code value : Text}
    (h : HasShape clause property code value) :
    split? clause = some (property, code, value) := by
  obtain ⟨l, m, r, hl, hm, hr, hmne, hends, hclause⟩ := h.clause_eq
  obtain ⟨a, b, hcode, ha, hb⟩ := h.exists_code
  obtain ⟨d, m, rfl⟩ := List.exists_cons_of_ne_nil hmne
  obtain ⟨hd, hm⟩ := List.forall_mem_cons.mp hm
  have hstart : clause.trimStart = property ++ d :: (m ++ (a :: b :: (r ++ value))) := by
    obtain ⟨c, property, rfl⟩ := List.exists_cons_of_ne_nil h.property_ne_nil
    rw [hclause, trimStart_append_of_blank hl, List.cons_append,
      trimStart_cons_of_not_blank (h.property_not_blank c List.mem_cons_self), hcode]
    rfl
  have hword : splitWord clause.trimStart = (property, a :: b :: (r ++ value)) := by
    rw [hstart, splitWord_append h.property_not_blank hd, trimStart_append_of_blank hm,
      trimStart_cons_of_not_blank (isBlank_of_isAlpha ha)]
  have hvalue : trimStart (r ++ value) = value :=
    (trimStart_append_of_blank hr value).trans h.trimStart_value
  have hoperator : endsOperator (r ++ value) = true := by
    cases r with
    | nil =>
        obtain ⟨value', rfl⟩ := List.head?_eq_some_iff.mp (hends rfl)
        rfl
    | cons c r =>
        have hc : isBlank c = true := hr c List.mem_cons_self
        simp [endsOperator, hc]
  unfold split?
  rw [hword, hcode]
  simp [hvalue, hoperator, ha, hb, h.property_ne_nil, h.value_ne_nil]

/-- **The reader finds the parts of a clause where the shape has them**, and none in a text without
the shape. -/
theorem split?_eq_some_iff {clause property code value : Text} :
    split? clause = some (property, code, value) ↔ HasShape clause property code value :=
  ⟨hasShape_of_split?, split?_of_hasShape⟩

theorem split?_eq_none_iff {clause : Text} :
    split? clause = none ↔ ∀ property code value, ¬ HasShape clause property code value := by
  rw [Option.eq_none_iff_forall_ne_some]
  constructor
  · intro h property code value hshape
    exact h _ (split?_eq_some_iff.mpr hshape)
  · intro h parts hparts
    exact h _ _ _ (split?_eq_some_iff.mp hparts)

/-- A text has the shape in one way at most. -/
theorem HasShape.unique {clause p p' k k' v v' : Text} (h : HasShape clause p k v)
    (h' : HasShape clause p' k' v') : p = p' ∧ k = k' ∧ v = v' := by
  have hparts := (split?_of_hasShape h).symm.trans (split?_of_hasShape h')
  simpa using hparts

/-! ## What the clause is read as -/

theorem ofText_of_hasShape {clause property code value : Text}
    (h : HasShape clause property code value) :
    ofText clause =
      (Operator.ofCode code).map fun o => ⟨property, o, .ofText o value⟩ := by
  rw [ofText, split?_of_hasShape h]

/-- **A filter clause is read by its shape.**  A text has the shape in one way at most.  Without it
the text is refused as a whole; with it, the code is refused if it belongs to no operator in any
letter case, and otherwise the clause is the condition of its three parts. -/
theorem ofText_by_shape (clause : Text) :
    (∀ p k v p' k' v', HasShape clause p k v → HasShape clause p' k' v' →
        p = p' ∧ k = k' ∧ v = v') ∧
      ((∀ p k v, ¬ HasShape clause p k v) → ofText clause = .error (.shape .filter 0 clause)) ∧
      ∀ p k v, HasShape clause p k v →
        ((∀ o : Operator, o.code ≠ k.lower) → ofText clause = .error (.operator k)) ∧
          ∀ o : Operator, o.code = k.lower → ofText clause = .ok ⟨p, o, .ofText o v⟩ := by
  refine ⟨fun p k v p' k' v' h h' => h.unique h', fun hnone => ?_, fun p k v h => ⟨?_, ?_⟩⟩
  · rw [ofText, split?_eq_none_iff.mpr hnone]
  · intro hunknown
    rw [ofText_of_hasShape h, Operator.ofCode_of_unknown hunknown]
    rfl
  · intro o ho
    rw [ofText_of_hasShape h, Operator.ofCode_eq_ok_iff.mpr ho]
    rfl

/-- A property, a code and a value may all look like something else. -/
theorem ofText_by_shape_lookalikes :
    (HasShape " and\tiN('le 5)".toList "and".toList "iN".toList "('le 5)".toList ∧
        ofText " and\tiN('le 5)".toList =
          .ok ⟨"and".toList, .isIn, .list [.string "le 5".toList]⟩) ∧
      (HasShape "eq or  ne".toList "eq".toList "or".toList "ne".toList ∧
        ofText "eq or  ne".toList = .error (.operator "or".toList)) ∧
      ((∀ p k v, ¬ HasShape "eq ge5 1".toList p k v) ∧
        ofText "eq ge5 1".toList = .error (.shape .filter 0 "eq ge5 1".toList)) := by
  have hlist : HasShape " and\tiN('le 5)".toList "and".toList "iN".toList "('le 5)".toList :=
    hasShape_of_split? (by decide +kernel)
  have hunknown : HasShape "eq or  ne".toList "eq".toList "or".toList "ne".toList :=
    hasShape_of_split? (by decide +kernel)
  have hnone : ∀ p k v, ¬ HasShape "eq ge5 1".toList p k v :=
    split?_eq_none_iff.mp (by decide +kernel)
  refine ⟨⟨hlist, ?_⟩, ⟨hunknown, ?_⟩, hnone, (ofText_by_shape _).2.1 hnone⟩
  · have hread := ((ofText_by_shape _).2.2 _ _ _ hlist).2 .isIn (by decide)
    rw [hread]
    decide +kernel
  · apply ((ofText_by_shape _).2.2 _ _ _ hunknown).1
    intro o
    cases o <;> decide

end Condition

end QueryOptions
