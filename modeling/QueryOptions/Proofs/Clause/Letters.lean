import QueryOptions.Proofs.Clause.Condition

/-!
# What reading a condition does not change

Reading a filter clause drops blanks and apostrophes, and writing the condition puts others in
their place.  Letters are not dropped, except that a numeral may have an `e` and that an operator
may be written in capitals.  No operator and no numeral has an `a`, so

  `c.text.count 'a' = clause.count 'a'`

for the condition `c` that a clause is read as (`Condition.count_text`).  As the separating word
has an `a`, a clause cut too short or too long by such a word is never read as the same condition.
-/

namespace QueryOptions

open Text

/-! ## Texts -/

namespace Text

theorem count_of_blank {t : Text} (ht : AllBlank t) : t.count 'a' = 0 := by
  rw [List.count_eq_zero]
  intro ha
  exact absurd (ht _ ha) (by decide)

theorem count_trim (t : Text) : t.trim.count 'a' = t.count 'a' := by
  obtain ⟨l, r, hl, hr, ht⟩ := exists_eq_append_trim_append t
  have h := congrArg (List.count 'a') ht
  rw [List.count_append, List.count_append, count_of_blank hl, count_of_blank hr] at h
  omega

theorem count_join {separator : Text} (hsep : separator.count 'a' = 0) (ts : List Text) :
    (join separator ts).count 'a' = (ts.map (List.count 'a')).sum := by
  unfold join
  induction ts with
  | nil => rfl
  | cons t ts ih =>
      cases ts with
      | nil => simp
      | cons u ts =>
          rw [List.intercalate_cons_cons, List.count_append, List.count_append, hsep, ih]
          rfl

end Text

/-! ## Literals -/

namespace Literal

theorem count_of_number? {t : Text} {l : Literal} (h : number? t = some l) : t.count 'a' = 0 := by
  obtain ⟨n, hn, -⟩ := Option.bind_eq_some_iff.mp h
  rw [List.count_eq_zero]
  intro ha
  rcases Numeral.isPart_of_ofText? hn _ ha with hpart | hpart
  · exact absurd hpart (by decide)
  · exact absurd hpart (by decide)

theorem count_unquoted (t : Text) : (unquoted t).count 'a' = t.count 'a' :=
  List.count_filter (by decide)

theorem count_quoted (s : Text) : (quoted s).count 'a' = s.count 'a' := by
  simp [quoted]

theorem text_ofUnquoted (s : Text) : (ofUnquoted s).text = quoted s := by
  cases s <;> rfl

theorem count_text_ofText (raw : Text) : (ofText raw).text.count 'a' = raw.count 'a' := by
  rw [← count_trim raw]
  rcases ofText_cases raw with ⟨n, hn, hl⟩ | ⟨b, htrim, hb⟩ | hu
  · -- a number before and a number after, and neither has an `a`
    have hraw : number? raw.trim = some (ofText raw) := by
      rw [number?, hn, Option.bind_some, hl]
    have htext : number? (ofText raw).text = some (ofText raw) := by
      rcases ofNumeral?_cases hl with ⟨z, hz⟩ | ⟨x, hx, hfinite, hword⟩
      · rw [hz]
        exact number?_integerText z
      · rw [hx]
        exact number?_queryText hfinite hword
    rw [count_of_number? hraw, count_of_number? htext]
  · rw [hb, htrim]
    rfl
  · rw [hu, text_ofUnquoted, count_quoted, count_unquoted]

end Literal

/-! ## Operands and conditions -/

namespace Operand

theorem count_dropOpening (t : Text) : (dropOpening t).count 'a' = t.count 'a' := by
  unfold dropOpening
  split
  · simp
  · rfl

theorem count_dropClosing (t : Text) : (dropClosing t).count 'a' = t.count 'a' := by
  unfold dropClosing
  split
  · rename_i h
    have ht := congrArg (List.count 'a') (List.dropLast_append_getLast? ')' h)
    rw [List.count_append] at ht
    simpa using ht
  · rfl

theorem count_pieces (raw : Text) :
    ((pieces raw).map (List.count 'a')).sum = raw.count 'a' := by
  have hjoin : join [','] (pieces raw) = dropClosing (dropOpening raw.trim) :=
    List.intercalate_splitOn ','
  rw [← count_join (by decide : [','].count 'a' = 0), hjoin, count_dropClosing, count_dropOpening,
    count_trim]

theorem count_text_ofText (operator : Operator) (raw : Text) :
    (ofText operator raw).text.count 'a' = raw.count 'a' := by
  unfold ofText
  split
  · have hcounts : (literals raw).map (List.count 'a' ∘ Literal.text) =
        (pieces raw).map (List.count 'a') := by
      simp [literals, Literal.count_text_ofText]
    have hinner := count_join (by decide : ", ".toList.count 'a' = 0)
      ((literals raw).map Literal.text)
    rw [List.map_map] at hinner
    show ('(' :: (join _ _ ++ [')'])).count 'a' = _
    rw [← count_pieces raw, ← hcounts]
    simpa using hinner
  · exact Literal.count_text_ofText raw

end Operand

namespace Condition

theorem count_code {code : Text} {o : Operator} (h : Operator.ofCode code = .ok o) :
    code.count 'a' = 0 := by
  rw [List.count_eq_zero]
  apply not_mem_of_lower_eq (Operator.ofCode_eq_ok_iff.mp h).symm (by decide)
  cases o <;> decide

/-- **The letters `a` of a clause** are those of the text of the condition that it is read as. -/
theorem count_text {clause : Text} {c : Condition} (h : ofText clause = .ok c) :
    c.text.count 'a' = clause.count 'a' := by
  obtain ⟨code, value, hshape, hcode, hoperand⟩ := ofText_eq_ok h
  obtain ⟨l, m, r, hl, hm, hr, -, -, hclause⟩ := hshape.clause_eq
  have hwritten : c.operator.code.count 'a' = 0 := count_code (Operator.ofCode_code c.operator)
  have hread := count_code hcode
  have hvalue : c.operand.text.count 'a' = value.count 'a' := by
    rw [hoperand]
    exact Operand.count_text_ofText _ _
  have htext : c.text =
      c.property ++ ([' '] ++ (c.operator.code ++ ([' '] ++ c.operand.text))) := by simp [text]
  have hspace : [' '].count 'a' = 0 := by decide
  rw [htext, hclause]
  simp only [List.count_append, count_of_blank hl, count_of_blank hm, count_of_blank hr, hspace,
    hvalue, hwritten, hread, Nat.zero_add]

end Condition

end QueryOptions
