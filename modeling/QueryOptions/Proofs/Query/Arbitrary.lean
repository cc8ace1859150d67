import QueryOptions.Proofs.Query.Writing

/-!
# Writing any query

A query that was put together by hand may hold anything: properties that are empty or hold blanks,
strings with separators and apostrophes, a double that is no number.  Its text need not be read back
as the query.  Still the text says which of the six options are given, and the four of them that are
no clauses come back (`Query.ofText_text_arbitrary`):

```text
  count, top, skip    as they are
  select              cut at its commas and trimmed
  order-by, filter    as whatever clauses their texts are, or else the reading fails
```

Whatever is in a value is encoded, so no value can end its segment and none can fail to decode.
That leaves the clauses as the only place where an error can come from.
-/

namespace QueryOptions

open Text

namespace QueryError

/-- An error about a clause, as opposed to one about the address, a component or a scalar. -/
inductive AboutClause : QueryError → Prop
  | shape (kind : ClauseKind) (terms : ℕ) (clause : Text) : AboutClause (.shape kind terms clause)
  | direction (word : Text) : AboutClause (.direction word)
  | operator (code : Text) : AboutClause (.operator code)

end QueryError

theorem Direction.aboutClause_of_ofCode {word : Text} {e : QueryError}
    (h : Direction.ofCode word = .error e) : e.AboutClause := by
  unfold Direction.ofCode at h
  split at h
  · cases h
  · split at h
    · cases h
    · cases h
      exact .direction word

theorem Operator.aboutClause_of_ofCode {code : Text} {e : QueryError}
    (h : Operator.ofCode code = .error e) : e.AboutClause := by
  unfold Operator.ofCode at h
  split at h
  · cases h
  · cases h
    exact .operator code

theorem SortKey.aboutClause_of_ofText {clause : Text} {e : QueryError}
    (h : SortKey.ofText clause = .error e) : e.AboutClause := by
  unfold SortKey.ofText at h
  split at h
  · cases h
  · exact Direction.aboutClause_of_ofCode (map_eq_error.mp h)
  · cases h
    exact .shape .orderBy _ clause

theorem Condition.aboutClause_of_ofText {clause : Text} {e : QueryError}
    (h : Condition.ofText clause = .error e) : e.AboutClause := by
  unfold Condition.ofText at h
  split at h
  · cases h
    exact .shape .filter 0 clause
  · exact Operator.aboutClause_of_ofCode (map_eq_error.mp h)

namespace Query

/-! ## The six values -/

theorem parts_select (q : Query) :
    parts (items ',') (q.value? .select) = items ',' (join [','] q.select) := by
  show parts (items ',') (unlessEmpty q.select [',']) = _
  cases q.select with
  | nil => rfl
  | cons p ps => rfl

/-- Of the values of a query only those with clauses are read in a way that can fail. -/
theorem ofValues_value? (q : Query) :
    ofValues q.value? =
      (parts (items ',') (q.value? .orderBy)).mapM SortKey.ofText >>= fun orderBy =>
        (parts Conjunction.clauses (q.value? .filter)).mapM Condition.ofText >>= fun filter =>
          .ok { select := items ',' (join [','] q.select), count := q.count, top := q.top,
                skip := q.skip, orderBy, filter } := by
  have hcount : Scalar.flag .count (q.value? .count) = .ok q.count := Scalar.flag_text .count _
  have htop : Scalar.limit .top (q.value? .top) = .ok q.top := Scalar.limit_text .top _
  have hskip : Scalar.limit .skip (q.value? .skip) = .ok q.skip := Scalar.limit_text .skip _
  unfold ofValues
  rw [hcount, htop, hskip, parts_select]
  rfl

theorem kept_of_ofValues {q r : Query} (h : ofValues q.value? = .ok r) :
    r.count = q.count ∧ r.top = q.top ∧ r.skip = q.skip ∧
      r.select = items ',' (join [','] q.select) := by
  rw [ofValues_value?] at h
  obtain ⟨orderBy, -, h⟩ := bind_eq_ok.mp h
  obtain ⟨filter, -, h⟩ := bind_eq_ok.mp h
  cases h
  exact ⟨rfl, rfl, rfl, rfl⟩

theorem aboutClause_of_ofValues {q : Query} {e : QueryError}
    (h : ofValues q.value? = .error e) : e.AboutClause := by
  rw [ofValues_value?] at h
  rcases bind_eq_error.mp h with h | ⟨orderBy, -, h⟩
  · obtain ⟨clause, -, h⟩ := exists_of_mapM_eq_error h
    exact SortKey.aboutClause_of_ofText h
  · rcases bind_eq_error.mp h with h | ⟨filter, -, h⟩
    · obtain ⟨clause, -, h⟩ := exists_of_mapM_eq_error h
      exact Condition.aboutClause_of_ofText h
    · cases h

/-! ## The text -/

theorem ofText_text_eq_none_iff (style : KeyStyle) (q : Query) :
    ofText style (q.text style) = .ok none ↔ q.isEmpty = true := by
  rw [ofText_text]
  cases q.isEmpty with
  | true => exact ⟨fun _ => rfl, fun _ => rfl⟩
  | false =>
      constructor
      · intro h
        obtain ⟨r, -, hnone⟩ := map_eq_ok.mp h
        cases hnone
      · intro h
        cases h

theorem text_eq_nil_iff (style : KeyStyle) (q : Query) :
    q.text style = [] ↔ q.isEmpty = true := by
  constructor
  · intro h
    rw [← ofText_text_eq_none_iff style, h]
    cases style <;> rfl
  · intro h
    rw [isEmpty_iff.mp h]
    cases style <;> rfl

/-- **Whatever query is written**, its text is read as none exactly if the query says nothing,
reading fails at most at a clause, and if it does not fail the options that are no clauses come
back. -/
theorem ofText_text_arbitrary (style : KeyStyle) (q : Query) :
    (ofText style (q.text style) = .ok none ↔ q.isEmpty = true) ∧
      (q.text style = [] ↔ q.isEmpty = true) ∧
      (∀ e, ofText style (q.text style) = .error e → e.AboutClause) ∧
      ∀ r, ofText style (q.text style) = .ok (some r) →
        r.count = q.count ∧ r.top = q.top ∧ r.skip = q.skip ∧
          r.select = items ',' (join [','] q.select) := by
  refine ⟨ofText_text_eq_none_iff style q, text_eq_nil_iff style q, fun e h => ?_, fun r h => ?_⟩
  · rw [ofText_text] at h
    split at h
    · cases h
    · exact aboutClause_of_ofValues (map_eq_error.mp h)
  · rw [ofText_text] at h
    split at h
    · cases h
    · obtain ⟨r', hr', hsome⟩ := map_eq_ok.mp h
      cases hsome
      exact kept_of_ofValues hr'

/-- Separators in a property, an empty property to order by, an empty list, and no number. -/
def careless : Query where
  select := [" a&b= ".toList, "".toList, "c,d".toList]
  count := some true
  skip := some 0
  orderBy := [⟨[], .ascending⟩]
  filter := [⟨"x and y".toList, .isIn, .list []⟩, ⟨"z".toList, .equal, .single (.float .nan)⟩]

theorem ofText_text_careless :
    (∃ e, ofText .dollar (careless.text .dollar) = .error e ∧ e.AboutClause) ∧
      ∃ r, ofText .bare ({ careless with filter := [] }.text .bare) = .ok (some r) ∧
        r.count = some true ∧ r.select = ["a&b=".toList, "c".toList, "d".toList] := by
  have herror : ofText .dollar (careless.text .dollar) = .error (.shape .filter 0 "x".toList) := by
    decide +kernel
  have hread : ofText .bare ({ careless with filter := [] }.text .bare) = .ok (some
      { select := ["a&b=".toList, "c".toList, "d".toList], count := some true, skip := some 0 }) := by
    decide +kernel
  obtain ⟨-, -, hclause, -⟩ := ofText_text_arbitrary .dollar careless
  obtain ⟨-, -, -, hkept⟩ := ofText_text_arbitrary .bare { careless with filter := [] }
  refine ⟨⟨_, herror, hclause _ herror⟩, _, hread, (hkept _ hread).1, ?_⟩
  rw [(hkept _ hread).2.2.2]
  decide +kernel

end Query

end QueryOptions
