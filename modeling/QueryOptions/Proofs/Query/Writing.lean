import QueryOptions.Proofs.Clause.Letters
import QueryOptions.Proofs.Clause.Tokens
import QueryOptions.Proofs.Form.Encoding
import QueryOptions.Proofs.Query.Reading
import QueryOptions.Proofs.Scalar
import QueryOptions.Query.Writing

/-!
# Reading back a query

A query is written as pairs of a key and a value and read back from them.  The encoding of the pairs
is undone for all texts, and every key has the value that was written for it (`values_pairs`), so
what is left are the six values:

* flags and limits are read back whatever they are;
* lists that are joined with commas are cut at them again, since no part holds one;
* a filter is read back exactly if its clauses do not run into each other when they are joined
  (`mapM_clauses_join_iff`).  If they are found again, so are the conditions.  If they are not, then
  some clause was cut elsewhere than where it was joined, and the condition that is read in its
  place has more letters `a` or fewer.

The last point is the only one at which a round trip can fail (`ofText_text_iff_separable`).  It
does not fail for properties without apostrophes (`ofText_text`).
-/

namespace QueryOptions.Query

open Text Conjunction

/-! ## The pairs -/

theorem inStyle_beq (style : KeyStyle) (l k : Key) :
    (l.inStyle style == k.inStyle style) = (l == k) := by
  rcases eq_or_ne l k with rfl | hne
  · simp
  · rw [beq_eq_false_iff_ne.mpr hne, beq_eq_false_iff_ne]
    exact fun h => hne (Key.inStyle_injective h)

/-- Of the keys of a row of pairs, those that are not asked for do not matter. -/
theorem filter_filterMap (style : KeyStyle) (v : Values) (k : Key) (keys : List Key) :
    ((keys.filterMap fun l => (v l).map fun value => (l.inStyle style, value)).filter
        (·.1 == k.inStyle style)).map Prod.snd =
      (keys.filter (· == k)).filterMap v := by
  induction keys with
  | nil => rfl
  | cons l keys ih =>
      cases hvalue : v l with
      | none =>
          rw [List.filterMap_cons_none (by rw [hvalue]; rfl), ih, List.filter_cons]
          split
          · rw [List.filterMap_cons_none hvalue]
          · rfl
      | some value =>
          rw [List.filterMap_cons_some (by rw [hvalue]; rfl), List.filter_cons, List.filter_cons,
            inStyle_beq]
          split
          · rw [List.map_cons, ih, List.filterMap_cons_some hvalue]
          · exact ih

/-- Each key has the value that was written for it. -/
theorem values_pairs (style : KeyStyle) (q : Query) : values style (q.pairs style) = q.value? := by
  funext k
  have hsingle : Key.all.filter (· == k) = [k] := by
    cases k <;> rfl
  unfold values Form.Pairs.value? pairs
  rw [filter_filterMap, hsingle]
  cases h : q.value? k <;> simp [h]

/-- A query that says something has a value for some key. -/
theorem any_isSome_value? (q : Query) :
    (Key.all.any fun k => (q.value? k).isSome) = !q.isEmpty := by
  have hlist : ∀ (parts : List Text) (separator : Text),
      (unlessEmpty parts separator).isSome = !parts.isEmpty := by
    intro parts separator
    cases parts <;> rfl
  simp [Key.all, value?, hlist, isEmpty, Bool.or_assoc]

/-- Reading what is written is reading the six values. -/
theorem ofText_text_eq {style : KeyStyle} {q : Query} (hne : q.isEmpty = false) :
    ofText style (q.text style) = (ofValues q.value?).map some := by
  unfold ofText text
  rw [Form.decodePairs_encodePairs]
  show ofPairs style (q.pairs style) = _
  unfold ofPairs
  rw [values_pairs, any_isSome_value?, hne]
  rfl

/-- What is read from the text of a query is read from its six values, in either style. -/
theorem ofText_text (style : KeyStyle) (q : Query) :
    ofText style (q.text style) =
      if q.isEmpty then .ok none else (ofValues q.value?).map some := by
  cases hempty : q.isEmpty with
  | false => exact ofText_text_eq hempty
  | true =>
      rw [isEmpty_iff.mp hempty]
      cases style <;> rfl

/-! ## The six values -/

theorem items_value {ps : List Text} (hps : ∀ p ∈ ps, p ≠ [] ∧ p.trim = p ∧ ',' ∉ p) :
    parts (items ',') (unlessEmpty ps [',']) = ps := by
  cases ps with
  | nil => rfl
  | cons p ps => exact items_join hps

theorem clauses_value (cs : List Text) :
    parts clauses (unlessEmpty cs " and ".toList) = clauses (join " and ".toList cs) := by
  cases cs with
  | nil => exact clauses_nil.symm
  | cons c cs => rfl

/-- The values of a well-formed query are read back, if those of the filter are. -/
theorem ofValues_value?_iff {q : Query} (hq : q.WellFormed) :
    ofValues q.value? = .ok q ↔
      (clauses (join " and ".toList (q.filter.map Condition.text))).mapM Condition.ofText =
        .ok q.filter := by
  have horder : (q.orderBy.map SortKey.text).mapM SortKey.ofText = .ok q.orderBy :=
    mapM_map_eq_ok fun s hs => SortKey.ofText_text (hq.orderBy s hs)
  have hparts : ∀ p ∈ q.orderBy.map SortKey.text, p ≠ [] ∧ p.trim = p ∧ ',' ∉ p := by
    intro p hp
    obtain ⟨s, hs, rfl⟩ := List.mem_map.mp hp
    exact SortKey.text_part (hq.orderBy s hs)
  rw [ofValues_eq_ok_iff]
  simp only [value?, items_value hq.select, Scalar.flag_text, Scalar.limit_text,
    items_value hparts, horder, clauses_value, true_and]

/-! ## The filter -/

/-- **Conditions are read back from a filter** exactly if their texts do not run into each other. -/
theorem mapM_clauses_join_iff {cs : List Condition} (hcs : ∀ c ∈ cs, c.WellFormed) :
    (clauses (join " and ".toList (cs.map Condition.text))).mapM Condition.ofText = .ok cs ↔
      Separable (cs.map Condition.text) := by
  constructor
  · intro h
    induction cs with
    | nil => trivial
    | cons c cs ih =>
        have hc := hcs c List.mem_cons_self
        obtain ⟨hne, htrim⟩ := Condition.text_part hc
        have hcs' : ∀ d ∈ cs, d.WellFormed := fun d hd => hcs d (List.mem_cons_of_mem c hd)
        obtain ⟨y, htext, hy, hrest⟩ := exists_join_cons c.text (cs.map Condition.text)
        rw [List.map_cons, htext] at h
        cases hclauses : clauses (c.text ++ y) with
        | nil =>
            rw [hclauses] at h
            cases h
        | cons k ks =>
            -- `k` is read as `c`, so it has the letters of the text of `c`
            rw [hclauses] at h
            obtain ⟨c', cs', hread, hreads, heq⟩ := mapM_cons_eq_ok.mp h
            cases heq
            obtain ⟨hone, hopen⟩ := first_clause hne htrim
              (fun _ => Condition.blankBefore_of_text_eq hc) hy hclauses
              (Condition.count_text hread)
            obtain ⟨hks, hends⟩ := hrest hopen
            rw [hks, hone] at hclauses
            obtain rfl := (List.cons.inj hclauses).2
            exact ⟨hone, hends, ih hcs' hreads⟩
  · intro h
    rw [clauses_join h]
    exact mapM_map_eq_ok fun c hc => Condition.ofText_text (hcs c hc)

/-- **A well-formed query is read back from its text** exactly if the texts of its conditions do not
run into each other. -/
theorem ofText_text_iff_of_wellFormed {style : KeyStyle} {q : Query} (hq : q.WellFormed)
    (hne : q.isEmpty = false) :
    ofText style (q.text style) = .ok (some q) ↔ Separable (q.filter.map Condition.text) := by
  rw [ofText_text_eq hne, ← mapM_clauses_join_iff hq.filter, ← ofValues_value?_iff hq, map_eq_ok]
  simp

/-! ## Round trips -/

theorem separable_of_no_apostrophe {cs : List Condition} (hcs : ∀ c ∈ cs, c.WellFormed)
    (hproperty : ∀ c ∈ cs, '\'' ∉ c.property) : Separable (cs.map Condition.text) := by
  induction cs with
  | nil => trivial
  | cons c cs ih =>
      have hc := hcs c List.mem_cons_self
      obtain ⟨hclause, hclosed⟩ := Condition.clauses_of_spells hc
        (hproperty c List.mem_cons_self) (Condition.spells_text c)
      refine ⟨hclause, fun hopen => ?_, ?_⟩
      · rw [hclosed] at hopen
        cases hopen
      · exact ih (fun d hd => hcs d (List.mem_cons_of_mem c hd))
          fun d hd => hproperty d (List.mem_cons_of_mem c hd)

/-- **Rendering and reading is the identity** on the well-formed queries whose conditions are about
properties without apostrophes, in both styles. -/
theorem ofText_text_of_no_apostrophe (style : KeyStyle) {q : Query} (hq : q.WellFormed)
    (hproperty : ∀ c ∈ q.filter, '\'' ∉ c.property) (hne : q.isEmpty = false) :
    ofText style (q.text style) = .ok (some q) :=
  (ofText_text_iff_of_wellFormed hq hne).mpr (separable_of_no_apostrophe hq.filter hproperty)

/-- A query whose texts try every reader: strings that hold the separating word, separators of
pairs and of lists, a number and brackets, a lone null in a list, and the double 2⁶³. -/
def everyReader : Query where
  select := ["a b".toList, "=&+%".toList]
  count := some false
  top := some 18446744073709551615
  orderBy := [⟨"n/and".toList, .descending⟩]
  filter := [⟨"name".toList, .notEqual, .single (.string "x and (y, 2) or z".toList)⟩,
    ⟨"id".toList, .isIn, .list [.null]⟩,
    ⟨"band".toList, .isIn,
      .list [.string " and ".toList, .float (.signed false Magnitude.wordBound), .integer (-1)]⟩]

theorem ofText_text_everyReader :
    ofText .bare (everyReader.text .bare) = .ok (some everyReader) := by
  have hq : everyReader.WellFormed := by decide +kernel
  exact ofText_text_of_no_apostrophe .bare hq (by decide) rfl

/-- **A query that was read is read back from its text** exactly if the texts of its conditions do
not run into each other. -/
theorem ofText_text_iff_separable {style : KeyStyle} {t : Text} {q : Query}
    (h : ofText style t = .ok (some q)) (hne : q.isEmpty = false) :
    ofText style (q.text style) = .ok (some q) ↔ Separable (q.filter.map Condition.text) := by
  obtain ⟨v, hv⟩ := exists_ofValues_of_ofText h
  exact ofText_text_iff_of_wellFormed (wellFormed_ofValues hv) hne

/-- The text `'a eq 1 and b eq y` is read as two conditions, the first of them on a property that
begins with an apostrophe.  Written again the second value stands in apostrophes, of which the first
ends a quote that the property opens. -/
def openQuote : Query where
  filter := [⟨"'a".toList, .equal, .single (.integer 1)⟩,
    ⟨"b".toList, .equal, .single (.string "y".toList)⟩]

theorem not_ofText_text_openQuote :
    ofText .dollar "$filter='a eq 1 and b eq y".toList = .ok (some openQuote) ∧
      ofText .dollar (openQuote.text .dollar) ≠ .ok (some openQuote) := by
  have hread : ofText .dollar "$filter='a eq 1 and b eq y".toList = .ok (some openQuote) := by
    decide +kernel
  have hrun : ¬ Separable (openQuote.filter.map Condition.text) := by decide +kernel
  exact ⟨hread, fun h => hrun ((ofText_text_iff_separable hread rfl).mp h)⟩

end QueryOptions.Query
