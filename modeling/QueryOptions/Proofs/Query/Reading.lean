import QueryOptions.Proofs.Clause.Condition
import QueryOptions.Proofs.Clause.SortKey
import QueryOptions.Proofs.Conjunction.Beginning
import QueryOptions.Proofs.Success
import QueryOptions.Query.Reading

/-!
# The queries that are read

Whatever text a query is read from, the query is well-formed (`Query.wellFormed_of_ofText`).  Each
field owes this to another reader:

* the selected properties and the order-by clauses to the splitting at commas and the trimming;
* the properties of order-by clauses and conditions to the splitting at blanks;
* the operands to the reader of literals;
* that no property is the word `and` to the splitting of the filter together with the grammar of a
  condition: behind a property there is a blank, and no clause begins with the word and a blank.
-/

namespace QueryOptions.Query

open Text

/-- A query whose fields can be written so that each is found again: the parts of a list hold no
comma and no outer blanks, every property is a word, and literals are canonical. -/
structure WellFormed (q : Query) : Prop where
  select : ∀ p ∈ q.select, p ≠ [] ∧ p.trim = p ∧ ',' ∉ p
  orderBy : ∀ s ∈ q.orderBy, s.WellFormed
  filter : ∀ c ∈ q.filter, c.WellFormed

instance : DecidablePred WellFormed := fun q =>
  decidable_of_iff
    ((∀ p ∈ q.select, p ≠ [] ∧ p.trim = p ∧ ',' ∉ p) ∧ (∀ s ∈ q.orderBy, s.WellFormed) ∧
      ∀ c ∈ q.filter, c.WellFormed)
    ⟨fun h => ⟨h.1, h.2.1, h.2.2⟩, fun h => ⟨h.1, h.2, h.3⟩⟩

/-! ## What a reading that succeeds has read -/

/-- The query of given values has the fields that the values are read as. -/
theorem ofValues_eq_ok_iff {v : Values} {q : Query} :
    ofValues v = .ok q ↔
      parts (items ',') (v .select) = q.select ∧ Scalar.flag .count (v .count) = .ok q.count ∧
        Scalar.limit .top (v .top) = .ok q.top ∧ Scalar.limit .skip (v .skip) = .ok q.skip ∧
          (parts (items ',') (v .orderBy)).mapM SortKey.ofText = .ok q.orderBy ∧
            (parts Conjunction.clauses (v .filter)).mapM Condition.ofText = .ok q.filter := by
  unfold ofValues
  simp only [bind_eq_ok]
  constructor
  · rintro ⟨count, hcount, top, htop, skip, hskip, orderBy, horder, filter, hfilter, hq⟩
    cases hq
    exact ⟨rfl, hcount, htop, hskip, horder, hfilter⟩
  · rintro ⟨hselect, hcount, htop, hskip, horder, hfilter⟩
    refine ⟨_, hcount, _, htop, _, hskip, _, horder, _, hfilter, ?_⟩
    rw [hselect]
    rfl

theorem exists_ofValues_of_ofText {style : KeyStyle} {t : Text} {q : Query}
    (h : ofText style t = .ok (some q)) : ∃ v, ofValues v = .ok q := by
  obtain ⟨pairs, -, hpairs⟩ := bind_eq_ok.mp h
  unfold ofPairs at hpairs
  split at hpairs
  · obtain ⟨q', hq', hsome⟩ := map_eq_ok.mp hpairs
    cases hsome
    exact ⟨_, hq'⟩
  · cases hpairs

/-! ## Well-formedness -/

theorem mem_parts {split : Text → List Text} {raw : Option Text} {p : Text}
    (h : p ∈ parts split raw) : ∃ t, p ∈ split t := by
  cases raw with
  | none => cases h
  | some t => exact ⟨t, h⟩

/-- A clause of a filter that is read as a condition is read as a well-formed one. -/
theorem wellFormed_of_mem_clauses {t clause : Text} {c : Condition}
    (hclause : clause ∈ Conjunction.clauses t) (h : Condition.ofText clause = .ok c) :
    c.WellFormed := by
  obtain ⟨-, htrim, -⟩ := mem_trimAll hclause
  exact Condition.wellFormed_ofText h
    (fun _ _ hand => Conjunction.isBlank_of_mem_clauses hclause hand) htrim

theorem wellFormed_ofValues {v : Values} {q : Query} (h : ofValues v = .ok q) : q.WellFormed := by
  obtain ⟨hselect, -, -, -, horder, hfilter⟩ := ofValues_eq_ok_iff.mp h
  refine ⟨fun p hp => ?_, fun s hs => ?_, fun c hc => ?_⟩
  -- each field is made of parts that one of the splitters returned
  · rw [← hselect] at hp
    obtain ⟨t, ht⟩ := mem_parts hp
    exact mem_items ht
  · obtain ⟨clause, hclause, hread⟩ := exists_of_mem_mapM horder s hs
    obtain ⟨t, ht⟩ := mem_parts hclause
    exact SortKey.wellFormed_ofText (mem_items ht).2.2 hread
  · obtain ⟨clause, hclause, hread⟩ := exists_of_mem_mapM hfilter c hc
    obtain ⟨t, ht⟩ := mem_parts hclause
    exact wellFormed_of_mem_clauses ht hread

/-- **Every query that is read is well-formed**, whatever text it is read from. -/
theorem wellFormed_of_ofText {style : KeyStyle} {t : Text} {q : Query}
    (h : ofText style t = .ok (some q)) : q.WellFormed := by
  obtain ⟨v, hv⟩ := exists_ofValues_of_ofText h
  exact wellFormed_ofValues hv

/-- Stray separators, empty pieces, an apostrophe in a word and a comma in quotes. -/
theorem wellFormed_of_stray_separators :
    ∃ q, ofText .dollar
        "$select= a ,,b&$filter=and and id in( 'x, y' ,,.5) and who eq O'Brien and".toList =
        .ok (some q) ∧ q.WellFormed := by
  have hread : ofText .dollar
      "$select= a ,,b&$filter=and and id in( 'x, y' ,,.5) and who eq O'Brien and".toList =
      .ok (some
        { select := ["a".toList, "b".toList]
          filter := [
            ⟨"id".toList, .isIn, .list [.string "x".toList, .string "y".toList, .null,
              .float (.signed false ⟨1022 * binade, by decide⟩)]⟩,
            ⟨"who".toList, .equal, .single (.string "OBrien".toList)⟩] }) := by
    decide +kernel
  exact ⟨_, hread, wellFormed_of_ofText hread⟩

end QueryOptions.Query
