import QueryOptions.Proofs.Query.Values

/-!
# All or nothing

A query is made of items that are accepted or refused each by itself: the values of the three
options that are one word, the clauses to order by and the clauses of the filter.  There is a query
exactly if all items are accepted, and then it has one sort key and one condition for each clause;
otherwise the error is the one of the first item that is refused (`Query.ofText_all_or_nothing`).

The items are examined in the order

```text
  count, top, skip, the clauses to order by, the clauses of the filter
```

which is the order of `examined`, whatever order the keys have in the text: `examined` sees the six
values only.  So reading is a row of checks (`map_ofValues_eq_forM`), and what is known about such
rows says the rest.
-/

namespace QueryOptions.Query

open Text Form

/-! ## Items -/

/-- Something in a query that is accepted or refused by itself. -/
inductive Item where
  /-- The value of an option that is a flag. -/
  | flag (field : Key) (raw : Option Text)
  /-- The value of an option that is a limit. -/
  | limit (field : Key) (raw : Option Text)
  /-- A clause to order by. -/
  | sortKey (clause : Text)
  /-- A clause of the filter. -/
  | condition (clause : Text)
  deriving DecidableEq

/-- Reads an item for its error only. -/
def Item.check : Item → Except QueryError Unit
  | flag field raw => (Scalar.flag field raw).map fun _ => ()
  | limit field raw => (Scalar.limit field raw).map fun _ => ()
  | sortKey clause => (SortKey.ofText clause).map fun _ => ()
  | condition clause => (Condition.ofText clause).map fun _ => ()

/-- The items of the six values, in the order in which they are examined. -/
def examined (v : Values) : List Item :=
  [.flag .count (v .count), .limit .top (v .top), .limit .skip (v .skip)] ++
    ((parts (items ',') (v .orderBy)).map .sortKey ++
      (parts Conjunction.clauses (v .filter)).map .condition)

/-- Reading the six values fails as the row of five readings does in which nothing is kept. -/
theorem map_ofValues (v : Values) :
    (ofValues v).map (fun _ => ()) =
      (Scalar.flag .count (v .count)).map (fun _ => ()) >>= fun _ =>
        (Scalar.limit .top (v .top)).map (fun _ => ()) >>= fun _ =>
          (Scalar.limit .skip (v .skip)).map (fun _ => ()) >>= fun _ =>
            ((parts (items ',') (v .orderBy)).mapM SortKey.ofText).map (fun _ => ()) >>= fun _ =>
              ((parts Conjunction.clauses (v .filter)).mapM Condition.ofText).map fun _ => () := by
  unfold ofValues
  refine map_bind_eq fun count => map_bind_eq fun top => map_bind_eq fun skip =>
    map_bind_eq fun orderBy => ?_
  cases (parts Conjunction.clauses (v .filter)).mapM Condition.ofText <;> rfl

/-- Whether the values make a query is a matter of the checks. -/
theorem map_ofValues_eq_forM (v : Values) :
    (ofValues v).map (fun _ => ()) = forM (examined v) Item.check := by
  have horder : forM ((parts (items ',') (v .orderBy)).map Item.sortKey) Item.check =
      ((parts (items ',') (v .orderBy)).mapM SortKey.ofText).map fun _ => () := by
    rw [List.forM_map, map_mapM_eq_forM]
    rfl
  have hfilter : forM ((parts Conjunction.clauses (v .filter)).map Item.condition) Item.check =
      ((parts Conjunction.clauses (v .filter)).mapM Condition.ofText).map fun _ => () := by
    rw [List.forM_map, map_mapM_eq_forM]
    rfl
  rw [map_ofValues, examined, List.forM_append, List.forM_append, horder, hfilter]
  simp [Item.check]

theorem exists_ofValues_iff {v : Values} :
    (∃ q, ofValues v = .ok q) ↔ ∀ i ∈ examined v, i.check = .ok () := by
  rw [← forM_eq_ok, ← map_ofValues_eq_forM, map_eq_ok]
  simp

theorem ofValues_eq_error_iff {v : Values} {e : QueryError} :
    ofValues v = .error e ↔ ∃ before i after, examined v = before ++ i :: after ∧
      (∀ b ∈ before, b.check = .ok ()) ∧ i.check = .error e := by
  rw [← forM_eq_error, ← map_ofValues_eq_forM, map_eq_error]

/-! ## The main statement -/

/-- **All or nothing.**  A text that decodes and names an option is read as a query exactly if every
item of its last values is accepted, and then it has one clause for each part.  Otherwise the error
is that of the first item that is refused. -/
theorem ofText_all_or_nothing {style : KeyStyle} {t : Text} (ht : Decodes (segments t))
    (hkey : ∃ k : Key, ¬ Absent (k.inStyle style) (segments t)) :
    ∃ v, LastValues style (segments t) v ∧
      ((∃ q, ofText style t = .ok (some q)) ↔ ∀ i ∈ examined v, i.check = .ok ()) ∧
      (∀ e, ofText style t = .error e ↔ ∃ before i after, examined v = before ++ i :: after ∧
        (∀ b ∈ before, b.check = .ok ()) ∧ i.check = .error e) ∧
      ∀ q, ofText style t = .ok (some q) →
        List.Forall₂ (fun clause s => SortKey.ofText clause = .ok s)
            (parts (items ',') (v .orderBy)) q.orderBy ∧
          List.Forall₂ (fun clause c => Condition.ofText clause = .ok c)
            (parts Conjunction.clauses (v .filter)) q.filter := by
  obtain ⟨v, hv⟩ := exists_lastValues style ht
  have hsome : ∃ k, v k ≠ none := by
    obtain ⟨k, hk⟩ := hkey
    exact ⟨k, fun hnone => hk (hv.absent k hnone)⟩
  have hread : ofText style t = (ofValues v).map some := ofText_eq_ofValues ht hv hsome
  refine ⟨v, hv, ?_, fun e => ?_, fun q hq => ?_⟩
  · rw [hread, ← exists_ofValues_iff]
    simp [map_eq_ok]
  · rw [hread, map_eq_error, ofValues_eq_error_iff]
  · rw [hread] at hq
    obtain ⟨q', hq', hsome'⟩ := map_eq_ok.mp hq
    cases hsome'
    obtain ⟨-, -, -, -, horder, hfilter⟩ := ofValues_eq_ok_iff.mp hq'
    exact ⟨mapM_eq_ok_iff.mp horder, mapM_eq_ok_iff.mp hfilter⟩

/-- Every value but that of `$top` is refused, the filter first in the text, and so is the value of
`$skip` that is overwritten. -/
def mostlyWrong : Text := "$filter=a eq&$orderby=a,b up&$skip=x&%24top=007&$skip=-1".toList

/-- The error is that of the last `$skip`. -/
theorem ofText_all_or_nothing_mostlyWrong :
    Decodes (segments mostlyWrong) ∧ ¬ Absent (Key.top.inStyle .dollar) (segments mostlyWrong) ∧
      ∃ v, LastValues .dollar (segments mostlyWrong) v ∧
        ∃ before i after, examined v = before ++ i :: after ∧
          (∀ b ∈ before, b.check = .ok ()) ∧ i.check = .error (.range .skip "-1".toList) := by
  have hdecodes : Decodes (segments mostlyWrong) := by decide +kernel
  have htop : ¬ Absent (Key.top.inStyle .dollar) (segments mostlyWrong) := by decide +kernel
  have herror : ofText .dollar mostlyWrong = .error (.range .skip "-1".toList) := by decide +kernel
  obtain ⟨v, hv, -, hfirst, -⟩ := ofText_all_or_nothing hdecodes ⟨.top, htop⟩
  exact ⟨hdecodes, htop, v, hv, (hfirst _).mp herror⟩

end QueryOptions.Query
