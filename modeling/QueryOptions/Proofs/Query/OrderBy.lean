import QueryOptions.Proofs.Query.Values

/-!
# The order-by value of a query

The value of the order-by option is cut at its commas, and each part that is not blank is read by
itself, by the number of its words:

```text
  one word                        the property, ascending
  two, a direction the second     the property and the direction
  two, no direction the second    refused, the second word is quoted
  three or more                   refused, they are counted and the trimmed part is quoted
```

A part that is not blank has a word, so there is no other case.  If all parts are accepted the query
has one sort key for each, in the same order; otherwise the first part that is refused decides the
error (`ofText_orderBy_alone`).
-/

namespace QueryOptions.Query

open Text Form

/-- The values of a query in which the order-by option is the only one. -/
def orderByOnly (raw : Text) : Values
  | .orderBy => some raw
  | _ => none

theorem ofValues_orderByOnly (raw : Text) :
    ofValues (orderByOnly raw) =
      ((items ',' raw).mapM SortKey.ofText).map fun keys => { orderBy := keys } := by
  have hkeys : ofValues (orderByOnly raw) =
      ((items ',' raw).mapM SortKey.ofText >>= fun keys => .ok { orderBy := keys }) := rfl
  rw [hkeys]
  cases (items ',' raw).mapM SortKey.ofText <;> rfl

theorem lastValues_orderByOnly {style : KeyStyle} {row : List Text} {raw : Text}
    (hraw : LastValue (Key.orderBy.inStyle style) row raw)
    (hothers : ∀ k, k ≠ .orderBy → Absent (Key.inStyle style k) row) :
    LastValues style row (orderByOnly raw) := by
  constructor
  · intro k hk
    refine hothers k ?_
    rintro rfl
    cases hk
  · intro k value hk
    cases k with
    | orderBy => exact Option.some.inj hk ▸ hraw
    | _ => cases hk

section Parts

variable {raw : Text} {e : QueryError}

theorem mapM_items_eq_ok_iff {keys : List SortKey} :
    (items ',' raw).mapM SortKey.ofText = .ok keys ↔
      List.Forall₂ SortKey.Says (filledParts ',' raw) keys := by
  rw [items_eq_map_trim, mapM_eq_ok_iff, List.forall₂_map_left_iff]
  simp only [SortKey.ofText_trim_eq_ok_iff]

theorem exists_mapM_items_iff :
    (∃ keys, (items ',' raw).mapM SortKey.ofText = .ok keys) ↔
      ∀ part ∈ filledParts ',' raw, ∃ s, SortKey.Says part s := by
  rw [exists_mapM_eq_ok_iff, items_eq_map_trim, List.forall_mem_map]
  simp only [SortKey.ofText_trim_eq_ok_iff]

/-- The first part that is refused decides. -/
theorem mapM_items_eq_error_iff :
    (items ',' raw).mapM SortKey.ofText = .error e ↔
      ∃ before part after, filledParts ',' raw = before ++ part :: after ∧
        (∀ b ∈ before, ∃ s, SortKey.Says b s) ∧ SortKey.Refused part e := by
  rw [items_eq_map_trim, List.mapM_map, mapM_eq_error_iff]
  refine exists_congr fun before => exists_congr fun part => exists_congr fun after => ?_
  refine and_congr_right fun hsplit => ?_
  have hmem : part ∈ filledParts ',' raw := by
    rw [hsplit]
    exact List.mem_append_right before List.mem_cons_self
  simp only [Function.comp_apply, SortKey.ofText_trim_eq_ok_iff,
    SortKey.ofText_trim_eq_error_iff (not_allBlank_of_mem_filledParts hmem)]

end Parts

/-- **An order-by value is read part by part.**  It is accepted if each part that is not blank says
something, as the clauses that the parts say, and refused for the first part that is refused. -/
theorem ofText_orderBy_alone {style : KeyStyle} {t raw : Text} (ht : Decodes (segments t))
    (hraw : LastValue (Key.orderBy.inStyle style) (segments t) raw)
    (hothers : ∀ k, k ≠ .orderBy → Absent (Key.inStyle style k) (segments t)) :
    ((∃ q, ofText style t = .ok (some q)) ↔
        ∀ part ∈ filledParts ',' raw, ∃ s, SortKey.Says part s) ∧
      (∀ q, ofText style t = .ok (some q) ↔
        ∃ keys, List.Forall₂ SortKey.Says (filledParts ',' raw) keys ∧
          q = { orderBy := keys }) ∧
      ∀ e, ofText style t = .error e ↔
        ∃ before part after, filledParts ',' raw = before ++ part :: after ∧
          (∀ b ∈ before, ∃ s, SortKey.Says b s) ∧ SortKey.Refused part e := by
  have hread : ofText style t =
      (((items ',' raw).mapM SortKey.ofText).map fun keys => { orderBy := keys }).map some := by
    rw [ofText_eq_ofValues ht (lastValues_orderByOnly hraw hothers)
      ⟨.orderBy, Option.some_ne_none raw⟩, ofValues_orderByOnly]
  have hok : ∀ q, ofText style t = .ok (some q) ↔
      ∃ keys, List.Forall₂ SortKey.Says (filledParts ',' raw) keys ∧ q = { orderBy := keys } := by
    intro q
    rw [hread, map_eq_ok]
    simp only [map_eq_ok, mapM_items_eq_ok_iff, Option.some.injEq]
    constructor
    · rintro ⟨_, ⟨keys, hkeys, rfl⟩, rfl⟩
      exact ⟨keys, hkeys, rfl⟩
    · rintro ⟨keys, hkeys, rfl⟩
      exact ⟨_, ⟨keys, hkeys, rfl⟩, rfl⟩
  refine ⟨?_, hok, fun e => ?_⟩
  · rw [← exists_mapM_items_iff]
    constructor
    · rintro ⟨q, hq⟩
      obtain ⟨keys, hkeys, -⟩ := (hok q).mp hq
      exact ⟨keys, mapM_items_eq_ok_iff.mpr hkeys⟩
    · rintro ⟨keys, hkeys⟩
      exact ⟨_, (hok _).mpr ⟨keys, mapM_items_eq_ok_iff.mp hkeys, rfl⟩⟩
  · rw [hread, map_eq_error, map_eq_error, mapM_items_eq_error_iff]

/-- A value with blank parts and with a wide space, whose third part that is not blank has a second
word that is no direction.  The part behind it has too many words. -/
def sortedUp : Text :=
  "page=1&%24orderby=+a%2Fb+,,+b%E3%80%80DESC+,+c+up,d+e+f".toList

/-- The second word of the third part is quoted. -/
theorem ofText_orderBy_alone_sortedUp :
    ofText .dollar sortedUp = .error (.direction "up".toList) := by
  have hothers : ∀ k, k ≠ .orderBy → Absent (Key.inStyle .dollar k) (segments sortedUp) := by
    intro k hk
    cases k with
    | orderBy => exact absurd rfl hk
    | _ => decide +kernel
  have hraw : LastValue (Key.orderBy.inStyle .dollar) (segments sortedUp)
      " a/b ,, b\u3000DESC , c up,d e f".toList := by decide +kernel
  have hwords : HasWords " b\u3000DESC ".toList ["b".toList, "DESC".toList] :=
    words_eq_iff.mp (by decide +kernel)
  have hwords' : HasWords " c up".toList ["c".toList, "up".toList] :=
    words_eq_iff.mp (by decide +kernel)
  have hfirst : SortKey.Says " a/b ".toList { property := "a/b".toList } :=
    .property (words_eq_iff.mp (by decide +kernel))
  have hsecond : SortKey.Says " b\u3000DESC ".toList
      { property := "b".toList, direction := .descending } :=
    .directed hwords (by decide)
  have hthird : SortKey.Refused " c up".toList (.direction "up".toList) :=
    .direction hwords' fun d => by cases d <;> decide
  obtain ⟨-, -, herror⟩ := ofText_orderBy_alone (by decide +kernel) hraw hothers
  refine (herror _).mpr ⟨[" a/b ".toList, " b\u3000DESC ".toList], " c up".toList,
    ["d e f".toList], by decide +kernel, ?_, hthird⟩
  exact List.forall_mem_cons.mpr ⟨⟨_, hfirst⟩, List.forall_mem_singleton.mpr ⟨_, hsecond⟩⟩

end QueryOptions.Query
