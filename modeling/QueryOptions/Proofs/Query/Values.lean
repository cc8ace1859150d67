import Mathlib.Logic.Function.Basic
import QueryOptions.Proofs.Query.LastValue
import QueryOptions.Proofs.Query.Reading

/-!
# The six values of a query

Between the row of segments and the query stand six values, one for each option or none.  Those of a
row are its last ones (`LastValues`), a row whose components decode has them (`exists_lastValues`),
and the query is what `ofValues` makes of them (`ofText_eq_ofValues`).  So what is to be said about
the reading of a text is said about six values, and what an edit of a text does to its query is what
it does to one of the six:

```text
  the segments with the key of an option are dropped    its value is dropped
  a segment with the key of an option is appended       its value is replaced
```
-/

namespace QueryOptions

namespace Form

theorem decodes_of_mapM {row : List Text} {pairs : Pairs}
    (h : row.mapM decodeSegment = .ok pairs) : Decodes row := by
  induction row generalizing pairs with
  | nil => exact fun s hs => absurd hs List.not_mem_nil
  | cons s row ih =>
      obtain ⟨pair, pairs', hs, hrow, -⟩ := mapM_cons_eq_ok.mp h
      obtain ⟨key, hkey, hrest⟩ := bind_eq_ok.mp hs
      obtain ⟨value, hvalue, -⟩ := bind_eq_ok.mp hrest
      exact List.forall_mem_cons.mpr ⟨⟨⟨key, hkey⟩, value, hvalue⟩, ih hrow⟩

end Form

namespace Query

open Form

/-- The values that the options have in a row of segments: of each option the last one. -/
structure LastValues (style : KeyStyle) (row : List Text) (v : Values) : Prop where
  absent : ∀ k : Key, v k = none → Absent (k.inStyle style) row
  last : ∀ (k : Key) (value : Text), v k = some value → LastValue (k.inStyle style) row value

variable {style : KeyStyle} {row : List Text} {t : Text} {v : Values} {q : Query}

/-! ## Reading by the last values -/

/-- The reader finds the last values and no others. -/
theorem values_eq_of_lastValues {pairs : Pairs} (hpairs : row.mapM decodeSegment = .ok pairs)
    (hv : LastValues style row v) : values style pairs = v := by
  obtain ⟨pairs', hpairs', hlast⟩ := exists_mapM_decodeSegment (decodes_of_mapM hpairs)
  rw [hpairs] at hpairs'
  cases hpairs'
  funext k
  show pairs.value? (k.inStyle style) = v k
  obtain ⟨hnone, hsome⟩ := hlast (k.inStyle style)
  cases hvalue : v k with
  | none => exact hnone (hv.absent k hvalue)
  | some value => exact hsome value (hv.last k value hvalue)

theorem exists_lastValues (style : KeyStyle) (hrow : Decodes row) :
    ∃ v, LastValues style row v := by
  have hvalue : ∀ k : Key, ∃ found : Option Text,
      (found = none → Absent (k.inStyle style) row) ∧
        ∀ value, found = some value → LastValue (k.inStyle style) row value := by
    intro k
    rcases absent_or_exists_lastValue (k.inStyle style) hrow with habsent | ⟨value, hlast⟩
    · exact ⟨none, fun _ => habsent, nofun⟩
    · exact ⟨some value, nofun, fun _ h => Option.some.inj h ▸ hlast⟩
  choose v hnone hsome using hvalue
  exact ⟨v, hnone, hsome⟩

theorem LastValues.unique {w : Values} (hrow : Decodes row) (hv : LastValues style row v)
    (hw : LastValues style row w) : v = w := by
  obtain ⟨pairs, hpairs, -⟩ := exists_mapM_decodeSegment hrow
  rw [← values_eq_of_lastValues hpairs hv, values_eq_of_lastValues hpairs hw]

theorem LastValues.absent_iff (hv : LastValues style row v) (hrow : Decodes row) (k : Key) :
    Absent (k.inStyle style) row ↔ v k = none := by
  refine ⟨fun habsent => ?_, hv.absent k⟩
  obtain ⟨pairs, hpairs, hlast⟩ := exists_mapM_decodeSegment hrow
  rw [← values_eq_of_lastValues hpairs hv]
  exact (hlast _).1 habsent

/-- A text in which some option has a value is read as its six values are. -/
theorem ofText_eq_ofValues (ht : Decodes (segments t)) (hv : LastValues style (segments t) v)
    (hsome : ∃ k, v k ≠ none) : ofText style t = (ofValues v).map some := by
  obtain ⟨pairs, hpairs, -⟩ := exists_mapM_decodeSegment ht
  have hany : (Key.all.any fun k => (v k).isSome) = true := by
    obtain ⟨k, hk⟩ := hsome
    exact List.any_eq_true.mpr ⟨k, k.mem_all, Option.isSome_iff_ne_none.mpr hk⟩
  have hdecode : decodePairs t = .ok pairs := hpairs
  unfold ofText
  rw [hdecode]
  show ofPairs style pairs = _
  unfold ofPairs
  rw [values_eq_of_lastValues hpairs hv, if_pos hany]

theorem ofText_eq_none (ht : Decodes (segments t)) (hv : LastValues style (segments t) v)
    (hnone : ∀ k, v k = none) : ofText style t = .ok none := by
  obtain ⟨pairs, hpairs, -⟩ := exists_mapM_decodeSegment ht
  have hdecode : decodePairs t = .ok pairs := hpairs
  unfold ofText
  rw [hdecode]
  show ofPairs style pairs = _
  unfold ofPairs
  rw [values_eq_of_lastValues hpairs hv, if_neg]
  simp [hnone]

/-- A query that is read is the one that its last values make, and there is one. -/
theorem exists_lastValues_of_ofText (h : ofText style t = .ok (some q)) :
    Decodes (segments t) ∧
      ∃ v, LastValues style (segments t) v ∧ (∃ k, v k ≠ none) ∧ ofValues v = .ok q := by
  obtain ⟨pairs, hpairs, -⟩ := bind_eq_ok.mp h
  have ht := decodes_of_mapM hpairs
  obtain ⟨v, hv⟩ := exists_lastValues style ht
  refine ⟨ht, v, hv, ?_⟩
  by_cases hsome : ∃ k, v k ≠ none
  · rw [ofText_eq_ofValues ht hv hsome] at h
    obtain ⟨q', hq', hq⟩ := map_eq_ok.mp h
    cases hq
    exact ⟨hsome, hq'⟩
  · push Not at hsome
    rw [ofText_eq_none ht hv hsome] at h
    cases h

end Query

end QueryOptions
