import Mathlib.Logic.Relation
import QueryOptions.Proofs.Form.Encoding
import QueryOptions.Proofs.Success
import QueryOptions.Query.Reading

/-!
# Only the last value of each option counts

A query is a row of segments, and most of a row does not matter.  The reader looks at six keys, and
of each at the last segment that spells it; two rows in which these segments have the same values
are read alike, as a query, as none, or as the same error (`Query.ofText_eq_of_same_last`).

The rows that are read alike for this reason are those that come from each other by

```text
  dropping a segment whose key is no option's, or an empty one
  dropping a segment when a later one has the same key
  spelling a key or a value in another way
  exchanging neighbours with different keys
```

and by undoing these (`Form.Edit`).  An edit may go through rows that cannot be decoded, so what is
carried along a row of edits is not how the row is read but which value of a key is the last
(`Form.SameLast`).
-/

namespace QueryOptions

namespace Form

/-! ## The last value of a key -/

/-- No segment of the row spells the key. -/
def Absent (key : Text) (row : List Text) : Prop := ∀ s ∈ row, decode (rawKey s) ≠ .ok key

/-- The last segment of the row that spells the key spells the value. -/
inductive LastValue (key : Text) : List Text → Text → Prop
  | here {segment value : Text} {later : List Text} (hkey : decode (rawKey segment) = .ok key)
      (hvalue : decode (rawValue segment) = .ok value) (hlater : Absent key later) :
      LastValue key (segment :: later) value
  | there {segment value : Text} {later : List Text} (h : LastValue key later value) :
      LastValue key (segment :: later) value

/-- Every component of the row spells a text. -/
def Decodes (row : List Text) : Prop :=
  ∀ s ∈ row, (∃ t, decode (rawKey s) = .ok t) ∧ ∃ t, decode (rawValue s) = .ok t

theorem absent_cons {key s : Text} {row : List Text} :
    Absent key (s :: row) ↔ decode (rawKey s) ≠ .ok key ∧ Absent key row :=
  List.forall_mem_cons

theorem lastValue_cons {key s value : Text} {row : List Text} :
    LastValue key (s :: row) value ↔ LastValue key row value ∨
      decode (rawKey s) = .ok key ∧ decode (rawValue s) = .ok value ∧ Absent key row := by
  constructor
  · intro h
    cases h with
    | here hkey hvalue hlater => exact Or.inr ⟨hkey, hvalue, hlater⟩
    | there h => exact Or.inl h
  · intro h
    rcases h with h | ⟨hkey, hvalue, hlater⟩
    · exact .there h
    · exact .here hkey hvalue hlater

instance (key : Text) (row : List Text) : Decidable (Absent key row) :=
  inferInstanceAs (Decidable (∀ s ∈ row, decode (rawKey s) ≠ .ok key))

instance decidableLastValue (key : Text) :
    ∀ (row : List Text) (value : Text), Decidable (LastValue key row value)
  | [], _ => isFalse nofun
  | _ :: row, value =>
    have := decidableLastValue key row value
    decidable_of_iff _ lastValue_cons.symm

instance (r : Except QueryError Text) : Decidable (∃ t, r = .ok t) :=
  match r with
  | .ok t => isTrue ⟨t, rfl⟩
  | .error _ => isFalse nofun

instance (row : List Text) : Decidable (Decodes row) :=
  inferInstanceAs (Decidable (∀ s ∈ row, (∃ t, decode (rawKey s) = .ok t) ∧
    ∃ t, decode (rawValue s) = .ok t))

theorem absent_or_exists_lastValue (key : Text) {row : List Text} (hrow : Decodes row) :
    Absent key row ∨ ∃ value, LastValue key row value := by
  induction row with
  | nil => exact Or.inl fun s hs => absurd hs List.not_mem_nil
  | cons s row ih =>
      rcases ih fun s' hs' => hrow s' (List.mem_cons_of_mem s hs') with habsent | ⟨value, hlast⟩
      · by_cases hkey : decode (rawKey s) = .ok key
        · obtain ⟨-, value, hvalue⟩ := hrow s List.mem_cons_self
          exact Or.inr ⟨value, .here hkey hvalue habsent⟩
        · exact Or.inl (absent_cons.mpr ⟨hkey, habsent⟩)
      · exact Or.inr ⟨value, .there hlast⟩

/-! ## What the reader finds -/

theorem Pairs.value?_cons (pair : Text × Text) (pairs : Pairs) (key : Text) :
    Pairs.value? (pair :: pairs) key =
      (pairs.value? key).or (if pair.1 = key then some pair.2 else none) := by
  unfold Pairs.value?
  by_cases hkey : pair.1 = key
  · rw [List.filter_cons_of_pos (by simpa using hkey), List.map_cons, List.getLast?_cons,
      if_pos hkey]
    cases ((pairs.filter (·.1 == key)).map Prod.snd).getLast? <;> rfl
  · rw [List.filter_cons_of_neg (by simpa using hkey), if_neg hkey, Option.or_none]

/-- A row whose components spell texts is decoded, and the last value of a key is the one that the
pairs have for it. -/
theorem exists_mapM_decodeSegment {row : List Text} (hrow : Decodes row) :
    ∃ pairs : Pairs, row.mapM decodeSegment = .ok pairs ∧ ∀ key,
      (Absent key row → pairs.value? key = none) ∧
        ∀ value, LastValue key row value → pairs.value? key = some value := by
  induction row with
  | nil => exact ⟨[], rfl, fun key => ⟨fun _ => rfl, fun value h => nomatch h⟩⟩
  | cons s row ih =>
      obtain ⟨⟨k, hk⟩, v, hv⟩ := hrow s List.mem_cons_self
      obtain ⟨pairs, hpairs, hlast⟩ := ih fun s' hs' => hrow s' (List.mem_cons_of_mem s hs')
      have hsegment : decodeSegment s = .ok (k, v) := by
        unfold decodeSegment
        rw [hk, hv]
        rfl
      refine ⟨(k, v) :: pairs, mapM_cons_eq_ok.mpr ⟨_, _, hsegment, hpairs, rfl⟩, fun key => ?_⟩
      obtain ⟨hnone, hsome⟩ := hlast key
      rw [Pairs.value?_cons]
      constructor
      · intro habsent
        obtain ⟨hkey, hrest⟩ := absent_cons.mp habsent
        have hne : k ≠ key := fun h => hkey (h ▸ hk)
        rw [hnone hrest, if_neg hne]
        rfl
      · intro value h
        cases h with
        | there h =>
            rw [hsome value h]
            rfl
        | here hkey hvalue hlater =>
            rw [hk] at hkey
            rw [hv] at hvalue
            rw [hnone hlater, if_pos (Except.ok.inj hkey), Except.ok.inj hvalue]
            rfl

/-! ## Edits -/

/-- One row comes from the other by an edit that leaves the last value of each option alone. -/
inductive Edit (style : KeyStyle) : List Text → List Text → Prop
  | unrecognized {before after : List Text} {s : Text}
      (h : ∀ k : Key, decode (rawKey s) ≠ .ok (k.inStyle style)) :
      Edit style (before ++ s :: after) (before ++ after)
  | empty {before after : List Text} : Edit style (before ++ [] :: after) (before ++ after)
  | overwritten {before after : List Text} {s later key : Text}
      (hs : decode (rawKey s) = .ok key) (hlater : later ∈ after)
      (hkey : decode (rawKey later) = .ok key) :
      Edit style (before ++ s :: after) (before ++ after)
  | respelled {before after : List Text} {s s' : Text}
      (hkey : decode (rawKey s) = decode (rawKey s'))
      (hvalue : decode (rawValue s) = decode (rawValue s')) :
      Edit style (before ++ s :: after) (before ++ s' :: after)
  | exchanged {before after : List Text} {s s' : Text}
      (h : decode (rawKey s) ≠ decode (rawKey s')) :
      Edit style (before ++ s :: s' :: after) (before ++ s' :: s :: after)

/-- Two rows have the same last value for a key, or both have none. -/
def SameLast (key : Text) (row row' : List Text) : Prop :=
  (Absent key row ↔ Absent key row') ∧ ∀ value, LastValue key row value ↔ LastValue key row' value

namespace SameLast

variable {key : Text} {row row' row'' : List Text}

theorem refl (key : Text) (row : List Text) : SameLast key row row :=
  ⟨Iff.rfl, fun _ => Iff.rfl⟩

theorem symm (h : SameLast key row row') : SameLast key row' row :=
  ⟨h.1.symm, fun value => (h.2 value).symm⟩

theorem trans (h : SameLast key row row') (h' : SameLast key row' row'') :
    SameLast key row row'' :=
  ⟨h.1.trans h'.1, fun value => (h.2 value).trans (h'.2 value)⟩

theorem cons (s : Text) (h : SameLast key row row') : SameLast key (s :: row) (s :: row') := by
  constructor
  · rw [absent_cons, absent_cons, h.1]
  · intro value
    rw [lastValue_cons, lastValue_cons, h.1, h.2 value]

theorem append (before : List Text) (h : SameLast key row row') :
    SameLast key (before ++ row) (before ++ row') := by
  induction before with
  | nil => exact h
  | cons s before ih => exact ih.cons s

/-- A segment with another key can be left out. -/
theorem of_ne {s : Text} (hs : decode (rawKey s) ≠ .ok key) (row : List Text) :
    SameLast key (s :: row) row := by
  constructor
  · rw [absent_cons, and_iff_right hs]
  · intro value
    rw [lastValue_cons, or_iff_left fun h => hs h.1]

/-- A segment can be left out if its key comes again. -/
theorem of_later {s : Text} (hrow : ¬ Absent key row) : SameLast key (s :: row) row := by
  constructor
  · rw [absent_cons, iff_false_right hrow]
    exact fun h => hrow h.2
  · intro value
    rw [lastValue_cons, or_iff_left fun h => hrow h.2.2]

theorem of_respelled {s s' : Text} (hkey : decode (rawKey s) = decode (rawKey s'))
    (hvalue : decode (rawValue s) = decode (rawValue s')) (row : List Text) :
    SameLast key (s :: row) (s' :: row) := by
  constructor
  · rw [absent_cons, absent_cons, hkey]
  · intro value
    rw [lastValue_cons, lastValue_cons, hkey, hvalue]

/-- Of two neighbours with different keys one has another key than the one in question. -/
theorem of_exchanged {s s' : Text} (h : decode (rawKey s) ≠ decode (rawKey s'))
    (row : List Text) : SameLast key (s :: s' :: row) (s' :: s :: row) := by
  by_cases hs : decode (rawKey s) = .ok key
  · have hs' : decode (rawKey s') ≠ .ok key := fun hs' => h (hs.trans hs'.symm)
    exact ((of_ne hs' row).cons s).trans (of_ne hs' (s :: row)).symm
  · exact (of_ne hs (s' :: row)).trans ((of_ne hs row).cons s').symm

/-- An empty segment spells the empty key. -/
theorem of_empty (hkey : key ≠ []) (row : List Text) : SameLast key ([] :: row) row := by
  apply of_ne
  intro h
  have hnil : decode (rawKey []) = .ok [] := decode_encode []
  rw [hnil] at h
  exact hkey (Except.ok.inj h).symm

theorem filter_isEmpty (hkey : key ≠ []) (row : List Text) :
    SameLast key (row.filter (!·.isEmpty)) row := by
  induction row with
  | nil => exact refl key []
  | cons s row ih =>
      cases s with
      | nil => exact ih.trans (of_empty hkey row).symm
      | cons c s => exact ih.cons (c :: s)

end SameLast

end Form

theorem Key.inStyle_ne_nil (style : KeyStyle) (k : Key) : k.inStyle style ≠ [] := by
  cases style <;> cases k <;> decide

namespace Form

/-- **An edit keeps the last value of every option.** -/
theorem Edit.sameLast {style : KeyStyle} {row row' : List Text} (h : Edit style row row')
    (k : Key) : SameLast (k.inStyle style) row row' := by
  cases h with
  | unrecognized hs =>
      apply SameLast.append
      exact .of_ne (hs k) _
  | empty =>
      apply SameLast.append
      exact .of_empty (k.inStyle_ne_nil style) _
  | @overwritten before after s later key hs hlater hkey =>
      apply SameLast.append
      by_cases heq : key = k.inStyle style
      · exact .of_later fun habsent => habsent later hlater (heq ▸ hkey)
      · exact .of_ne (fun hs' => heq (Except.ok.inj (hs.symm.trans hs'))) _
  | respelled hkey hvalue =>
      apply SameLast.append
      exact .of_respelled hkey hvalue _
  | exchanged hne =>
      apply SameLast.append
      exact .of_exchanged hne _

theorem sameLast_of_edits {style : KeyStyle} {row row' : List Text}
    (h : Relation.EqvGen (Edit style) row row') (k : Key) :
    SameLast (k.inStyle style) row row' := by
  induction h with
  | rel row row' h => exact h.sameLast k
  | refl row => exact .refl _ row
  | symm row row' _ ih => exact ih.symm
  | trans row row' row'' _ _ ih ih' => exact ih.trans ih'

/-- The segments of a row that is written out are those of the row that are not empty. -/
theorem segments_join {row : List Text} (hrow : ∀ s ∈ row, '&' ∉ s) :
    segments (Text.join ['&'] row) = row.filter (!·.isEmpty) := by
  rcases eq_or_ne row [] with rfl | hne
  · rfl
  · unfold segments Text.join
    rw [List.splitOn_intercalate '&' hrow hne]

end Form

namespace Query

open Form

theorem ofText_eq_of_lastValue {style : KeyStyle} {t u : Text} (ht : Decodes (segments t))
    (hu : Decodes (segments u))
    (h : ∀ k : Key,
      Absent (k.inStyle style) (segments t) ∧ Absent (k.inStyle style) (segments u) ∨
        ∃ value, LastValue (k.inStyle style) (segments t) value ∧
          LastValue (k.inStyle style) (segments u) value) :
    ofText style t = ofText style u := by
  obtain ⟨pairs, hpairs, hlast⟩ := exists_mapM_decodeSegment ht
  obtain ⟨pairs', hpairs', hlast'⟩ := exists_mapM_decodeSegment hu
  have hvalues : values style pairs = values style pairs' := by
    funext k
    show pairs.value? (k.inStyle style) = pairs'.value? (k.inStyle style)
    obtain ⟨hnone, hsome⟩ := hlast (k.inStyle style)
    obtain ⟨hnone', hsome'⟩ := hlast' (k.inStyle style)
    rcases h k with ⟨habsent, habsent'⟩ | ⟨value, hvalue, hvalue'⟩
    · rw [hnone habsent, hnone' habsent']
    · rw [hsome value hvalue, hsome' value hvalue']
  have hsame : ofPairs style pairs = ofPairs style pairs' := by
    unfold ofPairs
    rw [hvalues]
  have hdecode : decodePairs t = .ok pairs := hpairs
  have hdecode' : decodePairs u = .ok pairs' := hpairs'
  unfold ofText
  rw [hdecode, hdecode']
  exact hsame

theorem ofText_join_eq_of_edits {style : KeyStyle} {row row' : List Text}
    (h : Relation.EqvGen (Edit style) row row') (hrow : ∀ s ∈ row, '&' ∉ s)
    (hrow' : ∀ s ∈ row', '&' ∉ s) (hdecodes : Decodes row) (hdecodes' : Decodes row') :
    ofText style (Text.join ['&'] row) = ofText style (Text.join ['&'] row') := by
  have hkept : Decodes (segments (Text.join ['&'] row)) := by
    rw [segments_join hrow]
    exact fun s hs => hdecodes s (List.mem_of_mem_filter hs)
  have hkept' : Decodes (segments (Text.join ['&'] row')) := by
    rw [segments_join hrow']
    exact fun s hs => hdecodes' s (List.mem_of_mem_filter hs)
  apply ofText_eq_of_lastValue hkept hkept'
  intro k
  have hkey := k.inStyle_ne_nil style
  have hsame : SameLast (k.inStyle style) (segments (Text.join ['&'] row))
      (segments (Text.join ['&'] row')) := by
    rw [segments_join hrow, segments_join hrow']
    exact ((SameLast.filter_isEmpty hkey row).trans (sameLast_of_edits h k)).trans
      (SameLast.filter_isEmpty hkey row').symm
  rcases absent_or_exists_lastValue (k.inStyle style) hkept with habsent | ⟨value, hvalue⟩
  · exact Or.inl ⟨habsent, hsame.1.mp habsent⟩
  · exact Or.inr ⟨value, hvalue, (hsame.2 value).mp hvalue⟩

/-- **Queries with the same last values are read alike**, whatever else they hold, and so are
queries that come from each other by edits. -/
theorem ofText_eq_of_same_last (style : KeyStyle) :
    (∀ t u, Decodes (segments t) → Decodes (segments u) →
      (∀ k : Key,
        Absent (k.inStyle style) (segments t) ∧ Absent (k.inStyle style) (segments u) ∨
          ∃ value, LastValue (k.inStyle style) (segments t) value ∧
            LastValue (k.inStyle style) (segments u) value) →
      ofText style t = ofText style u) ∧
    ∀ row row', Relation.EqvGen (Edit style) row row' →
      (∀ s ∈ row, '&' ∉ s) → (∀ s ∈ row', '&' ∉ s) → Decodes row → Decodes row' →
      ofText style (Text.join ['&'] row) = ofText style (Text.join ['&'] row') :=
  ⟨fun _ _ ht hu h => ofText_eq_of_lastValue ht hu h,
    fun _ _ h hrow hrow' hdecodes hdecodes' =>
      ofText_join_eq_of_edits h hrow hrow' hdecodes hdecodes'⟩

/-- A limit that would be refused is overwritten, under a key that is spelled in another way. -/
theorem ofText_eq_of_same_last_limit :
    ofText .dollar "$top=x&&page=%zz&%24top=+5&$skip=1".toList =
        ofText .dollar "$skip=1&$t%6Fp=%205".toList ∧
      ofText .dollar "$top=x&%24top=5".toList = ofText .dollar "a&$t%6Fp=5".toList := by
  have hoverwritten : Edit .dollar
      ["$top=x".toList, [], "page=%zz".toList, "%24top=+5".toList, "$skip=1".toList]
      [[], "page=%zz".toList, "%24top=+5".toList, "$skip=1".toList] :=
    @Edit.overwritten _ [] _ _ "%24top=+5".toList "$top".toList (by decide +kernel) (by decide)
      (by decide +kernel)
  have hempty : Edit .dollar [[], "page=%zz".toList, "%24top=+5".toList, "$skip=1".toList]
      ["page=%zz".toList, "%24top=+5".toList, "$skip=1".toList] :=
    @Edit.empty _ [] _
  have hunrecognized : Edit .dollar ["page=%zz".toList, "%24top=+5".toList, "$skip=1".toList]
      ["%24top=+5".toList, "$skip=1".toList] :=
    @Edit.unrecognized _ [] _ _ fun k => by cases k <;> decide +kernel
  have hexchanged : Edit .dollar ["%24top=+5".toList, "$skip=1".toList]
      ["$skip=1".toList, "%24top=+5".toList] :=
    @Edit.exchanged _ [] [] _ _ (by decide +kernel)
  have hrespelled : Edit .dollar ["$skip=1".toList, "%24top=+5".toList]
      ["$skip=1".toList, "$t%6Fp=%205".toList] :=
    @Edit.respelled _ ["$skip=1".toList] [] _ _ (by decide +kernel) (by decide +kernel)
  have hedits := ((((Relation.EqvGen.rel _ _ hoverwritten).trans _ _ _ (.rel _ _ hempty)).trans
    _ _ _ (.rel _ _ hunrecognized)).trans _ _ _ (.rel _ _ hexchanged)).trans _ _ _
    (.rel _ _ hrespelled)
  constructor
  · exact (ofText_eq_of_same_last .dollar).2 _ _ hedits (by decide) (by decide)
      (by decide +kernel) (by decide +kernel)
  · refine (ofText_eq_of_same_last .dollar).1 _ _ (by decide +kernel) (by decide +kernel)
      fun k => ?_
    cases k with
    | top => exact Or.inr ⟨"5".toList, by decide +kernel, by decide +kernel⟩
    | _ => exact Or.inl (by decide +kernel)

end Query

end QueryOptions
