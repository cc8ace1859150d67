import QueryOptions.Proofs.Query.Values

/-!
# The fields of a query do not touch each other

Each option is read into a field of its own.  If the segments with the key of an option are dropped
from a text that is read as a query, the field of the option says nothing and the other fields stay
as they are, unless this was the last option in the text; and if a segment for an option is appended
that is read by itself, the field of the option becomes the one that is read there
(`Query.ofText_fields_independent`).

Both are the same fact about values: when one of the six values is replaced by the value from other
six, the query gets one field from the other query (`ofValues_update`).  That the edits of the text
do this to its values is a matter of each key by itself: a segment with one key is invisible to
another key (`Form.SameLast.of_ne`).
-/

namespace QueryOptions

/-! ## Replacing a field -/

namespace Query

/-- The query with the field of one option taken from another query. -/
def withFieldOf (q : Query) (k : Key) (source : Query) : Query :=
  match k with
  | .select => { q with select := source.select }
  | .count => { q with count := source.count }
  | .top => { q with top := source.top }
  | .skip => { q with skip := source.skip }
  | .orderBy => { q with orderBy := source.orderBy }
  | .filter => { q with filter := source.filter }

/-- The query in which the field of one option says nothing. -/
def without (q : Query) (k : Key) : Query := q.withFieldOf k empty

end Query

/-! ## Replacing a value -/

namespace Form

/-- The query without the segments that spell a key. -/
def dropKey (key query : Text) : Text :=
  Text.join ['&'] ((query.splitOn '&').filter fun s => decode (rawKey s) ≠ .ok key)

theorem segments_dropKey (key query : Text) :
    segments (dropKey key query) =
      (segments query).filter fun s => decode (rawKey s) ≠ .ok key := by
  have hfree : ∀ s ∈ (query.splitOn '&').filter fun s => decode (rawKey s) ≠ .ok key, '&' ∉ s := by
    intro s hs hmem
    have hpart := List.mem_of_mem_filter hs
    rw [List.splitOn_eq_splitOnP] at hpart
    simpa using (Text.of_mem_splitOnP hpart '&' hmem).1
  unfold dropKey
  rw [segments_join hfree, segments, List.filter_filter, List.filter_filter]
  exact List.filter_congr fun s _ => Bool.and_comm ..

theorem segments_append (query rest : Text) :
    segments (query ++ '&' :: rest) = segments query ++ segments rest := by
  unfold segments
  rw [List.splitOn_append_cons_self, List.filter_append]

theorem segments_eq_singleton {s : Text} (hs : '&' ∉ s) (hne : s ≠ []) : segments s = [s] := by
  have hjoin := segments_join (List.forall_mem_singleton.mpr hs)
  simpa [Text.join, hne] using hjoin

theorem SameLast.filter_ne {key other : Text} (h : key ≠ other) (row : List Text) :
    SameLast key (row.filter fun s => decode (rawKey s) ≠ .ok other) row := by
  induction row with
  | nil => exact .refl key []
  | cons s row ih =>
      by_cases hs : decode (rawKey s) = .ok other
      · have hne : decode (rawKey s) ≠ .ok key := fun hkey =>
          h (Except.ok.inj (hkey.symm.trans hs))
        rw [List.filter_cons_of_neg (by simpa using hs)]
        exact ih.trans (of_ne hne row).symm
      · rw [List.filter_cons_of_pos (by simpa using hs)]
        exact ih.cons s

theorem SameLast.append_ne {key s : Text} (hs : decode (rawKey s) ≠ .ok key) (row : List Text) :
    SameLast key (row ++ [s]) row := by
  have h := (of_ne hs []).append row
  rwa [List.append_nil] at h

theorem lastValue_append {key s value : Text} (hkey : decode (rawKey s) = .ok key)
    (hvalue : decode (rawValue s) = .ok value) (row : List Text) :
    LastValue key (row ++ [s]) value := by
  induction row with
  | nil => exact .here hkey hvalue fun s hs => absurd hs List.not_mem_nil
  | cons s' row ih => exact .there ih

end Form

namespace Query

open Text Form

variable {style : KeyStyle} {row : List Text} {t : Text} {v w : Values} {q f : Query}

/-- What an edit does to the values, if it keeps the last values of the other options. -/
theorem LastValues.update {row' : List Text} (hv : LastValues style row v) {k : Key}
    {value : Option Text} (hsame : ∀ l, l ≠ k → SameLast (l.inStyle style) row' row)
    (habsent : value = none → Absent (k.inStyle style) row')
    (hlast : ∀ t, value = some t → LastValue (k.inStyle style) row' t) :
    LastValues style row' (Function.update v k value) := by
  constructor
  · intro l hl
    rcases eq_or_ne l k with rfl | hne
    · rw [Function.update_self] at hl
      exact habsent hl
    · rw [Function.update_of_ne hne] at hl
      exact (hsame l hne).1.mpr (hv.absent l hl)
  · intro l t hl
    rcases eq_or_ne l k with rfl | hne
    · rw [Function.update_self] at hl
      exact hlast t hl
    · rw [Function.update_of_ne hne] at hl
      exact ((hsame l hne).2 t).mpr (hv.last l t hl)

theorem lastValues_dropKey (hv : LastValues style (segments t) v) (k : Key) :
    LastValues style (segments (dropKey (k.inStyle style) t)) (Function.update v k none) := by
  rw [segments_dropKey]
  have hne : ∀ l, l ≠ k → l.inStyle style ≠ k.inStyle style := fun l hl h =>
    hl (Key.inStyle_injective h)
  refine hv.update (fun l hl => .filter_ne (hne l hl) _) (fun _ s hs => ?_) nofun
  simpa using (List.mem_filter.mp hs).2

theorem lastValues_append (hv : LastValues style row v) {k : Key} {s value : Text}
    (hkey : decode (rawKey s) = .ok (k.inStyle style))
    (hvalue : decode (rawValue s) = .ok value) :
    LastValues style (row ++ [s]) (Function.update v k (some value)) := by
  refine hv.update (fun l hl => .append_ne (fun hs => ?_) row) nofun fun t ht => ?_
  · exact hl (Key.inStyle_injective (Except.ok.inj (hs.symm.trans hkey)))
  · exact Option.some.inj ht ▸ lastValue_append hkey hvalue row

/-! ## From a value to its field -/

/-- The value of an option is read as the field that the query has for it. -/
def ReadsField (raw : Option Text) (q : Query) : Key → Prop
  | .select => parts (items ',') raw = q.select
  | .count => Scalar.flag .count raw = .ok q.count
  | .top => Scalar.limit .top raw = .ok q.top
  | .skip => Scalar.limit .skip raw = .ok q.skip
  | .orderBy => (parts (items ',') raw).mapM SortKey.ofText = .ok q.orderBy
  | .filter => (parts Conjunction.clauses raw).mapM Condition.ofText = .ok q.filter

/-- Each value is read into a field of its own. -/
theorem ofValues_eq_ok_iff_forall : ofValues v = .ok q ↔ ∀ k, ReadsField (v k) q k := by
  rw [ofValues_eq_ok_iff]
  constructor
  · rintro ⟨hselect, hcount, htop, hskip, horder, hfilter⟩ k
    cases k with
    | select => exact hselect
    | count => exact hcount
    | top => exact htop
    | skip => exact hskip
    | orderBy => exact horder
    | filter => exact hfilter
  · intro h
    exact ⟨h .select, h .count, h .top, h .skip, h .orderBy, h .filter⟩

theorem readsField_withFieldOf_self {raw : Option Text} {k : Key} :
    ReadsField raw (q.withFieldOf k f) k ↔ ReadsField raw f k := by
  cases k <;> exact Iff.rfl

theorem readsField_withFieldOf_of_ne {raw : Option Text} {k l : Key} (h : l ≠ k) :
    ReadsField raw (q.withFieldOf k f) l ↔ ReadsField raw q l := by
  cases k <;> cases l <;> first | exact Iff.rfl | exact absurd rfl h

/-- **A value that is replaced replaces a field.** -/
theorem ofValues_update (hq : ofValues v = .ok q) (hf : ofValues w = .ok f) (k : Key) :
    ofValues (Function.update v k (w k)) = .ok (q.withFieldOf k f) := by
  rw [ofValues_eq_ok_iff_forall] at hq hf ⊢
  intro l
  rcases eq_or_ne l k with rfl | hne
  · rw [Function.update_self, readsField_withFieldOf_self]
    exact hf l
  · rw [Function.update_of_ne hne, readsField_withFieldOf_of_ne hne]
    exact hq l

/-! ## Texts -/

theorem decodes_dropKey (ht : Decodes (segments t)) (key : Text) :
    Decodes (segments (dropKey key t)) := by
  rw [segments_dropKey]
  exact fun s hs => ht s (List.mem_of_mem_filter hs)

/-- Dropping the segments of an option leaves the other fields of the query alone. -/
theorem ofText_dropKey (h : ofText style t = .ok (some q)) (k : Key) :
    ((∀ l, l ≠ k → Absent (l.inStyle style) (segments t)) →
        ofText style (dropKey (k.inStyle style) t) = .ok none) ∧
      ((∃ l, l ≠ k ∧ ¬ Absent (l.inStyle style) (segments t)) →
        ofText style (dropKey (k.inStyle style) t) = .ok (some (q.without k))) := by
  obtain ⟨ht, v, hv, -, hq⟩ := exists_lastValues_of_ofText h
  have hdecodes := decodes_dropKey ht (k.inStyle style)
  have hlast := lastValues_dropKey hv k
  constructor
  · intro hothers
    refine ofText_eq_none hdecodes hlast fun l => ?_
    rcases eq_or_ne l k with rfl | hne
    · exact Function.update_self ..
    · rw [Function.update_of_ne hne]
      exact (hv.absent_iff ht l).mp (hothers l hne)
  · rintro ⟨l, hne, hl⟩
    have hsome : Function.update v k none l ≠ none := by
      rw [Function.update_of_ne hne]
      exact fun hnone => hl (hv.absent l hnone)
    have hnothing : ofValues (fun _ => none) = .ok empty := rfl
    rw [ofText_eq_ofValues hdecodes hlast ⟨l, hsome⟩, ofValues_update hq hnothing k]
    rfl

/-- Appending a segment for an option replaces the field of the option. -/
theorem ofText_append_segment (h : ofText style t = .ok (some q)) {k : Key} {s : Text}
    (hs : '&' ∉ s) (hkey : decode (rawKey s) = .ok (k.inStyle style))
    (hf : ofText style s = .ok (some f)) :
    ofText style (t ++ '&' :: s) = .ok (some (q.withFieldOf k f)) := by
  have hne : s ≠ [] := by
    rintro rfl
    have hnil : decode (rawKey []) = .ok [] := decode_encode []
    rw [hnil] at hkey
    exact k.inStyle_ne_nil style (Except.ok.inj hkey).symm
  have hsingle : segments s = [s] := segments_eq_singleton hs hne
  obtain ⟨ht, v, hv, -, hq⟩ := exists_lastValues_of_ofText h
  obtain ⟨hs', w, hw, -, hf'⟩ := exists_lastValues_of_ofText hf
  rw [hsingle] at hs' hw
  obtain ⟨-, value, hvalue⟩ := hs' s (List.mem_singleton_self s)
  -- the segment by itself gives the option its value, and so it does at the end of the text
  have hwk : w k = some value := by
    have hnothing : LastValues style [] fun _ => none :=
      ⟨fun _ _ s hs => absurd hs List.not_mem_nil, nofun⟩
    rw [hw.unique hs' (lastValues_append hnothing hkey hvalue), Function.update_self]
  have hdecodes : Decodes (segments (t ++ '&' :: s)) := by
    rw [segments_append, hsingle]
    exact List.forall_mem_append.mpr ⟨ht, hs'⟩
  have hlast : LastValues style (segments (t ++ '&' :: s)) (Function.update v k (w k)) := by
    rw [segments_append, hsingle, hwk]
    exact lastValues_append hv hkey hvalue
  have hsome : Function.update v k (w k) k ≠ none := by
    rw [Function.update_self, hwk]
    exact Option.some_ne_none value
  rw [ofText_eq_ofValues hdecodes hlast ⟨k, hsome⟩, ofValues_update hq hf' k]
  rfl

/-- **The fields are independent.**  When the segments of an option are dropped, its field says
nothing and the others stay, or there is no query if no other option is in the text; when a segment
of an option is appended that is read by itself, its field is the one that is read there and the
others stay. -/
theorem ofText_fields_independent (h : ofText style t = .ok (some q)) (k : Key) :
    ((∀ l, l ≠ k → Absent (l.inStyle style) (segments t)) →
        ofText style (dropKey (k.inStyle style) t) = .ok none) ∧
      ((∃ l, l ≠ k ∧ ¬ Absent (l.inStyle style) (segments t)) →
        ofText style (dropKey (k.inStyle style) t) = .ok (some (q.without k))) ∧
      ∀ s f, '&' ∉ s → decode (rawKey s) = .ok (k.inStyle style) →
        ofText style s = .ok (some f) →
          ofText style (t ++ '&' :: s) = .ok (some (q.withFieldOf k f)) :=
  ⟨(ofText_dropKey h k).1, (ofText_dropKey h k).2,
    fun _ _ hs hkey hf => ofText_append_segment h hs hkey hf⟩

/-- A limit under three spellings of its key, among other segments and an empty one. -/
def thriceLimited : Text := "$top=1&&$skip=2&%24top=3&page=%zz&$t%6Fp=4".toList

/-- The limit is dropped, is replaced under a fourth spelling, and is dropped where it stands
alone. -/
theorem ofText_fields_independent_top :
    ofText .dollar thriceLimited = .ok (some { top := some 4, skip := some 2 }) ∧
      ofText .dollar (dropKey "$top".toList thriceLimited) = .ok (some { skip := some 2 }) ∧
      ofText .dollar (thriceLimited ++ '&' :: "%24to%70=+5".toList) =
        .ok (some { top := some 5, skip := some 2 }) ∧
      ofText .dollar (dropKey "$top".toList "$top=5".toList) = .ok none := by
  have hread : ofText .dollar thriceLimited = .ok (some { top := some 4, skip := some 2 }) := by
    decide +kernel
  have hskip : ¬ Absent (Key.skip.inStyle .dollar) (segments thriceLimited) := by decide +kernel
  have hsingle : ofText .dollar "%24to%70=+5".toList = .ok (some { top := some 5 }) := by
    decide +kernel
  have hlone : ofText .dollar "$top=5".toList = .ok (some { top := some 5 }) := by decide +kernel
  have hothers : ∀ l : Key, l ≠ .top →
      Absent (l.inStyle .dollar) (segments "$top=5".toList) := by
    intro l hl
    cases l with
    | top => exact absurd rfl hl
    | _ => decide +kernel
  obtain ⟨-, hkept, happend⟩ := ofText_fields_independent hread .top
  exact ⟨hread, hkept ⟨.skip, by decide, hskip⟩,
    happend _ _ (by decide) (by decide +kernel) hsingle,
    (ofText_fields_independent hlone .top).1 hothers⟩

end Query

end QueryOptions
