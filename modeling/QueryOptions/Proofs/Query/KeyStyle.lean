import QueryOptions.Proofs.Query.Writing

/-!
# The two styles differ by a dollar sign

A query with plain keys becomes one with dollar signs when a dollar sign is put in front of each of
its segments that is not empty (`Form.dollared`).  The new query is read in the dollar style as the
old one is in the plain style, and in the plain style it is read as none, since no plain name begins
with a dollar sign (`Query.ofText_dollared`).

The dollar sign goes through every layer of the reader untouched:

* it is a byte of its own in front of the bytes of the key, so it is decoded to itself, and what is
  wrong with the bytes behind it is found one byte later (`Utf8.decodeFrom_add`);
* it is neither `&` nor `=`, so segments and keys end where they did;
* the values stay as they are, and so does every error that is about a value.

So there is one difference between the two readings: when a key cannot be decoded, the error quotes
it with the dollar sign and counts one byte more (`SameButDollar`).
-/

namespace QueryOptions

/-- The same result, but for the dollar sign in front of a key that cannot be decoded. -/
inductive SameButDollar {α : Type} : Except QueryError α → Except QueryError α → Prop
  | refl (r : Except QueryError α) : SameButDollar r r
  | undecodable (key : Text) (fault : Utf8.Fault) :
      SameButDollar (.error (.undecodable ('$' :: key) ⟨1 + fault.index, fault.length⟩))
        (.error (.undecodable key fault))

namespace SameButDollar

variable {α β : Type}

theorem bind {r r' : Except QueryError α} {f f' : α → Except QueryError β}
    (h : SameButDollar r r') (hf : ∀ a, SameButDollar (f a) (f' a)) :
    SameButDollar (r >>= f) (r' >>= f') := by
  cases h with
  | undecodable key fault => exact .undecodable key fault
  | refl =>
      cases r with
      | error e => exact .refl _
      | ok a => exact hf a

theorem eq_ok {r : Except QueryError α} {a : α} (h : SameButDollar r (.ok a)) : r = .ok a := by
  cases h
  rfl

end SameButDollar

/-! ## Components -/

namespace Utf8

/-- Counting from a later byte moves every fault by as much. -/
theorem decodeFrom_add (n index : ℕ) (bs : List UInt8) :
    decodeFrom (n + index) bs =
      (decodeFrom index bs).mapError fun fault => ⟨n + fault.index, fault.length⟩ := by
  -- a character takes one byte or more, so the induction is on the number of bytes
  induction hn : bs.length using Nat.strong_induction_on generalizing bs index with
  | _ len ih =>
      cases bs with
      | nil => simp [decodeFrom, Except.mapError]
      | cons b bs =>
          cases hfront : front (b :: bs) with
          | error length =>
              rw [decodeFrom_of_front_error hfront, decodeFrom_of_front_error hfront]
              rfl
          | ok found =>
              obtain ⟨c, rest⟩ := found
              have hlt := length_lt_of_front hfront
              rw [decodeFrom_of_front hfront, decodeFrom_of_front hfront, Nat.add_assoc,
                ih rest.length (by omega) _ rest rfl]
              cases decodeFrom (index + ((b :: bs).length - rest.length)) rest <;> rfl

end Utf8

namespace Form

theorem decode_dollar_cons (component : Text) :
    SameButDollar (decode ('$' :: component)) ((decode component).map ('$' :: ·)) := by
  have hbytes : percentBytes (spaced ('$' :: component)) =
      Utf8.encodeChar '$' ++ percentBytes (spaced component) :=
    percentBytes_cons_of_ne (by decide) _
  have hdecode : Utf8.decode (percentBytes (spaced ('$' :: component))) =
      (Utf8.decodeFrom 1 (percentBytes (spaced component))).map ('$' :: ·) := by
    unfold Utf8.decode
    rw [hbytes, Utf8.decodeFrom_of_front (Utf8.front_encodeChar_append '$' _),
      List.length_append, Nat.add_sub_cancel]
    rfl
  have hshift := Utf8.decodeFrom_add 1 0 (percentBytes (spaced component))
  rw [Nat.add_zero] at hshift
  unfold decode
  rw [hdecode, hshift]
  show SameButDollar _ (((Utf8.decodeFrom 0 _).mapError _).map _)
  cases Utf8.decodeFrom 0 (percentBytes (spaced component)) with
  | error fault => exact .undecodable component fault
  | ok t => exact .refl _

/-! ## Segments and rows -/

/-- The query with a dollar sign in front of each segment that is not empty. -/
def dollared (query : Text) : Text :=
  Text.join ['&'] ((query.splitOn '&').map fun s => if s.isEmpty then s else '$' :: s)

/-- A pair with a dollar sign in front of its key. -/
def dollarKey (pair : Text × Text) : Text × Text := ('$' :: pair.1, pair.2)

theorem segments_dollared (query : Text) :
    segments (dollared query) = (segments query).map ('$' :: ·) := by
  have hfree : ∀ s ∈ (query.splitOn '&').map fun s => if s.isEmpty then s else '$' :: s,
      '&' ∉ s := by
    intro s hs hmem
    obtain ⟨part, hpart, rfl⟩ := List.mem_map.mp hs
    rw [List.splitOn_eq_splitOnP] at hpart
    have hsplit : '&' ∉ part := fun h => by simpa using (Text.of_mem_splitOnP hpart '&' h).1
    split at hmem
    · exact hsplit hmem
    · exact hsplit ((List.mem_cons.mp hmem).resolve_left (by decide))
  have hne : ((query.splitOn '&').map fun s => if s.isEmpty then s else '$' :: s) ≠ [] := by
    simp [List.splitOn_ne_nil]
  unfold dollared segments Text.join
  rw [List.splitOn_intercalate '&' hfree hne]
  induction query.splitOn '&' with
  | nil => rfl
  | cons part parts ih =>
      cases part with
      | nil => exact ih
      | cons c part => exact congrArg (('$' :: c :: part) :: ·) ih

theorem decodeSegment_dollar_cons (segment : Text) :
    SameButDollar (decodeSegment ('$' :: segment)) ((decodeSegment segment).map dollarKey) := by
  have hsteps : (decodeSegment segment).map dollarKey =
      (decode (rawKey segment)).map ('$' :: ·) >>= fun key =>
        decode (rawValue segment) >>= fun value => .ok (key, value) := by
    unfold decodeSegment
    cases decode (rawKey segment) with
    | error e => rfl
    | ok key => cases decode (rawValue segment) <;> rfl
  rw [hsteps]
  exact (decode_dollar_cons (rawKey segment)).bind fun key => .refl _

theorem decodePairs_dollared (query : Text) :
    SameButDollar (decodePairs (dollared query)) ((decodePairs query).map (List.map dollarKey)) := by
  unfold decodePairs
  rw [segments_dollared]
  induction segments query with
  | nil => exact .refl _
  | cons segment rest ih =>
      have hsteps : ((segment :: rest).mapM decodeSegment).map (List.map dollarKey) =
          (decodeSegment segment).map dollarKey >>= fun pair =>
            (rest.mapM decodeSegment).map (List.map dollarKey) >>= fun pairs =>
              .ok (pair :: pairs) := by
        rw [List.mapM_cons]
        cases decodeSegment segment with
        | error e => rfl
        | ok pair => cases rest.mapM decodeSegment <;> rfl
      rw [hsteps, List.map_cons, List.mapM_cons]
      exact (decodeSegment_dollar_cons segment).bind fun pair => ih.bind fun pairs => .refl _

end Form

namespace Query

open Form

/-! ## Values -/

theorem dollar_cons_beq (t u : Text) : ('$' :: t == '$' :: u) = (t == u) := by
  rw [Bool.eq_iff_iff, beq_iff_eq, beq_iff_eq, List.cons_inj_right]

/-- The values stay where they are when both the keys of a row and the keys that are looked for get
a dollar sign. -/
theorem values_map_dollarKey (pairs : Pairs) :
    values .dollar (pairs.map dollarKey) = values .bare pairs := by
  funext k
  show Pairs.value? (pairs.map dollarKey) ('$' :: k.name) = pairs.value? k.name
  unfold Pairs.value?
  rw [List.filter_map, List.map_map]
  have hkeys : ((·.1 == '$' :: k.name) ∘ dollarKey : Text × Text → Bool) = (·.1 == k.name) :=
    funext fun pair => dollar_cons_beq pair.1 k.name
  rw [hkeys]
  rfl

theorem ofPairs_map_dollarKey (pairs : Pairs) :
    ofPairs .dollar (pairs.map dollarKey) = ofPairs .bare pairs := by
  unfold ofPairs
  rw [values_map_dollarKey]

theorem ofPairs_eq_none {style : KeyStyle} {pairs : Pairs}
    (h : ∀ pair ∈ pairs, ∀ k : Key, pair.1 ≠ k.inStyle style) :
    ofPairs style pairs = .ok none := by
  have hnone : ∀ k, values style pairs k = none := by
    intro k
    have hkeys : pairs.filter (·.1 == k.inStyle style) = [] := by
      rw [List.filter_eq_nil_iff]
      intro pair hpair
      rw [beq_iff_eq]
      exact h pair hpair k
    unfold values Pairs.value?
    rw [hkeys]
    rfl
  unfold ofPairs
  simp [hnone]

/-- No plain name begins with a dollar sign. -/
theorem name_ne_dollar_cons (k : Key) (t : Text) : k.name ≠ '$' :: t := by
  intro h
  have hhead : k.name.head? = some '$' := by rw [h]; rfl
  revert hhead
  cases k <;> decide

theorem inStyle_ne_inStyle_not (dollar : Bool) (k l : Key) :
    k.inStyle (.ofDollar dollar) ≠ l.inStyle (.ofDollar !dollar) := by
  cases dollar with
  | false => exact name_ne_dollar_cons k l.name
  | true => exact (name_ne_dollar_cons l k.name).symm

/-! ## Readings -/

theorem ofText_dollar_dollared (t : Text) :
    SameButDollar (ofText .dollar (dollared t)) (ofText .bare t) := by
  have hsteps : ofText .bare t =
      (decodePairs t).map (List.map dollarKey) >>= ofPairs .dollar := by
    unfold ofText
    cases decodePairs t with
    | error e => rfl
    | ok pairs => exact (ofPairs_map_dollarKey pairs).symm
  rw [hsteps]
  exact (decodePairs_dollared t).bind fun pairs => .refl _

theorem ofText_bare_dollared {t : Text} {pairs : Pairs} (h : decodePairs t = .ok pairs) :
    ofText .bare (dollared t) = .ok none := by
  have hpairs := decodePairs_dollared t
  rw [h] at hpairs
  unfold ofText
  rw [hpairs.eq_ok]
  apply ofPairs_eq_none
  intro pair hpair k
  obtain ⟨old, -, rfl⟩ := List.mem_map.mp hpair
  exact (name_ne_dollar_cons k old.1).symm

theorem ofText_text_not (q : Query) (dollar : Bool) :
    ofText (.ofDollar !dollar) (q.text (.ofDollar dollar)) = .ok none := by
  unfold ofText text
  rw [decodePairs_encodePairs]
  apply ofPairs_eq_none
  intro pair hpair k
  obtain ⟨l, -, hvalue⟩ := List.mem_filterMap.mp hpair
  obtain ⟨value, -, rfl⟩ := Option.map_eq_some_iff.mp hvalue
  exact inStyle_ne_inStyle_not dollar l k

/-- **The style of the keys is a renaming.**  A query and the same query with dollar signs are read
alike, each in its own style, and neither is read in the style of the other. -/
theorem ofText_dollared :
    (∀ t, SameButDollar (ofText .dollar (dollared t)) (ofText .bare t)) ∧
      (∀ t pairs, decodePairs t = .ok pairs → ofText .bare (dollared t) = .ok none) ∧
      (∀ q : Query, ofText .dollar (q.text .dollar) = ofText .bare (q.text .bare)) ∧
      ∀ (q : Query) (dollar : Bool),
        ofText (.ofDollar !dollar) (q.text (.ofDollar dollar)) = .ok none := by
  refine ⟨ofText_dollar_dollared, fun t pairs h => ofText_bare_dollared h, fun q => ?_,
    ofText_text_not⟩
  rw [ofText_text, ofText_text]

/-- Empty segments, a key twice, and a segment without a value. -/
theorem ofText_dollared_count :
    dollared "&count=x&&count=1&top".toList = "&$count=x&&$count=1&$top".toList ∧
      ofText .bare (dollared "&count=x&&count=1&top".toList) = .ok none := by
  refine ⟨by decide +kernel, ?_⟩
  exact ofText_dollared.2.1 _ [("count".toList, "x".toList), ("count".toList, "1".toList),
    ("top".toList, [])] (by decide +kernel)

end Query

end QueryOptions
