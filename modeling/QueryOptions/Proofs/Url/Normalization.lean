import QueryOptions.Proofs.Form.Encoding
import QueryOptions.Proofs.Success
import QueryOptions.Url.Address

/-!
# Normalizing a query does not change what it spells

The query of a URL is handed on with some of its characters percent-encoded.  Decoding it gives the
same pairs as decoding the query as it was written (`decodePairs_normalizeQuery`), and if it fails
then at the same component and at the same byte of it, only that the component that is quoted is the
normalized one (`Agrees`).

* **Bytes.**  A character that is encoded is written as escapes of its own bytes.  The danger is a
  `%` that is no escape and stands in front of it, since `%` with two digits behind it would be one.
  But normalizing touches no digit, and what it puts in the place of another character begins with
  `%`; so a `%` has two digits behind it in the normalized query exactly if it had them before
  (`beginsWithByte_normalizeQuery`).
* **Pairs.**  `&` and `=` are not encoded, and no escape holds them, so the query falls into
  segments, and a segment into key and value, where it did before.
-/

namespace QueryOptions

/-- The same result, but for the spelling of a component that cannot be decoded. -/
inductive Agrees {α : Type} : Except QueryError α → Except QueryError α → Prop
  | refl (r : Except QueryError α) : Agrees r r
  | undecodable (component component' : Text) (fault : Utf8.Fault) :
      Agrees (.error (.undecodable component fault)) (.error (.undecodable component' fault))

/-- Readings that agree step by step agree. -/
theorem Agrees.bind {α β : Type} {r r' : Except QueryError α} {f f' : α → Except QueryError β}
    (h : Agrees r r') (hf : ∀ a, Agrees (f a) (f' a)) : Agrees (r >>= f) (r' >>= f') := by
  cases h with
  | refl r =>
      cases r with
      | error e => exact .refl _
      | ok a => exact hf a
  | undecodable component component' fault => exact .undecodable component component' fault

namespace Url

open Form

/-! ## One character -/

/-- What is written for one character of a query. -/
def normalizeChar (family : Family) (c : Char) : Text :=
  if isEncoded family c then (Utf8.encodeChar c).flatMap escape else [c]

theorem normalizeQuery_cons (family : Family) (c : Char) (t : Text) :
    normalizeQuery family (c :: t) = normalizeChar family c ++ normalizeQuery family t := rfl

theorem normalizeChar_of_isEncoded {family : Family} {c : Char} (hc : isEncoded family c = true) :
    normalizeChar family c = (Utf8.encodeChar c).flatMap escape := if_pos hc

theorem normalizeChar_of_not_isEncoded {family : Family} {c : Char}
    (hc : isEncoded family c = false) : normalizeChar family c = [c] := by
  rw [normalizeChar, hc]
  exact if_neg Bool.false_ne_true

theorem normalizeChar_sign (family : Family) :
    ∀ c ∈ ['&', '=', '+', '%'], normalizeChar family c = [c] := by
  have hsigns : ∀ c ∈ ['&', '=', '+', '%'], isEncoded family c = false := by
    cases family <;> decide
  intro c hc
  exact normalizeChar_of_not_isEncoded (hsigns c hc)

theorem toNat_of_hexValue {c : Char} (hc : (hexValue c).isSome = true) :
    0x20 < c.toNat ∧ c.toNat < 0x7F := by
  have hrange : ('0' ≤ c ∧ c ≤ '9') ∨ ('a' ≤ c ∧ c ≤ 'f') ∨ ('A' ≤ c ∧ c ≤ 'F') := by
    unfold hexValue at hc
    split_ifs at hc with hdigit hsmall hcapital
    · exact Or.inl hdigit
    · exact Or.inr (Or.inl hsmall)
    · exact Or.inr (Or.inr hcapital)
    · cases hc
  simp only [Char.le_def, UInt32.le_iff_toNat_le, Char.toNat_val, Char.reduceVal,
    UInt32.reduceToNat] at hrange
  omega

theorem isEncoded_of_hexValue (family : Family) {c : Char} (hc : (hexValue c).isSome = true) :
    isEncoded family c = false := by
  have hrange := toNat_of_hexValue hc
  have hne : ∀ d ∈ ['"', '#', '<', '>', '\''], c ≠ d := by
    have hnone : ∀ d ∈ ['"', '#', '<', '>', '\''], hexValue d = none := by decide
    rintro d hd rfl
    rw [hnone c hd] at hc
    cases hc
  simp only [List.forall_mem_cons] at hne
  obtain ⟨hquotes, hhash, hless, hgreater, hapostrophe, -⟩ := hne
  rw [Bool.eq_false_iff]
  intro hencoded
  simp only [isEncoded, Bool.or_eq_true, Bool.and_eq_true, decide_eq_true_eq, beq_iff_eq, hquotes,
    hhash, hless, hgreater, hapostrophe, and_false, or_false] at hencoded
  omega

/-! ## Bytes -/

theorem spaced_flatMap_escape (bs : List UInt8) :
    spaced (bs.flatMap escape) = bs.flatMap escape := by
  refine spaced_eq_self fun hmem => ?_
  obtain ⟨b, -, hb⟩ := List.mem_flatMap.mp hmem
  exact not_mem_escape (by decide) b hb

theorem percentBytes_flatMap_escape (bs : List UInt8) (rest : Text) :
    percentBytes (bs.flatMap escape ++ rest) = bs ++ percentBytes rest := by
  induction bs with
  | nil => rfl
  | cons b bs ih =>
      rw [List.flatMap_cons, List.append_assoc, percentBytes_escape, ih]
      rfl

theorem spaced_cons_of_ne {c : Char} (hc : c ≠ '+') (t : Text) :
    spaced (c :: t) = c :: spaced t :=
  congrArg (· :: spaced t) (if_neg hc)

/-- A character other than `%` spells the same bytes in front of whatever follows. -/
theorem percentBytes_spaced_append {c : Char} (hc : c ≠ '%') (rest : Text) :
    percentBytes (spaced [c] ++ rest) = percentBytes (spaced [c]) ++ percentBytes rest := by
  have hne : (if c = '+' then ' ' else c) ≠ '%' := by
    split
    · decide
    · exact hc
  simp only [spaced, List.map_cons, List.map_nil, List.cons_append, List.nil_append,
    percentBytes_cons_of_ne hne]
  simp [percentBytes]

/-- Instead of a character other than `%` its bytes are written. -/
theorem percentBytes_normalizeChar (family : Family) {c : Char} (hc : c ≠ '%') (rest : Text) :
    percentBytes (spaced (normalizeChar family c) ++ rest) =
      percentBytes (spaced [c] ++ rest) := by
  cases hencoded : isEncoded family c with
  | false => rw [normalizeChar_of_not_isEncoded hencoded]
  | true =>
      have hplus : c ≠ '+' := by
        rintro rfl
        have hsign := normalizeChar_sign family '+' (by decide)
        cases family <;> exact absurd hencoded (by decide)
      rw [normalizeChar_of_isEncoded hencoded, spaced_flatMap_escape, percentBytes_flatMap_escape,
        spaced_cons_of_ne hplus]
      exact (percentBytes_cons_of_ne hc rest).symm

/-- Whether the text begins with two hexadecimal digits, so that a `%` in front of it would be the
start of an escape. -/
def beginsWithByte : Text → Bool
  | h :: l :: _ => (hexValue h).isSome && (hexValue l).isSome
  | _ => false

theorem beginsWithByte_of_none {c : Char} (hc : hexValue c = none) (t : Text) :
    beginsWithByte (c :: t) = false := by
  cases t with
  | nil => rfl
  | cons d t => simp [beginsWithByte, hc]

/-- A `%` that is no escape stands for itself. -/
theorem percentBytes_percent {t : Text} (ht : beginsWithByte t = false) :
    percentBytes ('%' :: t) = 0x25 :: percentBytes t := by
  match t with
  | [] => rfl
  | [c] =>
      show 0x25 :: Utf8.encode [c] = _
      by_cases hc : c = '%'
      · subst hc
        rfl
      · rw [percentBytes_cons_of_ne hc]
        rfl
  | h :: l :: t =>
      rw [percentBytes, if_pos rfl]
      split
      · rename_i hhigh hlow
        simp [beginsWithByte, hhigh, hlow] at ht
      · rfl

theorem percentBytes_byte {h l : Char} {high low : ℕ} (hhigh : hexValue h = some high)
    (hlow : hexValue l = some low) (t : Text) :
    percentBytes ('%' :: h :: l :: t) = UInt8.ofNat (high * 16 + low) :: percentBytes t := by
  rw [percentBytes, if_pos rfl]
  simp only [hhigh, hlow]

theorem hexValue_spaced (c : Char) : hexValue (if c = '+' then ' ' else c) = hexValue c := by
  split
  · rename_i hc
    rw [hc]
    rfl
  · rfl

theorem ne_plus_of_hexValue {c : Char} (hc : (hexValue c).isSome = true) : c ≠ '+' := by
  rintro rfl
  cases hc

/-- Of the characters of a query only digits are written as digits. -/
theorem spaced_normalizeChar_cases (family : Family) (c : Char) :
    ((hexValue c).isSome = true ∧ spaced (normalizeChar family c) = [c]) ∨
      (hexValue c = none ∧
        ∃ d t, spaced (normalizeChar family c) = d :: t ∧ hexValue d = none) := by
  cases hc : hexValue c with
  | some n =>
      have hsome : (hexValue c).isSome = true := by rw [hc]; rfl
      refine Or.inl ⟨rfl, ?_⟩
      rw [normalizeChar_of_not_isEncoded (isEncoded_of_hexValue family hsome)]
      exact spaced_cons_of_ne (ne_plus_of_hexValue hsome) []
  | none =>
      refine Or.inr ⟨rfl, ?_⟩
      cases hencoded : isEncoded family c with
      | true =>
          obtain ⟨b, bs, hbytes⟩ := List.exists_cons_of_ne_nil (Utf8.encodeChar_ne_nil c)
          rw [normalizeChar_of_isEncoded hencoded, hbytes, spaced_flatMap_escape, List.flatMap_cons]
          exact ⟨'%', _, rfl, rfl⟩
      | false =>
          rw [normalizeChar_of_not_isEncoded hencoded]
          exact ⟨_, [], rfl, (hexValue_spaced c).trans hc⟩

theorem beginsWithByte_spaced (t : Text) : beginsWithByte (spaced t) = beginsWithByte t := by
  match t with
  | [] => rfl
  | [c] => rfl
  | h :: l :: t => simp only [spaced, List.map_cons, beginsWithByte, hexValue_spaced]

/-- **A `%` has two digits behind it** after normalizing exactly if it had them before. -/
theorem beginsWithByte_normalizeQuery (family : Family) (t : Text) :
    beginsWithByte (spaced (normalizeQuery family t)) = beginsWithByte t := by
  cases t with
  | nil => rfl
  | cons h t =>
      rw [normalizeQuery_cons, spaced_append]
      rcases spaced_normalizeChar_cases family h with ⟨hdigit, htext⟩ | ⟨hnone, d, u, htext, hd⟩
      · rw [htext]
        cases t with
        | nil => rfl
        | cons l t =>
            rw [normalizeQuery_cons, spaced_append]
            rcases spaced_normalizeChar_cases family l with ⟨-, htext'⟩ | ⟨hnone', d, u, htext', hd⟩
            · rw [htext']
              rfl
            · simp [htext', beginsWithByte, hnone', hd]
      · rw [htext, beginsWithByte_of_none hnone]
        exact beginsWithByte_of_none hd _

theorem exists_of_beginsWithByte {t : Text} (ht : beginsWithByte t = true) :
    ∃ h l u, t = h :: l :: u ∧ (hexValue h).isSome = true ∧ (hexValue l).isSome = true := by
  match t with
  | [] => cases ht
  | [c] => cases ht
  | h :: l :: u => exact ⟨h, l, u, rfl, by simpa [beginsWithByte] using ht⟩

theorem spaced_normalizeQuery_digit (family : Family) {c : Char}
    (hc : (hexValue c).isSome = true) (t : Text) :
    spaced (normalizeQuery family (c :: t)) = c :: spaced (normalizeQuery family t) := by
  rw [normalizeQuery_cons, normalizeChar_of_not_isEncoded (isEncoded_of_hexValue family hc)]
  exact spaced_cons_of_ne (ne_plus_of_hexValue hc) _

/-- **The bytes that a query spells** are the same before and after normalizing. -/
theorem percentBytes_normalizeQuery (family : Family) (t : Text) :
    percentBytes (spaced (normalizeQuery family t)) = percentBytes (spaced t) := by
  -- an escape is three characters, so the induction is on the length
  induction hn : t.length using Nat.strong_induction_on generalizing t with
  | _ n ih =>
      cases t with
      | nil => rfl
      | cons c t =>
          rw [List.length_cons] at hn
          have hrest := ih t.length (by omega) t rfl
          by_cases hc : c = '%'
          · subst hc
            have hnormalized : spaced (normalizeQuery family ('%' :: t)) =
                '%' :: spaced (normalizeQuery family t) := by
              rw [normalizeQuery_cons, normalizeChar_sign family '%' (by decide)]
              rfl
            have hspaced : spaced ('%' :: t) = '%' :: spaced t := rfl
            rw [hnormalized, hspaced]
            cases hbyte : beginsWithByte t with
            | false =>
                have hbyte' := (beginsWithByte_normalizeQuery family t).trans hbyte
                rw [percentBytes_percent hbyte',
                  percentBytes_percent ((beginsWithByte_spaced t).trans hbyte), hrest]
            | true =>
                obtain ⟨h, l, u, rfl, hh, hl⟩ := exists_of_beginsWithByte hbyte
                obtain ⟨high, hhigh⟩ := Option.isSome_iff_exists.mp hh
                obtain ⟨low, hlow⟩ := Option.isSome_iff_exists.mp hl
                have hshorter := ih u.length (by simp only [List.length_cons] at hn; omega) u rfl
                rw [spaced_normalizeQuery_digit family hh, spaced_normalizeQuery_digit family hl,
                  spaced_cons_of_ne (ne_plus_of_hexValue hh),
                  spaced_cons_of_ne (ne_plus_of_hexValue hl), percentBytes_byte hhigh hlow,
                  percentBytes_byte hhigh hlow, hshorter]
          · rw [normalizeQuery_cons, spaced_append, ← List.singleton_append, spaced_append,
              percentBytes_normalizeChar family hc, percentBytes_spaced_append hc,
              percentBytes_spaced_append hc, hrest]

/-! ## Components, segments and pairs -/

/-- A component is decoded alike before and after normalizing. -/
theorem decode_normalizeQuery (family : Family) (component : Text) :
    Agrees (decode (normalizeQuery family component)) (decode component) := by
  unfold decode
  rw [percentBytes_normalizeQuery]
  cases Utf8.decode (percentBytes (spaced component)) with
  | ok t => exact .refl _
  | error fault => exact .undecodable _ _ fault

/-- No separator comes about by normalizing. -/
theorem mem_normalizeQuery {family : Family} {s : Char} (hs : s ∈ ['&', '=']) {t : Text} :
    s ∈ normalizeQuery family t ↔ s ∈ t := by
  have hsub : ∀ s ∈ ['&', '='], s ∈ ['&', '=', '+', '%'] ∧ s ∈ ['&', '=', '+', '#', '\''] := by
    decide
  constructor
  · intro h
    obtain ⟨c, hc, hmem⟩ := List.mem_flatMap.mp h
    change s ∈ normalizeChar family c at hmem
    cases hencoded : isEncoded family c with
    | false =>
        rw [normalizeChar_of_not_isEncoded hencoded, List.mem_singleton] at hmem
        exact hmem ▸ hc
    | true =>
        rw [normalizeChar_of_isEncoded hencoded] at hmem
        obtain ⟨b, -, hb⟩ := List.mem_flatMap.mp hmem
        exact absurd hb (not_mem_escape (hsub s hs).2 b)
  · intro h
    refine List.mem_flatMap.mpr ⟨s, h, ?_⟩
    change s ∈ normalizeChar family s
    rw [normalizeChar_sign family s (hsub s hs).1]
    exact List.mem_singleton_self s

theorem normalizeQuery_append (family : Family) (t u : Text) :
    normalizeQuery family (t ++ u) = normalizeQuery family t ++ normalizeQuery family u :=
  List.flatMap_append

theorem normalizeChar_ne_nil (family : Family) (c : Char) : normalizeChar family c ≠ [] := by
  intro hnil
  rcases spaced_normalizeChar_cases family c with ⟨-, htext⟩ | ⟨-, d, t, htext, -⟩
  · rw [hnil] at htext
    cases htext
  · rw [hnil] at htext
    cases htext

theorem isEmpty_normalizeQuery (family : Family) (t : Text) :
    (normalizeQuery family t).isEmpty = t.isEmpty := by
  cases t with
  | nil => rfl
  | cons c t =>
      rw [normalizeQuery_cons]
      simp [normalizeChar_ne_nil]

theorem normalizeQuery_join (family : Family) (parts : List Text) :
    normalizeQuery family (Text.join ['&'] parts) =
      Text.join ['&'] (parts.map (normalizeQuery family)) := by
  have hamp : normalizeQuery family ['&'] = ['&'] := by
    rw [normalizeQuery_cons, normalizeChar_sign family '&' (by decide)]
    rfl
  unfold Text.join
  induction parts with
  | nil => rfl
  | cons part parts ih =>
      cases parts with
      | nil => simp
      | cons second parts =>
          rw [List.map_cons, List.map_cons, List.intercalate_cons_cons, List.intercalate_cons_cons,
            normalizeQuery_append, normalizeQuery_append, hamp, ih]
          rfl

/-- The segments of a normalized query are the normalized segments. -/
theorem segments_normalizeQuery (family : Family) (t : Text) :
    segments (normalizeQuery family t) = (segments t).map (normalizeQuery family) := by
  have hfree : ∀ part ∈ (t.splitOn '&').map (normalizeQuery family), '&' ∉ part := by
    intro part hpart hmem
    obtain ⟨raw, hraw, rfl⟩ := List.mem_map.mp hpart
    rw [mem_normalizeQuery (by decide)] at hmem
    rw [List.splitOn_eq_splitOnP] at hraw
    simpa using (Text.of_mem_splitOnP hraw '&' hmem).1
  have hne : (t.splitOn '&').map (normalizeQuery family) ≠ [] := by
    simp [List.splitOn_ne_nil]
  have hsplit : (normalizeQuery family t).splitOn '&' =
      (t.splitOn '&').map (normalizeQuery family) := by
    have hjoin := normalizeQuery_join family (t.splitOn '&')
    unfold Text.join at hjoin
    rw [List.intercalate_splitOn] at hjoin
    rw [hjoin]
    exact List.splitOn_intercalate '&' hfree hne
  unfold segments
  rw [hsplit, List.filter_map]
  congr 2
  funext part
  exact congrArg (!·) (isEmpty_normalizeQuery family part)

/-- A segment is cut into key and value where it was cut before. -/
theorem rawKey_rawValue_normalizeQuery (family : Family) (segment : Text) :
    rawKey (normalizeQuery family segment) = normalizeQuery family (rawKey segment) ∧
      rawValue (normalizeQuery family segment) = normalizeQuery family (rawValue segment) := by
  have hmem : ∀ t, '=' ∉ t → '=' ∉ normalizeQuery family t := fun t ht h =>
    ht ((mem_normalizeQuery (by decide)).mp h)
  by_cases hsegment : '=' ∈ segment
  · obtain ⟨key, value, rfl, hkey⟩ := List.eq_append_cons_of_mem hsegment
    rw [normalizeQuery_append, normalizeQuery_cons, normalizeChar_sign family '=' (by decide),
      List.singleton_append, rawKey_append hkey, rawValue_append hkey,
      rawKey_append (hmem key hkey), rawValue_append (hmem key hkey)]
    exact ⟨rfl, rfl⟩
  · rw [rawKey_of_not_mem hsegment, rawValue_of_not_mem hsegment,
      rawKey_of_not_mem (hmem segment hsegment), rawValue_of_not_mem (hmem segment hsegment)]
    exact ⟨rfl, rfl⟩

theorem decodeSegment_normalizeQuery (family : Family) (segment : Text) :
    Agrees (decodeSegment (normalizeQuery family segment)) (decodeSegment segment) := by
  obtain ⟨hkey, hvalue⟩ := rawKey_rawValue_normalizeQuery family segment
  unfold decodeSegment
  rw [hkey, hvalue]
  exact (decode_normalizeQuery family _).bind fun key =>
    (decode_normalizeQuery family _).bind fun value => .refl _

/-- **A query is decoded alike** before and after normalizing. -/
theorem decodePairs_normalizeQuery (family : Family) (t : Text) :
    Agrees (decodePairs (normalizeQuery family t)) (decodePairs t) := by
  unfold decodePairs
  rw [segments_normalizeQuery]
  induction segments t with
  | nil => exact .refl _
  | cons segment rest ih =>
      rw [List.map_cons, List.mapM_cons, List.mapM_cons]
      exact (decodeSegment_normalizeQuery family segment).bind fun pair =>
        ih.bind fun pairs => .refl _

end Url

end QueryOptions
