import QueryOptions.Proofs.Query.Arbitrary
import QueryOptions.Proofs.Query.FirstError
import QueryOptions.Proofs.Text.Fault
import QueryOptions.Proofs.Url.Normalization

/-!
# Components that cannot be decoded

A key or a value is written in bytes (`Form.SpellsBytes`), one character or escape after the other:

```text
  +                             the byte of a space
  % and two digits              the byte with that number
  % and anything else           the byte of the sign itself
  any other character           its own bytes
```

and the bytes may be those of a text or not (`Form.SpellsText`).  If there is a component whose
bytes are none, the reading of the whole query fails, with the first such component as it was
written and the number of bytes in front of the fault (`Query.ofText_undecodable`).  Nothing else
matters: the key need not be that of an option, and what the values say is looked at only when all
components are decoded.  All other errors are about one of the values (`Query.about_of_ofPairs`).
-/

namespace QueryOptions

open Url (beginsWithByte)

namespace Form

/-! ## The bytes of a component -/

/-- The bytes that a component spells, one character or one escape at a time. -/
inductive SpellsBytes : Text → List UInt8 → Prop
  | nil : SpellsBytes [] []
  | plus {t : Text} {bs : List UInt8} (h : SpellsBytes t bs) : SpellsBytes ('+' :: t) (0x20 :: bs)
  | escape {high low : Char} {m n : ℕ} {t : Text} {bs : List UInt8} (hhigh : hexValue high = some m)
      (hlow : hexValue low = some n) (h : SpellsBytes t bs) :
      SpellsBytes ('%' :: high :: low :: t) (UInt8.ofNat (m * 16 + n) :: bs)
  | percent {t : Text} {bs : List UInt8} (ht : beginsWithByte t = false) (h : SpellsBytes t bs) :
      SpellsBytes ('%' :: t) (0x25 :: bs)
  | plain {c : Char} {t : Text} {bs : List UInt8} (hplus : c ≠ '+') (hpercent : c ≠ '%')
      (h : SpellsBytes t bs) : SpellsBytes (c :: t) (Utf8.encodeChar c ++ bs)

theorem percentBytes_spaced_of_spellsBytes {t : Text} {bs : List UInt8} (h : SpellsBytes t bs) :
    percentBytes (spaced t) = bs := by
  induction h with
  | nil => rfl
  | plus _ ih =>
      show percentBytes (' ' :: spaced _) = _
      rw [percentBytes_cons_of_ne (by decide), ih]
      rfl
  | escape hhigh hlow _ ih =>
      rw [Url.spaced_cons_of_ne (by decide),
        Url.spaced_cons_of_ne (Url.ne_plus_of_hexValue (by rw [hhigh]; rfl)),
        Url.spaced_cons_of_ne (Url.ne_plus_of_hexValue (by rw [hlow]; rfl)),
        Url.percentBytes_byte hhigh hlow, ih]
  | percent ht _ ih =>
      rw [Url.spaced_cons_of_ne (by decide),
        Url.percentBytes_percent ((Url.beginsWithByte_spaced _).trans ht), ih]
  | plain hplus hpercent _ ih =>
      rw [Url.spaced_cons_of_ne hplus, percentBytes_cons_of_ne hpercent, ih]

/-- Every component spells some bytes. -/
theorem exists_spellsBytes (t : Text) : ∃ bs, SpellsBytes t bs := by
  -- an escape is three characters, so the induction is on the length
  induction hn : t.length using Nat.strong_induction_on generalizing t with
  | _ n ih =>
      cases t with
      | nil => exact ⟨[], .nil⟩
      | cons c t =>
          rw [List.length_cons] at hn
          obtain ⟨bs, hrest⟩ := ih t.length (by omega) t rfl
          by_cases hplus : c = '+'
          · exact ⟨_, hplus ▸ SpellsBytes.plus hrest⟩
          by_cases hpercent : c = '%'
          · subst hpercent
            cases hbyte : beginsWithByte t with
            | false => exact ⟨_, .percent hbyte hrest⟩
            | true =>
                obtain ⟨high, low, u, rfl, hh, hl⟩ := Url.exists_of_beginsWithByte hbyte
                obtain ⟨m, hhigh⟩ := Option.isSome_iff_exists.mp hh
                obtain ⟨n, hlow⟩ := Option.isSome_iff_exists.mp hl
                obtain ⟨bs', hshorter⟩ :=
                  ih u.length (by simp only [List.length_cons] at hn; omega) u rfl
                exact ⟨_, .escape hhigh hlow hshorter⟩
          · exact ⟨_, .plain hplus hpercent hrest⟩

theorem spellsBytes_iff {t : Text} {bs : List UInt8} :
    SpellsBytes t bs ↔ percentBytes (spaced t) = bs := by
  refine ⟨percentBytes_spaced_of_spellsBytes, fun h => ?_⟩
  obtain ⟨bs', hbs'⟩ := exists_spellsBytes t
  rw [← h, percentBytes_spaced_of_spellsBytes hbs']
  exact hbs'

/-- Whether a component spells a text. -/
def SpellsText (component : Text) : Prop := ∃ bs, SpellsBytes component bs ∧ Utf8.IsText bs

/-- The number is the length of the longest beginning of the bytes of a component that is a text. -/
def ValidUpTo (component : Text) (index : ℕ) : Prop :=
  ∃ bs, SpellsBytes component bs ∧ IsGreatest {n | n ≤ bs.length ∧ Utf8.IsText (bs.take n)} index

theorem exists_decode_eq_ok_iff {component : Text} :
    (∃ t, decode component = .ok t) ↔ SpellsText component := by
  unfold decode SpellsText
  simp only [mapError_eq_ok, spellsBytes_iff, exists_eq_left']
  exact Utf8.exists_decode_eq_ok_iff

theorem decode_eq_error {component : Text} {e : QueryError} :
    decode component = .error e ↔ ∃ fault,
      Utf8.decode (percentBytes (spaced component)) = .error fault ∧
        .undecodable component fault = e :=
  mapError_eq_error

/-- **A component that spells no text** is quoted in the error as it is written. -/
theorem decode_eq_undecodable_iff {component quoted : Text} {index : ℕ} :
    (∃ length, decode component = .error (.undecodable quoted ⟨index, length⟩)) ↔
      component = quoted ∧ ¬ SpellsText component ∧ ValidUpTo component index := by
  have hbytes : (∃ length, Utf8.decode (percentBytes (spaced component)) =
      .error ⟨index, length⟩) ↔ ¬ SpellsText component ∧ ValidUpTo component index := by
    unfold SpellsText ValidUpTo
    simp only [spellsBytes_iff, exists_eq_left']
    exact Utf8.decode_eq_error_iff
  rw [← hbytes]
  constructor
  · rintro ⟨length, h⟩
    obtain ⟨fault, hfault, herror⟩ := decode_eq_error.mp h
    cases herror
    exact ⟨rfl, length, hfault⟩
  · rintro ⟨rfl, length, hfault⟩
    exact ⟨length, decode_eq_error.mpr ⟨_, hfault, rfl⟩⟩

/-! ## The first component -/

/-- The keys and the values of the segments, as they are written and in their order. -/
def components (row : List Text) : List Text := row.flatMap fun s => [rawKey s, rawValue s]

/-- Whether a component is the first of a row that spells no text. -/
def FirstUndecodable (row : List Text) (component : Text) : Prop :=
  ∃ before after, components row = before ++ component :: after ∧
    (∀ c ∈ before, SpellsText c) ∧ ¬ SpellsText component

/-- Decoding a row is a matter of its components. -/
theorem map_mapM_decodeSegment (row : List Text) :
    (row.mapM decodeSegment).map (fun _ => ()) =
      forM (components row) fun c => (decode c).map fun _ => () := by
  induction row with
  | nil => rfl
  | cons s row ih =>
      show _ = (decode (rawKey s)).map (fun _ => ()) >>= fun _ =>
        (decode (rawValue s)).map (fun _ => ()) >>= fun _ => forM (components row) _
      have hsteps : decodeSegment s = decode (rawKey s) >>= fun key =>
          decode (rawValue s) >>= fun value => .ok (key, value) := rfl
      rw [List.mapM_cons, ← ih, hsteps]
      cases decode (rawKey s) with
      | error e => rfl
      | ok key =>
          cases decode (rawValue s) with
          | error e => rfl
          | ok value => cases row.mapM decodeSegment <;> rfl

/-- A row that is not decoded fails at the first component that is not. -/
theorem decodePairs_eq_error {query : Text} {e : QueryError} :
    decodePairs query = .error e ↔ ∃ before c after,
      components (segments query) = before ++ c :: after ∧ (∀ b ∈ before, SpellsText b) ∧
        decode c = .error e := by
  unfold decodePairs
  rw [← map_eq_error (f := fun _ => ()), map_mapM_decodeSegment, forM_eq_error]
  simp only [map_eq_error, map_eq_ok, ← exists_decode_eq_ok_iff, and_true]

theorem decodePairs_eq_undecodable_iff {query component : Text} {index : ℕ} :
    (∃ length, decodePairs query = .error (.undecodable component ⟨index, length⟩)) ↔
      FirstUndecodable (segments query) component ∧ ValidUpTo component index := by
  simp only [decodePairs_eq_error]
  constructor
  · rintro ⟨length, before, c, after, hsplit, hbefore, hc⟩
    obtain ⟨rfl, hspells, hindex⟩ := decode_eq_undecodable_iff.mp ⟨length, hc⟩
    exact ⟨⟨before, after, hsplit, hbefore, hspells⟩, hindex⟩
  · rintro ⟨⟨before, after, hsplit, hbefore, hspells⟩, hindex⟩
    obtain ⟨length, hlength⟩ := decode_eq_undecodable_iff.mpr ⟨rfl, hspells, hindex⟩
    exact ⟨length, before, component, after, hsplit, hbefore, hlength⟩

theorem exists_decodePairs_eq_undecodable_iff {query : Text} :
    (∃ component fault, decodePairs query = .error (.undecodable component fault)) ↔
      ∃ s ∈ segments query, ¬ SpellsText (rawKey s) ∨ ¬ SpellsText (rawValue s) := by
  constructor
  · rintro ⟨component, ⟨index, length⟩, h⟩
    obtain ⟨⟨before, after, hsplit, -, hspells⟩, -⟩ :=
      decodePairs_eq_undecodable_iff.mp ⟨length, h⟩
    have hmem : component ∈ components (segments query) := by
      rw [hsplit]
      exact List.mem_append_right before List.mem_cons_self
    obtain ⟨s, hs, hcomponent⟩ := List.mem_flatMap.mp hmem
    rcases List.mem_pair.mp hcomponent with rfl | rfl
    · exact ⟨s, hs, Or.inl hspells⟩
    · exact ⟨s, hs, Or.inr hspells⟩
  · rintro ⟨s, hs, hspells⟩
    cases h : decodePairs query with
    | ok pairs =>
        obtain ⟨hkey, hvalue⟩ := decodes_of_mapM h s hs
        rw [exists_decode_eq_ok_iff] at hkey hvalue
        exact absurd hspells (not_or.mpr ⟨not_not.mpr hkey, not_not.mpr hvalue⟩)
    | error e =>
        obtain ⟨before, c, after, -, -, hc⟩ := decodePairs_eq_error.mp h
        obtain ⟨fault, -, rfl⟩ := decode_eq_error.mp hc
        exact ⟨c, fault, rfl⟩

end Form

/-! ## The query -/

namespace QueryError

/-- An error about a value that is one word. -/
inductive AboutScalar : QueryError → Prop
  | datatype (field : Key) (value : Text) : AboutScalar (.datatype field value)
  | range (field : Key) (value : Text) : AboutScalar (.range field value)

end QueryError

namespace Scalar

theorem aboutScalar_of_flag {field : Key} {raw : Option Text} {e : QueryError}
    (h : flag field raw = .error e) : e.AboutScalar := by
  unfold flag at h
  split at h
  · cases h
  · rw [map_eq_error] at h
    unfold flagOfText at h
    split_ifs at h
    cases h
    exact .datatype field _

theorem aboutScalar_of_limit {field : Key} {raw : Option Text} {e : QueryError}
    (h : limit field raw = .error e) : e.AboutScalar := by
  obtain ⟨t, -, -, herror⟩ := limit_eq_error_iff.mp h
  rcases limitOfText_eq_error_iff.mp herror with ⟨rfl, -⟩ | ⟨rfl, -⟩
  · exact .datatype field _
  · exact .range field _

end Scalar

namespace Query

open Form

theorem Item.about_of_check {i : Item} {e : QueryError} (h : i.check = .error e) :
    e.AboutScalar ∨ e.AboutClause := by
  cases i with
  | flag field raw => exact Or.inl (Scalar.aboutScalar_of_flag (map_eq_error.mp h))
  | limit field raw => exact Or.inl (Scalar.aboutScalar_of_limit (map_eq_error.mp h))
  | sortKey clause => exact Or.inr (SortKey.aboutClause_of_ofText (map_eq_error.mp h))
  | condition clause => exact Or.inr (Condition.aboutClause_of_ofText (map_eq_error.mp h))

/-- What is wrong with decoded pairs is a value and not a component. -/
theorem about_of_ofPairs {style : KeyStyle} {pairs : Pairs} {e : QueryError}
    (h : ofPairs style pairs = .error e) : e.AboutScalar ∨ e.AboutClause := by
  unfold ofPairs at h
  split at h
  · obtain ⟨before, i, after, -, -, hi⟩ := ofValues_eq_error_iff.mp (map_eq_error.mp h)
    exact Item.about_of_check hi
  · cases h

/-- Whatever else is wrong in a text, a component that cannot be decoded is the error. -/
theorem ofText_eq_undecodable_iff {style : KeyStyle} {t component : Text} {fault : Utf8.Fault} :
    ofText style t = .error (.undecodable component fault) ↔
      decodePairs t = .error (.undecodable component fault) := by
  unfold ofText
  rw [bind_eq_error]
  refine or_iff_left ?_
  rintro ⟨pairs, -, h⟩
  rcases about_of_ofPairs h with h | h <;> cases h

/-- **What cannot be decoded is the error**: exactly if the key or the value of some segment spells
no text, whatever its key is and whatever else is wrong.  The error quotes the first such component
as it is written, and counts the bytes of it that are whole characters in front of the fault. -/
theorem ofText_undecodable (style : KeyStyle) (t : Text) :
    ((∃ component fault, ofText style t = .error (.undecodable component fault)) ↔
        ∃ s ∈ segments t, ¬ SpellsText (rawKey s) ∨ ¬ SpellsText (rawValue s)) ∧
      ∀ component index,
        (∃ length, ofText style t = .error (.undecodable component ⟨index, length⟩)) ↔
          FirstUndecodable (segments t) component ∧ ValidUpTo component index := by
  simp only [ofText_eq_undecodable_iff]
  exact ⟨exists_decodePairs_eq_undecodable_iff, fun _ _ => decodePairs_eq_undecodable_iff⟩

/-- The fault is in the value of an unknown key, and the values behind it are refused too. -/
example : ofText .dollar "page=%zz%C3%A9+%E2%82&$top=x&%FF=1".toList =
    .error (.undecodable "%zz%C3%A9+%E2%82".toList ⟨6, none⟩) := by decide +kernel

end Query

end QueryOptions
