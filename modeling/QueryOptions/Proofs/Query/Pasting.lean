import QueryOptions.Proofs.Query.OfUrl
import QueryOptions.Query.Writing

/-!
# Pasting a query into a URL

A URL that ends with a `?` has an empty query.  Behind this `?` the text of any query can be written
and it is the query of the URL, character by character (`Query.query_append_text`).  So it makes no
difference whether a query is read from its text or from a URL that it was pasted into.

Two things have to be seen.

* **The URL.**  What stands in front of the query decides whether a text is a URL, and the query has
  no part in it: the scheme ends before the first `?`, and of what follows the scheme only what is
  in front of the query and the fragment is looked at (`cleanQuery?_append`).
* **The text.**  A written query is made of letters, digits, `* - . _`, and the signs `+ % & =`.
  None of them is dropped from a URL, begins a fragment or is percent-encoded, in whatever scheme
  (`isEncoded_of_mem_text`).

Both need that nothing in front ends the query: a URL with a fragment has no place behind its `?`.
-/

namespace QueryOptions

open Text

/-! ## What a written query is made of -/

theorem Text.mem_join {separator : Text} {parts : List Text} {c : Char}
    (hc : c ∈ join separator parts) : c ∈ separator ∨ ∃ part ∈ parts, c ∈ part := by
  induction parts with
  | nil => exact absurd hc List.not_mem_nil
  | cons part parts ih =>
      cases parts with
      | nil => exact Or.inr ⟨part, List.mem_cons_self, by simpa [join] using hc⟩
      | cons second parts =>
          unfold join at hc ih
          rw [List.intercalate_cons_cons, List.mem_append, List.mem_append] at hc
          rcases hc with (hc | hc) | hc
          · exact Or.inr ⟨part, List.mem_cons_self, hc⟩
          · exact Or.inl hc
          · exact (ih hc).imp_right fun ⟨p, hp, hmem⟩ => ⟨p, List.mem_cons_of_mem part hp, hmem⟩

namespace Url

/-- In the well-known schemes every character is encoded that is encoded in others. -/
theorem isEncoded_of_hosted {c : Char} (h : isEncoded .hosted c = false) (family : Family) :
    isEncoded family c = false := by
  cases family with
  | hosted => exact h
  | file => exact h
  | other =>
      unfold isEncoded at h ⊢
      rw [Bool.or_eq_false_iff] at h
      rw [h.1]
      rfl

/-- What is not encoded in a query is neither dropped from a URL nor the start of a fragment. -/
theorem of_not_isEncoded {family : Family} {c : Char} (h : isEncoded family c = false) :
    isOuter c = false ∧ isSkipped c = false ∧ c ≠ '#' := by
  have hhash : isEncoded family '#' = true := by cases family <;> decide
  have hblank : ∀ d, isSkipped d = true → isEncoded family d = true := by
    intro d hd
    simp only [isSkipped, Bool.or_eq_true, beq_iff_eq] at hd
    rcases hd with (rfl | rfl) | rfl <;> cases family <;> decide
  refine ⟨?_, ?_, ?_⟩
  · rw [Bool.eq_false_iff]
    intro hc
    unfold isEncoded at h
    unfold isOuter at hc
    simp [hc] at h
  · rw [Bool.eq_false_iff]
    intro hc
    rw [hblank c hc] at h
    cases h
  · rintro rfl
    rw [hhash] at h
    cases h

/-- A query none of whose characters is encoded is normalized already. -/
theorem normalizeQuery_eq_self {family : Family} {t : Text}
    (ht : ∀ c ∈ t, isEncoded family c = false) : normalizeQuery family t = t := by
  induction t with
  | nil => rfl
  | cons c t ih =>
      obtain ⟨hc, ht⟩ := List.forall_mem_cons.mp ht
      rw [normalizeQuery_cons, normalizeChar_of_not_isEncoded hc, ih ht]
      rfl

end Url

namespace Form

open Url

theorem isEncoded_of_isPlain : ∀ n < 0x80, isPlain (UInt8.ofNat n) = true →
    isEncoded .hosted (Char.ofNat n) = false := by decide

theorem isEncoded_capitalHexDigit : ∀ n < 16, isEncoded .hosted (capitalHexDigit n) = false := by
  decide

theorem isEncoded_of_mem_encodeByte {b : UInt8} {c : Char} (hc : c ∈ encodeByte b) :
    isEncoded .hosted c = false := by
  have hb : b.toNat < 256 := UInt8.toNat_lt b
  unfold encodeByte at hc
  split at hc
  · rw [List.mem_singleton.mp hc]
    decide
  · split at hc
    · rename_i hplain
      rw [List.mem_singleton.mp hc]
      refine isEncoded_of_isPlain _ (toNat_lt_of_isPlain hplain).1 ?_
      rwa [UInt8.ofNat_toNat]
    · simp only [escape, List.mem_cons, List.not_mem_nil, or_false] at hc
      rcases hc with rfl | rfl | rfl
      · decide
      · exact isEncoded_capitalHexDigit _ (by omega)
      · exact isEncoded_capitalHexDigit _ (by omega)

theorem isEncoded_of_mem_encode {t : Text} {c : Char} (hc : c ∈ encode t) :
    isEncoded .hosted c = false := by
  obtain ⟨b, -, hb⟩ := List.mem_flatMap.mp hc
  exact isEncoded_of_mem_encodeByte hb

/-- **No character of encoded pairs is encoded again** in the query of a URL. -/
theorem isEncoded_of_mem_encodePairs {pairs : Pairs} {c : Char} (hc : c ∈ encodePairs pairs) :
    isEncoded .hosted c = false := by
  rcases mem_join hc with hc | ⟨segment, hsegment, hc⟩
  · rw [List.mem_singleton.mp hc]
    decide
  · obtain ⟨pair, -, rfl⟩ := List.mem_map.mp hsegment
    rcases List.mem_append.mp hc with hc | hc
    · exact isEncoded_of_mem_encode hc
    · rcases List.mem_cons.mp hc with rfl | hc
      · decide
      · exact isEncoded_of_mem_encode hc

end Form

/-! ## A URL and its query -/

section Before

variable {α : Type*} {p : α → Bool} {c : α}

/-- A beginning that ends before an element is not changed by what follows that element. -/
theorem takeWhile_append_cons (hc : p c = false) (l t : List α) :
    (l ++ c :: t).takeWhile p = l.takeWhile p := by
  have hstop : (c :: t).takeWhile p = [] := List.takeWhile_cons_of_neg (by simp [hc])
  rw [List.takeWhile_append, hstop, List.append_nil]
  split
  · rename_i hlength
    exact ((List.takeWhile_prefix p).eq_of_length hlength).symm
  · rfl

theorem dropWhile_append_cons (hc : p c = false) (l t : List α) :
    (l ++ c :: t).dropWhile p = l.dropWhile p ++ c :: t := by
  have hstop : (c :: t).dropWhile p = c :: t := List.dropWhile_cons_of_neg (by simp [hc])
  rw [List.dropWhile_append, hstop]
  split
  · rename_i hnil
    rw [List.isEmpty_iff.mp hnil]
    rfl
  · rfl

end Before

namespace Url

/-- What is left of the text in front of a query once the characters that do not count are gone. -/
def cleanFront (b : Text) : Text := (b.dropWhile isOuter).filter (!isSkipped ·)

theorem mem_of_mem_cleanFront {b : Text} {c : Char} (hc : c ∈ cleanFront b) : c ∈ b :=
  (List.dropWhile_suffix isOuter).subset (List.mem_of_mem_filter hc)

/-- Behind a `?` nothing is dropped that is not dropped by itself. -/
theorem clean_append {b t : Text} (ht : ∀ c ∈ t, isOuter c = false ∧ isSkipped c = false) :
    clean (b ++ '?' :: t) = cleanFront b ++ '?' :: t := by
  have hall : ∀ c ∈ '?' :: t, isOuter c = false ∧ isSkipped c = false :=
    List.forall_mem_cons.mpr ⟨by decide, ht⟩
  have hend : (b.dropWhile isOuter ++ '?' :: t).rdropWhile isOuter =
      b.dropWhile isOuter ++ '?' :: t := by
    rw [List.rdropWhile_eq_self_iff]
    intro hne
    rw [List.getLast_append_of_ne_nil hne (List.cons_ne_nil _ _)]
    simpa using (hall _ (List.getLast_mem _)).1
  have hkeep : ('?' :: t).filter (!isSkipped ·) = '?' :: t := by
    rw [List.filter_eq_self]
    intro c hc
    rw [(hall c hc).2]
    rfl
  unfold clean
  rw [dropWhile_append_cons (by decide)]
  change ((b.dropWhile isOuter ++ '?' :: t).rdropWhile isOuter).filter (!isSkipped ·) = _
  rw [hend, List.filter_append, hkeep]
  rfl

/-- A scheme ends in front of the query. -/
theorem splitScheme?_append (front t : Text) :
    splitScheme? (front ++ '?' :: t) =
      (splitScheme? front).map fun found => (found.1, found.2 ++ '?' :: t) := by
  unfold splitScheme?
  simp only [takeWhile_append_cons (show isSchemeChar '?' = false by decide),
    dropWhile_append_cons (show isSchemeChar '?' = false by decide)]
  cases hscheme : front.takeWhile isSchemeChar with
  | nil => rfl
  | cons first scheme =>
      cases hrest : front.dropWhile isSchemeChar with
      | nil => rfl
      | cons d rest =>
          by_cases hd : d = ':'
          · subst hd
            simp only [List.cons_append]
            split <;> rfl
          · simp [hd]

theorem mem_of_splitScheme? {t scheme rest : Text} (h : splitScheme? t = some (scheme, rest))
    {c : Char} (hc : c ∈ rest) : c ∈ t := by
  unfold splitScheme? at h
  simp only at h
  split at h
  · rename_i hcolon
    split at h
    · cases h
      refine (List.dropWhile_suffix isSchemeChar).subset ?_
      rw [hcolon]
      exact List.mem_cons_of_mem _ hc
    · cases h
  · cases h

/-- The family of the URLs in which the given text stands in front of the query, if there are
any. -/
def familyOfFront? (front : Text) : Option Family :=
  (splitScheme? front).bind fun (scheme, rest) =>
    if isBody (Family.ofScheme scheme) true rest then some (Family.ofScheme scheme) else none

/-- **Whether a text is a URL does not depend on its query**, and the query is what stands in its
place up to the fragment, normalized. -/
theorem cleanQuery?_append {front : Text} (hfront : ∀ c ∈ front, endsBody c = false) (t : Text) :
    cleanQuery? (front ++ '?' :: t) =
      (familyOfFront? front).map fun family =>
        some (normalizeQuery family (t.takeWhile (· != '#'))) := by
  unfold cleanQuery? familyOfFront?
  rw [splitScheme?_append]
  cases hscheme : splitScheme? front with
  | none => rfl
  | some found =>
      obtain ⟨scheme, rest⟩ := found
      have hrest : ∀ c ∈ rest, (!endsBody c) = true := by
        intro c hc
        rw [hfront c (mem_of_splitScheme? hscheme hc)]
        rfl
      have hbody : body (rest ++ '?' :: t) = rest := by
        unfold body
        rw [takeWhile_append_cons (by decide)]
        exact List.takeWhile_eq_self_iff.mpr hrest
      have hquery : rawQuery? (rest ++ '?' :: t) = some (t.takeWhile (· != '#')) := by
        rw [rawQuery?_append fun c hc => hfront c (mem_of_splitScheme? hscheme hc)]
        rfl
      have hlength : rest.length < (rest ++ '?' :: t).length := by simp
      simp only [Option.map_some, Option.bind_some, hbody, hquery, hlength, decide_true]
      split <;> rfl

/-- In a URL whose query is empty and ends it, nothing in front is the start of a query. -/
theorem not_endsBody_of_query_eq {b : Text} (hhash : '#' ∉ b)
    (hb : query (b ++ ['?']) = .ok (some [])) : ∀ c ∈ cleanFront b, endsBody c = false := by
  have hfragment : '#' ∉ cleanFront b := fun h => hhash (mem_of_mem_cleanFront h)
  have hmark : '?' ∉ cleanFront b := by
    intro hmem
    obtain ⟨u, v, huv, hu⟩ := List.eq_append_cons_of_mem hmem
    rw [huv, List.mem_append, List.mem_cons, not_or, not_or] at hfragment
    -- then the last `?` is in the query, which is not empty
    have hholds : HoldsQuery (clean (b ++ ['?'])) (v ++ ['?']) := by
      refine ⟨u, [], ?_, hu, hfragment.1, by simp [hfragment.2.2], Or.inl rfl⟩
      rw [clean_append (by simp), huv]
      simp
    obtain ⟨family, hquery⟩ := exists_of_query_eq_ok hb
    rw [rawQuery?_of_holdsQuery hholds, Option.map_some, Option.some_inj] at hquery
    have hempty := isEmpty_normalizeQuery family (v ++ ['?'])
    rw [← hquery] at hempty
    simp at hempty
  intro c hc
  have hc₁ : c ≠ '?' := fun h => hmark (h ▸ hc)
  have hc₂ : c ≠ '#' := fun h => hfragment (h ▸ hc)
  simp [endsBody, hc₁, hc₂]

/-- Behind the `?` that ends a URL, what is not encoded is the query as it stands. -/
theorem query_append {b t : Text} (hhash : '#' ∉ b) (hb : query (b ++ ['?']) = .ok (some []))
    (ht : ∀ c ∈ t, isEncoded .hosted c = false) : query (b ++ '?' :: t) = .ok (some t) := by
  have hfront := not_endsBody_of_query_eq hhash hb
  have hclean := fun c hc => of_not_isEncoded (ht c hc)
  have hkeep : t.takeWhile (· != '#') = t :=
    List.takeWhile_eq_self_iff.mpr fun c hc => bne_iff_ne.mpr (hclean c hc).2.2
  unfold query at hb ⊢
  rw [clean_append (by simp), cleanQuery?_append hfront] at hb
  rw [clean_append fun c hc => ⟨(hclean c hc).1, (hclean c hc).2.1⟩, cleanQuery?_append hfront,
    hkeep]
  cases hfamily : familyOfFront? (cleanFront b) with
  | none =>
      rw [hfamily] at hb
      cases hb
  | some family =>
      simp only [Option.map_some]
      rw [normalizeQuery_eq_self fun c hc => isEncoded_of_hosted (ht c hc) family]

end Url

/-! ## The main statement -/

namespace Query

open Url

theorem isEncoded_of_mem_text {style : KeyStyle} {q : Query} {c : Char} (hc : c ∈ q.text style) :
    isEncoded .hosted c = false :=
  Form.isEncoded_of_mem_encodePairs hc

/-- **A written query is pasted into a URL as it stands**, whatever it holds, and is read there in
either style as it is read by itself.  The URL is any that has an empty query and no fragment. -/
theorem query_append_text {b : Text} (hhash : '#' ∉ b)
    (hb : Url.query (b ++ ['?']) = .ok (some [])) (style : KeyStyle) (q : Query) :
    Url.query (b ++ '?' :: q.text style) = .ok (some (q.text style)) ∧
      ∀ style', ofUrl style' (b ++ '?' :: q.text style) = ofText style' (q.text style) := by
  have hquery : Url.query (b ++ '?' :: q.text style) = .ok (some (q.text style)) :=
    query_append hhash hb fun _ => isEncoded_of_mem_text
  refine ⟨hquery, fun style' => ?_⟩
  unfold ofUrl
  rw [hquery]
  rfl

/-- A URL up to its query, with a control character and a blank in front of it, a tab in its host
and a line end behind it. -/
def untidyFront : Text := "\x01 HttpS://me@Ex\tample.com:8080/it's <ü>\n".toList

/-- A query that names properties by what ends a query, is dropped from a URL or is encoded
there. -/
def untidy : Query where
  select := ["#top".toList, "\t".toList]
  filter := [{
    property := "a'<ü>".toList, operator := .equal, operand := .single (.string "?x&y".toList) }]

/-- Both in one URL. -/
theorem query_append_text_untidy :
    '#' ∉ untidyFront ∧ Url.query (untidyFront ++ ['?']) = .ok (some []) ∧
      Url.query (untidyFront ++
          "?%24select=%23top%2C%09&%24filter=a%27%3C%C3%BC%3E+eq+%27%3Fx%26y%27".toList) =
        .ok (some "%24select=%23top%2C%09&%24filter=a%27%3C%C3%BC%3E+eq+%27%3Fx%26y%27".toList) ∧
      ofUrl .dollar (untidyFront ++ '?' :: untidy.text .dollar) =
        ofText .dollar (untidy.text .dollar) := by
  have hhash : '#' ∉ untidyFront := by decide
  have hfront : Url.query (untidyFront ++ ['?']) = .ok (some []) := by decide +kernel
  have htext : untidy.text .dollar =
      "%24select=%23top%2C%09&%24filter=a%27%3C%C3%BC%3E+eq+%27%3Fx%26y%27".toList := by
    decide +kernel
  have hmark : "?%24select=%23top%2C%09&%24filter=a%27%3C%C3%BC%3E+eq+%27%3Fx%26y%27".toList =
      '?' :: "%24select=%23top%2C%09&%24filter=a%27%3C%C3%BC%3E+eq+%27%3Fx%26y%27".toList := by
    decide +kernel
  obtain ⟨hquery, hread⟩ := query_append_text hhash hfront .dollar untidy
  rw [htext, ← hmark] at hquery
  exact ⟨hhash, hfront, hquery, hread .dollar⟩

end Query

end QueryOptions
