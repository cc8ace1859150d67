import QueryOptions.Proofs.Url.Normalization
import QueryOptions.Query.OfUrl

/-!
# Reading a URL is reading its query

A query can be read from its text or from a URL that holds it.  Both give the same
(`Query.ofUrl_agrees`), although a URL does not hand on the text as it is written: what does not
count is dropped from the URL, the query ends where the fragment begins, and what is left is
normalized.  Normalizing does no harm, as `Url.decodePairs_normalizeQuery` says, so here it remains
to find the query in the URL.

The reader looks for it behind the scheme.  It could as well look in all of the URL, since a scheme
holds neither a `?` nor a `#` (`rawQuery?_of_splitScheme?`).
-/

namespace QueryOptions

namespace Url

/-! ## The query in a URL -/

/-- The query of a URL is what stands between its first `?`, in front of which there is no `#`, and
the next `#` or the end. -/
def HoldsQuery (t query : Text) : Prop :=
  ∃ front rest, t = front ++ '?' :: (query ++ rest) ∧ '?' ∉ front ∧ '#' ∉ front ∧ '#' ∉ query ∧
    (rest = [] ∨ ∃ fragment, rest = '#' :: fragment)

theorem rawQuery?_append {front : Text} (hfront : ∀ c ∈ front, endsBody c = false) (t : Text) :
    rawQuery? (front ++ t) = rawQuery? t := by
  have hpass : ∀ c ∈ front, (!endsBody c) = true := by
    intro c hc
    rw [hfront c hc]
    rfl
  unfold rawQuery?
  rw [List.dropWhile_append_of_pos hpass]

theorem rawQuery?_of_holdsQuery {t query : Text} (h : HoldsQuery t query) :
    rawQuery? t = some query := by
  obtain ⟨front, rest, rfl, hmark, hhash, hquery, hrest⟩ := h
  have hfront : ∀ c ∈ front, endsBody c = false := by
    intro c hc
    have hc₁ : c ≠ '?' := fun h => hmark (h ▸ hc)
    have hc₂ : c ≠ '#' := fun h => hhash (h ▸ hc)
    simp [endsBody, hc₁, hc₂]
  have hkeep : ∀ c ∈ query, (c != '#') = true := by
    intro c hc
    rw [bne_iff_ne]
    exact fun h => hquery (h ▸ hc)
  have hstop : rest.takeWhile (· != '#') = [] := by
    rcases hrest with rfl | ⟨fragment, rfl⟩
    · rfl
    · rfl
  rw [rawQuery?_append hfront]
  show some ((query ++ rest).takeWhile (· != '#')) = some query
  rw [List.takeWhile_append_of_pos hkeep, hstop, List.append_nil]

/-- A query that is found stands behind a `?` and not in the fragment. -/
theorem exists_of_rawQuery?_eq_some {t query : Text} (h : rawQuery? t = some query) :
    ∃ front rest, t = front ++ '?' :: rest ∧ '#' ∉ front := by
  have hcut := List.takeWhile_append_dropWhile (p := (!endsBody ·)) (l := t)
  unfold rawQuery? at h
  split at h
  · rename_i rest hrest
    rw [hrest] at hcut
    refine ⟨_, rest, hcut.symm, fun hmem => ?_⟩
    exact absurd (List.mem_takeWhile_imp hmem) (by decide)
  · cases h

/-- **No query begins in a scheme.** -/
theorem rawQuery?_of_splitScheme? {t scheme rest : Text}
    (h : splitScheme? t = some (scheme, rest)) : rawQuery? t = rawQuery? rest := by
  have hcut := List.takeWhile_append_dropWhile (p := isSchemeChar) (l := t)
  have hname : ∀ c ∈ t.takeWhile isSchemeChar, endsBody c = false := by
    intro c hc
    have hscheme := List.mem_takeWhile_imp hc
    rw [Bool.eq_false_iff]
    intro hends
    rw [endsBody, Bool.or_eq_true, beq_iff_eq, beq_iff_eq] at hends
    rcases hends with rfl | rfl
    · exact absurd hscheme (by decide)
    · exact absurd hscheme (by decide)
  unfold splitScheme? at h
  simp only at h
  split at h
  · rename_i hcolon
    split at h
    · cases h
      rw [hcolon] at hcut
      rw [← hcut, rawQuery?_append hname]
      rfl
    · cases h
  · cases h

/-- The query of a URL is the one that stands in it, normalized. -/
theorem exists_of_query_eq_ok {address : Text} {stored : Option Text}
    (h : query address = .ok stored) :
    ∃ family, stored = (rawQuery? (clean address)).map (normalizeQuery family) := by
  unfold query at h
  split at h
  · rename_i found hfound
    cases h
    unfold cleanQuery? at hfound
    split at hfound
    · cases hfound
    · rename_i scheme rest hscheme
      simp only at hfound
      split at hfound
      · rw [rawQuery?_of_splitScheme? hscheme]
        exact ⟨_, (Option.some.inj hfound).symm⟩
      · cases hfound
  · cases h

end Url

/-! ## Reading it -/

namespace Query

open Url

theorem ofText_normalizeQuery (style : KeyStyle) (family : Family) (t : Text) :
    Agrees (ofText style (normalizeQuery family t)) (ofText style t) :=
  (decodePairs_normalizeQuery family t).bind fun pairs => .refl (ofPairs style pairs)

/-- **A URL is read as its query is**, in both styles, and as nothing if it has none.  The query is
looked for in the URL without what does not count. -/
theorem ofUrl_agrees {address : Text} {stored : Option Text} (h : Url.query address = .ok stored)
    (style : KeyStyle) :
    (∀ t, HoldsQuery (clean address) t → Agrees (ofUrl style address) (ofText style t)) ∧
      ((∀ front rest, clean address = front ++ '?' :: rest → '#' ∈ front) →
        ofUrl style address = .ok none) := by
  obtain ⟨family, rfl⟩ := exists_of_query_eq_ok h
  constructor
  · intro t ht
    have hread : ofUrl style address = ofText style (normalizeQuery family t) := by
      unfold ofUrl
      rw [h, rawQuery?_of_holdsQuery ht]
      rfl
    rw [hread]
    exact ofText_normalizeQuery style family t
  · intro hnone
    have hraw : rawQuery? (clean address) = none := by
      cases hraw : rawQuery? (clean address) with
      | none => rfl
      | some t =>
          obtain ⟨front, rest, htext, hhash⟩ := exists_of_rawQuery?_eq_some hraw
          exact absurd (hnone front rest htext) hhash
    unfold ofUrl
    rw [h, hraw]
    rfl

/-- A URL with a blank in front and a line end inside.  Its query holds a `%` that is no escape, in
front of an apostrophe that is written as one, and it ends at a fragment that looks like a query. -/
theorem ofUrl_agrees_file :
    (∃ stored, Url.query " file:///?$filter=name\n eq 'é%'#?$top=1".toList = .ok stored) ∧
      HoldsQuery (clean " file:///?$filter=name\n eq 'é%'#?$top=1".toList)
        "$filter=name eq 'é%'".toList ∧
      Agrees (ofUrl .dollar " file:///?$filter=name\n eq 'é%'#?$top=1".toList)
        (ofText .dollar "$filter=name eq 'é%'".toList) ∧
      ofUrl .dollar "file:///#$top=1".toList = .ok none := by
  have hquery : Url.query " file:///?$filter=name\n eq 'é%'#?$top=1".toList =
      .ok (some "$filter=name%20eq%20%27%C3%A9%%27".toList) := by decide +kernel
  have hholds : HoldsQuery (clean " file:///?$filter=name\n eq 'é%'#?$top=1".toList)
      "$filter=name eq 'é%'".toList :=
    ⟨"file:///".toList, "#?$top=1".toList, by decide +kernel, by decide, by decide, by decide,
      Or.inr ⟨_, rfl⟩⟩
  have hnone : Url.query "file:///#$top=1".toList = .ok none := by decide +kernel
  refine ⟨⟨_, hquery⟩, hholds, (ofUrl_agrees hquery .dollar).1 _ hholds, ?_⟩
  refine (ofUrl_agrees hnone .dollar).2 fun front rest h => ?_
  have hmem : '?' ∈ clean "file:///#$top=1".toList := by
    rw [h]
    simp
  exact absurd hmem (by decide +kernel)

end Query

end QueryOptions
