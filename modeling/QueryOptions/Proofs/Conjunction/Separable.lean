import QueryOptions.Proofs.Conjunction.Beginning

/-!
# Joining clauses and taking them apart again

Clauses that are joined by the separating word are not always found again.  An apostrophe in one of
them may pair up with an apostrophe in another, and the word between them is then part of a quote.
`Separable` says that this does not happen, clause by clause: each is one clause when it is read
alone, and if it leaves a quote open, then no later clause holds an end for one.

`clauses_join` says that separable clauses are found again.  `first_clause` is the step of the
converse: if a joined text is read with the clause that was written first in front, then this
clause has both properties.
-/

namespace QueryOptions.Conjunction

open Text

/-- Clauses that do not run into each other when they are joined. -/
def Separable : List Text → Prop
  | [] => True
  | c :: cs =>
    clauses c = [c] ∧ (leavesOpen none (tokens none c) = true → ∀ d ∈ cs, close? d = none) ∧
      Separable cs

instance decidableSeparable : DecidablePred Separable
  | [] => isTrue trivial
  | _ :: cs =>
    have := decidableSeparable cs
    inferInstanceAs (Decidable (_ ∧ _ ∧ _))

/-! ## Separable clauses are found again -/

theorem join_cons_cons (t u : Text) (ts : List Text) :
    join " and ".toList (t :: u :: ts) =
      t ++ " and ".toList ++ join " and ".toList (u :: ts) :=
  List.intercalate_cons_cons

/-- A joined text holds an end of a quote only where one of its clauses does. -/
theorem close?_join {ts : List Text} :
    close? (join " and ".toList ts) = none ↔ ∀ t ∈ ts, close? t = none := by
  induction ts with
  | nil => simp [join, close?]
  | cons t ts ih =>
      cases ts with
      | nil => simp [join]
      | cons u ts =>
          have hblank : closesBefore (" and ".toList ++ join " and ".toList (u :: ts)) = true := rfl
          rw [join_cons_cons, List.append_assoc, List.forall_mem_cons, ← ih]
          constructor
          · intro h
            obtain ⟨ht, hrest⟩ := close?_eq_none_of_append hblank h
            rw [close?_append_of_none _ (close?_eq_none_of_not_mem (by decide))] at hrest
            exact ⟨ht, Option.map_eq_none_iff.mp hrest⟩
          · rintro ⟨ht, hrest⟩
            rw [close?_append_of_none _ ht, close?_and _ hrest]
            rfl

theorem Separable.clauses_of_mem {ts : List Text} (h : Separable ts) :
    ∀ t ∈ ts, clauses t = [t] := by
  induction ts with
  | nil => exact fun t ht => absurd ht List.not_mem_nil
  | cons t ts ih => exact List.forall_mem_cons.mpr ⟨h.1, ih h.2.2⟩

theorem clauses_nil : clauses [] = [] := by
  rw [clauses, tokens_nil]
  rfl

/-- **Separable clauses are found again** when they are joined. -/
theorem clauses_join {ts : List Text} (h : Separable ts) :
    clauses (join " and ".toList ts) = ts := by
  induction ts with
  | nil => exact clauses_nil
  | cons t ts ih =>
      obtain ⟨ht, hopen, hts⟩ := h
      cases ts with
      | nil =>
          rw [join, List.intercalate_singleton]
          exact ht
      | cons u ts =>
          rw [join_cons_cons, clauses_append_and fun h => close?_join.mpr (hopen h), ht, ih hts]
          rfl

/-! ## The clause in front -/

theorem quote_of_mem_tokens {b : Option Char} {t run : Text} (h : .quote run ∈ tokens b t) :
    ∃ inner, run = '\'' :: (inner ++ ['\'']) := by
  fun_induction tokens b t with
  | case1 b => cases h
  | case2 b c t run' rest hquote ih =>
      rcases List.mem_cons.mp h with heq | h
      · cases heq
        exact (quote?_eq_some hquote).2.2.2
      · exact ih h
  | case3 b c t hquote rest hsep ih =>
      rcases List.mem_cons.mp h with heq | h
      · cases heq
      · exact ih h
  | case4 b c t hquote hsep ih =>
      rcases List.mem_cons.mp h with heq | h
      · cases heq
      · exact ih h

/-- A blank in front of a boundary is a token of its own. -/
theorem exists_of_flatMap_eq_concat {b : Option Char} {t x : Text} {c : Char} {us vs : List Token}
    (h : tokens b t = us ++ vs) (hus : Token.separator ∉ us) (hc : isBlank c = true)
    (hx : us.flatMap Token.text = x ++ [c]) :
    ∃ us', us = us' ++ [.plain c] ∧ us'.flatMap Token.text = x := by
  rcases List.eq_nil_or_concat us with rfl | ⟨us', token, rfl⟩
  · simp at hx
  · refine ⟨us', ?_⟩
    rw [List.concat_eq_append] at h hus hx ⊢
    rw [List.flatMap_append, List.flatMap_singleton] at hx
    cases token with
    | quote run =>
        have hmem : .quote run ∈ tokens b t := by simp [h]
        obtain ⟨inner, rfl⟩ := quote_of_mem_tokens hmem
        have hlast := congrArg List.getLast? hx
        simp [Token.text, List.getLast?_append, List.getLast?_cons] at hlast
        exact absurd hlast (ne_apostrophe_of_blank hc).symm
    | separator => exact absurd (by simp) hus
    | plain d =>
        obtain ⟨hfront, hd⟩ := List.append_inj' hx rfl
        cases hd
        exact ⟨rfl, hfront⟩

/-- Blanks in front of a boundary are tokens of their own. -/
theorem exists_of_flatMap_eq_append_blanks {b : Option Char} {t x r : Text} {us vs : List Token}
    (h : tokens b t = us ++ vs) (hus : Token.separator ∉ us) (hr : AllBlank r)
    (hx : us.flatMap Token.text = x ++ r) :
    ∃ us', us = us' ++ r.map Token.plain ∧ us'.flatMap Token.text = x := by
  induction r using List.reverseRecOn generalizing us vs with
  | nil => exact ⟨us, by simp, by simpa using hx⟩
  | append_singleton r c ih =>
      have hc : isBlank c = true := hr c (by simp)
      rw [← List.append_assoc] at hx
      obtain ⟨us', rfl, hfront⟩ := exists_of_flatMap_eq_concat h hus hc hx
      have hus' : Token.separator ∉ us' := fun hmem => hus (List.mem_append_left _ hmem)
      rw [List.append_assoc] at h
      obtain ⟨us'', rfl, hx'⟩ := ih h hus' (fun d hd => hr d (List.mem_append_left _ hd)) hfront
      exact ⟨us'', by simp, hx'⟩

/-- The first of the clauses that are read, and the tokens that it is made of.  What is not in it
comes behind it: blanks, and then the first separator if there is one. -/
theorem exists_of_clauses_eq_cons {t k : Text} {ks : List Text} (h : clauses t = k :: ks)
    (hhead : ∀ c ∈ t.head?, isBlank c = false)
    (hand : ∀ rest, t = "and".toList ++ rest → blankBefore rest = false) :
    ∃ us vs r, tokens none t = us ++ vs ∧ Token.separator ∉ us ∧
      us.flatMap Token.text = k ++ r ∧ AllBlank r ∧
        (vs = [] ∨ ∃ ws, vs = .separator :: ws) := by
  obtain ⟨us, vs, htokens, hus, hvs, parts, hparts⟩ :
      ∃ us vs, tokens none t = us ++ vs ∧ Token.separator ∉ us ∧
        (vs = [] ∨ ∃ ws, vs = .separator :: ws) ∧
          ∃ parts, between (tokens none t) = us.flatMap Token.text :: parts := by
    by_cases hsep : Token.separator ∈ tokens none t
    · obtain ⟨us, ws, htokens, hus⟩ := List.eq_append_cons_of_mem hsep
      refine ⟨us, .separator :: ws, htokens, hus, Or.inr ⟨ws, rfl⟩, between ws, ?_⟩
      rw [htokens, between_append_of_not_mem hus]
    · exact ⟨tokens none t, [], by simp, hsep, Or.inl rfl, [], between_eq_singleton hsep⟩
  generalize hf : us.flatMap Token.text = f at hparts
  have ht : t = f ++ vs.flatMap Token.text := by
    rw [← flatMap_tokens none t, htokens, List.flatMap_append, hf]
  cases f with
  | nil =>
      -- a first separator at the very beginning, or a text without tokens
      rcases hvs with rfl | ⟨ws, rfl⟩
      · rw [ht, List.flatMap_nil, List.append_nil, clauses_nil] at h
        cases h
      · obtain ⟨rest, hrest, -, hblank, -⟩ := exists_of_tokens_eq_append_separator htokens
        rw [hf, List.nil_append] at hrest
        rw [hand rest hrest] at hblank
        cases hblank
  | cons c f =>
      have hc : isBlank c = false := hhead c (by rw [ht]; rfl)
      have htrim : trim (c :: f) = trimEnd (c :: f) := by
        rw [trim, trimStart_cons_of_not_blank hc]
      have hne : trim (c :: f) ≠ [] := by
        intro hnil
        have hblank := trim_eq_nil_iff.mp hnil c List.mem_cons_self
        rw [hc] at hblank
        cases hblank
      obtain ⟨r, hr, hend⟩ := exists_eq_trimEnd_append (c :: f)
      have hk : trim (c :: f) = k := by
        rw [clauses, hparts, trimAll_cons_of_ne_nil hne] at h
        exact (List.cons.inj h).1
      refine ⟨us, vs, r, htokens, hus, ?_, hr, hvs⟩
      rw [hf, ← hk, htrim]
      exact hend

/-- A joined text is its first clause and what is written behind it.  If the clause leaves no quote
open that this could end, then its clauses are those of the one and of the other. -/
theorem exists_join_cons (x : Text) (ts : List Text) :
    ∃ y, join " and ".toList (x :: ts) = x ++ y ∧ (y = [] ∨ ∃ y', y = " and ".toList ++ y') ∧
      ((leavesOpen none (tokens none x) = true → close? y = none) →
        clauses (x ++ y) = clauses x ++ clauses (join " and ".toList ts) ∧
          (leavesOpen none (tokens none x) = true → ∀ t ∈ ts, close? t = none)) := by
  cases ts with
  | nil =>
      refine ⟨[], by simp [join], Or.inl rfl, fun _ => ⟨?_, by simp⟩⟩
      have hnil : join " and ".toList [] = [] := rfl
      rw [hnil, clauses_nil, List.append_nil, List.append_nil]
  | cons t ts =>
      refine ⟨" and ".toList ++ join " and ".toList (t :: ts), ?_, Or.inr ⟨_, rfl⟩, fun h => ?_⟩
      · rw [join_cons_cons, List.append_assoc]
      · have hends : leavesOpen none (tokens none x) = true →
            close? (join " and ".toList (t :: ts)) = none := by
          intro hopen
          have hclose := h hopen
          rw [close?_append_of_none _ (close?_eq_none_of_not_mem (by decide))] at hclose
          exact Option.map_eq_none_iff.mp hclose
        rw [← List.append_assoc, clauses_append_and hends]
        exact ⟨rfl, fun hopen => close?_join.mp (hends hopen)⟩

/-! ## The place where the clause in front ends -/

/-- What ends with something other than a blank ends with no blanks. -/
theorem eq_nil_of_trim_append {x z : Text} (h : trim (x ++ z) = x ++ z) (hz : AllBlank z) :
    z = [] := by
  rcases List.eq_nil_or_concat z with rfl | ⟨w, c, rfl⟩
  · rfl
  · have hlast := (trim_eq_self_iff.mp h).2 c (by simp [List.getLast?_append])
    rw [hz c (by simp)] at hlast
    cases hlast

/-- A text that meets blanks and then nothing or an `a`, and holds no `a` itself, is blank. -/
theorem allBlank_of_append_eq {z u r s : Text} (h : z ++ u = r ++ s) (hr : AllBlank r)
    (hs : s = [] ∨ ∃ s', s = 'a' :: s') (hz : 'a' ∉ z) : AllBlank z := by
  rcases List.append_eq_append_iff.mp h with ⟨w, rfl, -⟩ | ⟨w, rfl, rfl⟩
  · exact fun c hc => hr c (List.mem_append_left w hc)
  · cases w with
    | nil =>
        rw [List.append_nil]
        exact hr
    | cons c w =>
        rcases hs with hs | ⟨s', hs⟩
        · cases hs
        · obtain rfl : c = 'a' := (List.cons.inj hs).1
          exact absurd (by simp) hz

/-- Two beginnings of one text that end in front of the same word are the same, if they have as many
letters `a`: one that is longer would hold the first letter of the word. -/
theorem eq_of_append_eq {x k y r s : Text} (hx : x.trim = x) (hk : k.trim = k)
    (hy : y = [] ∨ ∃ y', y = " and ".toList ++ y') (hr : AllBlank r)
    (hs : s = [] ∨ ∃ s', s = 'a' :: s') (h : x ++ y = k ++ (r ++ s))
    (hcount : x.count 'a' = k.count 'a') : x = k := by
  rcases List.append_eq_append_iff.mp h with ⟨z, rfl, hz⟩ | ⟨z, rfl, hz⟩
  · have hfree : 'a' ∉ z := by
      rw [← List.count_eq_zero]
      rw [List.count_append] at hcount
      omega
    rcases hy with rfl | ⟨y', rfl⟩
    · rw [(List.append_eq_nil_iff.mp hz.symm).1, List.append_nil]
    · have hblank : AllBlank z :=
        allBlank_of_append_eq (r := [' ']) (s := "and ".toList ++ y') hz.symm allBlank_space
          (Or.inr ⟨"nd ".toList ++ y', rfl⟩) hfree
      rw [eq_nil_of_trim_append hk hblank, List.append_nil]
  · have hfree : 'a' ∉ z := by
      rw [← List.count_eq_zero]
      rw [List.count_append] at hcount
      omega
    rw [eq_nil_of_trim_append hx (allBlank_of_append_eq hz.symm hr hs hfree), List.append_nil]

theorem clauses_eq_singleton {x : Text} (hne : x ≠ []) (hx : x.trim = x)
    (hsep : Token.separator ∉ tokens none x) : clauses x = [x] := by
  rw [clauses, between_eq_singleton hsep, flatMap_tokens]
  exact trimAll_eq_self (by simp [hne, hx])

/-- Where blanks and the word are written behind a clause, one blank is in front of the word. -/
theorem eq_space_of_append_eq {y' r s : Text} (hr : AllBlank r)
    (h : " and ".toList ++ y' = r ++ ("and".toList ++ s)) : r = [' '] := by
  have h' : ' ' :: 'a' :: ("nd ".toList ++ y') = r ++ 'a' :: ("nd".toList ++ s) := h
  cases r with
  | nil => exact absurd (List.cons.inj h').1 (by decide)
  | cons c r =>
      obtain ⟨hc, htail⟩ := List.cons.inj h'
      cases r with
      | nil => rw [hc]
      | cons d r =>
          obtain rfl : 'a' = d := (List.cons.inj htail).1
          exact absurd (hr 'a' (by simp)) (by decide)

/-- The word does not come about by joining, either. -/
theorem blankBefore_of_append_eq_and {x y rest : Text}
    (hand : ∀ rest, x = "and".toList ++ rest → blankBefore rest = false) (hne : x ≠ [])
    (hy : y = [] ∨ ∃ y', y = " and ".toList ++ y') (h : x ++ y = "and".toList ++ rest) :
    blankBefore rest = false := by
  rcases List.append_eq_append_iff.mp h with ⟨w, hw, hyw⟩ | ⟨w, rfl, rfl⟩
  · cases w with
    | nil =>
        rw [List.append_nil] at hw
        exact absurd (hand [] (by rw [← hw, List.append_nil])) (by decide)
    | cons c w =>
        have hc : c ∈ "and".toList := by
          rw [hw]
          simp
        rcases hy with rfl | ⟨y', rfl⟩
        · cases hyw
        · obtain rfl : ' ' = c := (List.cons.inj hyw).1
          exact absurd hc (by decide)
  · have hw := hand w rfl
    rcases eq_or_ne w [] with rfl | hwne
    · cases hw
    · rwa [blankBefore_append hwne]

/-- A clause that is written first and read first is one clause and leaves no quote open that what
follows could end.  Of the reading only this is used, that the clause read first has as many letters
`a` as the one that was written: the clause ends in front of a separating word, which has such a
letter, so it can be cut neither sooner nor later. -/
theorem first_clause {x k y : Text} {ks : List Text} (hne : x ≠ []) (hx : x.trim = x)
    (hand : ∀ rest, x = "and".toList ++ rest → blankBefore rest = false)
    (hy : y = [] ∨ ∃ y', y = " and ".toList ++ y')
    (h : clauses (x ++ y) = k :: ks) (hcount : x.count 'a' = k.count 'a') :
    clauses x = [x] ∧ (leavesOpen none (tokens none x) = true → close? y = none) := by
  have hblank : blankBefore y = true := by
    rcases hy with rfl | ⟨y', rfl⟩ <;> rfl
  have hhead : ∀ c ∈ (x ++ y).head?, isBlank c = false := by
    rw [List.head?_append_of_ne_nil _ hne]
    exact (trim_eq_self_iff.mp hx).1
  have hand' : ∀ rest, x ++ y = "and".toList ++ rest → blankBefore rest = false :=
    fun _ => blankBefore_of_append_eq_and hand hne hy
  obtain ⟨us, vs, r, htokens, hus, hfront, hr, hvs⟩ := exists_of_clauses_eq_cons h hhead hand'
  have htext : x ++ y = k ++ (r ++ vs.flatMap Token.text) := by
    rw [← flatMap_tokens none (x ++ y), htokens, List.flatMap_append, hfront, List.append_assoc]
  have hs : vs.flatMap Token.text = [] ∨ ∃ s', vs.flatMap Token.text = 'a' :: s' := by
    rcases hvs with rfl | ⟨ws, rfl⟩
    · exact Or.inl rfl
    · exact Or.inr ⟨_, rfl⟩
  have hk : k.trim = k := (mem_trimAll (h ▸ List.mem_cons_self)).2.1
  obtain rfl : x = k := eq_of_append_eq hx hk hy hr hs htext hcount
  have hrest := List.append_cancel_left htext
  obtain ⟨us', ws', htokens', hus', hfront'⟩ : ∃ us' ws', tokens none (x ++ y) = us' ++ ws' ∧
      Token.separator ∉ us' ∧ us'.flatMap Token.text = x := by
    rcases hvs with rfl | ⟨ws, rfl⟩
    · -- no separator: nothing was written behind the clause
      rw [List.flatMap_nil, List.append_nil] at hrest
      obtain rfl : y = [] := by
        rcases hy with rfl | ⟨y', rfl⟩
        · rfl
        · exact absurd (hr 'a' (by simp [← hrest])) (by decide)
      exact ⟨us, [], htokens, hus, by rw [hfront, ← hrest, List.append_nil]⟩
    · -- a separator: the blank in front of it is the last token of the part
      rcases hy with rfl | ⟨y', rfl⟩
      · simp [Token.text] at hrest
      · obtain rfl := eq_space_of_append_eq hr hrest
        obtain ⟨us', rfl, hfront'⟩ := exists_of_flatMap_eq_concat htokens hus (by decide) hfront
        refine ⟨us', .plain ' ' :: .separator :: ws, ?_, by simp_all, hfront'⟩
        rw [htokens, List.append_assoc]
        rfl
  obtain ⟨hread, hopen⟩ := tokens_append_inv hblank htokens' hfront'
  rw [← hread] at hopen hus'
  exact ⟨clauses_eq_singleton hne hx hus', hopen⟩

end QueryOptions.Conjunction
