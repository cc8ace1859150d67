import QueryOptions.Proofs.Conjunction.Tokens

/-!
# The clauses of a conjunction

The clauses are what lies between the separators of a row of tokens, trimmed.  Two facts carry
every use of them.  Tokens that hold no separator make one clause (`between_eq_singleton`), and
blanks around a separator belong to no clause, so that

```text
clauses (x ++ " and " ++ y) = clauses x ++ clauses y
```

whenever `x` is read as if nothing followed it, and as well with longer gaps on the two sides of the
word (`clauses_append_gap_and`).
-/

namespace QueryOptions.Conjunction

open Text

/-! ## Rows of tokens -/

theorem beq_separator_of_not_mem {ts : List Token} (h : Token.separator ∉ ts) :
    ∀ t ∈ ts, (t == Token.separator) = false := by
  intro t ht
  rw [beq_eq_false_iff_ne]
  rintro rfl
  exact h ht

theorem between_eq_singleton {ts : List Token} (h : Token.separator ∉ ts) :
    between ts = [ts.flatMap Token.text] := by
  unfold between
  rw [List.splitOnP_eq_singleton (beq_separator_of_not_mem h)]
  rfl

theorem between_append_separator (us vs : List Token) :
    between (us ++ .separator :: vs) = between us ++ between vs := by
  unfold between
  rw [List.splitOnP_append_cons us vs (by simp), List.map_append]

/-- Tokens behind the last separator belong to the last part. -/
theorem exists_between_append (us : List Token) {vs : List Token} (hvs : Token.separator ∉ vs) :
    ∃ parts last, between us = parts ++ [last] ∧
      between (us ++ vs) = parts ++ [last ++ vs.flatMap Token.text] := by
  obtain ⟨parts, last, hus, hboth⟩ := exists_splitOnP_append us (beq_separator_of_not_mem hvs)
  refine ⟨parts.map (·.flatMap Token.text), last.flatMap Token.text, ?_, ?_⟩
  · rw [between, hus, List.map_append, List.map_singleton]
  · rw [between, hboth, List.map_append, List.map_singleton, List.flatMap_append]

/-- Tokens in front of the first separator belong to the first part. -/
theorem exists_append_between {us : List Token} (hus : Token.separator ∉ us) (vs : List Token) :
    ∃ first parts, between vs = first :: parts ∧
      between (us ++ vs) = (us.flatMap Token.text ++ first) :: parts := by
  obtain ⟨first, parts, hvs, hboth⟩ := exists_append_splitOnP (beq_separator_of_not_mem hus) vs
  refine ⟨first.flatMap Token.text, parts.map (·.flatMap Token.text), ?_, ?_⟩
  · rw [between, hvs, List.map_cons]
  · rw [between, hboth, List.map_cons, List.flatMap_append]

theorem between_cons_of_ne {t : Token} (ht : t ≠ .separator) (ts : List Token) :
    between (t :: ts) = (between ts).modifyHead (t.text ++ ·) := by
  have hfree : Token.separator ∉ [t] := by simpa using ht.symm
  obtain ⟨first, parts, hts, hboth⟩ := exists_append_between hfree ts
  rw [List.singleton_append] at hboth
  rw [hboth, hts]
  simp

theorem between_ne_nil (ts : List Token) : between ts ≠ [] := by
  unfold between
  rw [ne_eq, List.map_eq_nil_iff]
  exact List.splitOnP_ne_nil _ ts

/-- Blank tokens around a row leave no trace in its clauses. -/
theorem trimAll_between_append {us vs : List Token} (hvs : Token.separator ∉ vs)
    (hblank : AllBlank (vs.flatMap Token.text)) :
    trimAll (between (us ++ vs)) = trimAll (between us) := by
  obtain ⟨parts, last, hus, hboth⟩ := exists_between_append us hvs
  rw [hus, hboth]
  apply trimAll_congr
  simp [trim_append_of_blank hblank]

theorem trimAll_append_between {us vs : List Token} (hus : Token.separator ∉ us)
    (hblank : AllBlank (us.flatMap Token.text)) :
    trimAll (between (us ++ vs)) = trimAll (between vs) := by
  obtain ⟨first, parts, hvs, hboth⟩ := exists_append_between hus vs
  rw [hvs, hboth]
  apply trimAll_congr
  simp [trim_append_of_blank_left hblank]

/-! ## Blanks around a text -/

theorem ne_apostrophe_of_blank {c : Char} (hc : isBlank c = true) : c ≠ '\'' := by
  rintro rfl
  exact absurd hc (by decide)

theorem ne_a_of_blank {c : Char} (hc : isBlank c = true) : c ≠ 'a' := by
  rintro rfl
  exact absurd hc (by decide)

theorem opensAfter_of_blankAfter {b : Option Char} (hb : blankAfter b = true) :
    opensAfter b = true := by
  cases b with
  | none => rfl
  | some c =>
      have hc : isBlank c = true := hb
      simp [opensAfter, hc]

/-- After a blank a text is read as at its start. -/
theorem tokens_of_blankAfter {b : Option Char} (hb : blankAfter b = true) (t : Text) :
    tokens b t = tokens none t :=
  tokens_congr (opensAfter_of_blankAfter hb) hb t

theorem tokens_cons_blank (b : Option Char) {c : Char} (hc : isBlank c = true) (t : Text) :
    tokens b (c :: t) = .plain c :: tokens none t := by
  have hquote : quote? b (c :: t) = none := by
    rw [quote?_cons, if_neg fun h => ne_apostrophe_of_blank hc h.1]
  have hsep : separator? b (c :: t) = none := by
    cases hsep : separator? b (c :: t) with
    | none => rfl
    | some rest => exact absurd (List.cons.inj (separator?_eq_some hsep).1).1 (ne_a_of_blank hc)
  have hb : blankAfter (some c) = true := hc
  rw [tokens_of_plain hquote hsep, tokens_of_blankAfter hb]

/-- Blanks in front are read one by one, and what follows them as at its start. -/
theorem tokens_blanks_append {b : Option Char} {l t : Text} (hl : AllBlank l)
    (hb : l = [] → tokens b t = tokens none t) :
    tokens b (l ++ t) = l.map Token.plain ++ tokens none t := by
  induction l generalizing b with
  | nil => exact hb rfl
  | cons c l ih =>
      obtain ⟨hc, hl⟩ := List.forall_mem_cons.mp hl
      rw [List.cons_append, tokens_cons_blank b hc, ih hl fun _ => rfl]
      rfl

theorem blankBefore_blanks_append {r t : Text} (hr : AllBlank r) (ht : blankBefore t = true) :
    blankBefore (r ++ t) = true := by
  cases r with
  | nil => exact ht
  | cons c r => exact hr c List.mem_cons_self

theorem blankBefore_gap_append {m : Text} (hm : IsGap m) (t : Text) :
    blankBefore (m ++ t) = true := by
  obtain ⟨c, m, rfl⟩ := List.exists_cons_of_ne_nil hm.ne_nil
  exact hm.blank c List.mem_cons_self

theorem close?_blanks {r : Text} (hr : AllBlank r) : close? r = none :=
  close?_eq_none_of_not_mem (hr.not_mem (by decide))

/-- Blanks behind a text do not change how it is read. -/
theorem tokens_append_blanks (b : Option Char) (t : Text) {r : Text} (hr : AllBlank r) :
    tokens b (t ++ r) = tokens b t ++ r.map Token.plain := by
  have hread : tokens (lastOr b t) r = r.map Token.plain := by
    have hblanks := tokens_blanks_append (b := lastOr b t) (t := []) hr (by simp)
    rwa [List.append_nil, tokens_nil, List.append_nil] at hblanks
  have hblank : blankBefore r = true := by
    rw [← List.append_nil r]
    exact blankBefore_blanks_append hr rfl
  rw [tokens_append hblank fun _ => close?_blanks hr, hread]

theorem flatMap_plain (t : Text) : (t.map Token.plain).flatMap Token.text = t := by
  induction t with
  | nil => rfl
  | cons c t ih =>
      rw [List.map_cons, List.flatMap_cons, ih]
      rfl

theorem separator_not_mem_plain (t : Text) : Token.separator ∉ t.map Token.plain := by
  simp

/-- Blanks around a text leave no trace in its clauses. -/
theorem clauses_blanks {l r : Text} (hl : AllBlank l) (hr : AllBlank r) (t : Text) :
    clauses (l ++ (t ++ r)) = clauses t := by
  have htokens : tokens none (l ++ (t ++ r)) =
      l.map Token.plain ++ (tokens none t ++ r.map Token.plain) := by
    rw [tokens_blanks_append hl fun _ => rfl, tokens_append_blanks none t hr]
  unfold clauses
  rw [htokens, trimAll_append_between (separator_not_mem_plain l) (by rwa [flatMap_plain]),
    trimAll_between_append (separator_not_mem_plain r) (by rwa [flatMap_plain])]

/-! ## The word between two texts -/

/-- Between gaps the word is read as a separator. -/
theorem tokens_gap_and {m m' : Text} (hm : IsGap m) (hm' : IsGap m') (b : Option Char) (t : Text) :
    tokens b (m ++ ("and".toList ++ (m' ++ t))) =
      m.map Token.plain ++ .separator :: (m'.map Token.plain ++ tokens none t) := by
  have hword : tokens none ("and".toList ++ (m' ++ t)) =
      .separator :: tokens (some 'd') (m' ++ t) := by
    have hquote : quote? none ("and".toList ++ (m' ++ t)) = none := rfl
    exact tokens_of_separator hquote (separator?_and rfl (blankBefore_gap_append hm' t))
  rw [tokens_blanks_append hm.blank fun h => absurd h hm.ne_nil, hword,
    tokens_blanks_append hm'.blank fun h => absurd h hm'.ne_nil]

theorem close?_gap_and {m m' t : Text} (hm : IsGap m) (hm' : IsGap m') (ht : close? t = none) :
    close? (m ++ ("and".toList ++ (m' ++ t))) = none := by
  rw [close?_append_of_none _ (close?_blanks hm.blank),
    close?_append_of_none _ (close?_eq_none_of_not_mem (by decide)),
    close?_append_of_none _ (close?_blanks hm'.blank), ht]
  rfl

/-- **Clauses compose**, if what is in front leaves no quote open or what follows ends none. -/
theorem clauses_append_gap_and {x y m m' : Text} (hm : IsGap m) (hm' : IsGap m')
    (h : leavesOpen none (tokens none x) = true → close? y = none) :
    clauses (x ++ (m ++ ("and".toList ++ (m' ++ y)))) = clauses x ++ clauses y := by
  have hblank := blankBefore_gap_append hm ("and".toList ++ (m' ++ y))
  have htokens : tokens none (x ++ (m ++ ("and".toList ++ (m' ++ y)))) =
      (tokens none x ++ m.map Token.plain) ++
        .separator :: (m'.map Token.plain ++ tokens none y) := by
    rw [tokens_append hblank fun hopen => close?_gap_and hm hm' (h hopen), tokens_gap_and hm hm',
      List.append_assoc]
  have hbehind : AllBlank ((m.map Token.plain).flatMap Token.text) := by
    rw [flatMap_plain]
    exact hm.blank
  have hbefore : AllBlank ((m'.map Token.plain).flatMap Token.text) := by
    rw [flatMap_plain]
    exact hm'.blank
  unfold clauses
  rw [htokens, between_append_separator, trimAll_append,
    trimAll_between_append (separator_not_mem_plain m) hbehind,
    trimAll_append_between (separator_not_mem_plain m') hbefore]

theorem close?_and (t : Text) (ht : close? t = none) : close? (" and ".toList ++ t) = none :=
  close?_gap_and isGap_space isGap_space ht

/-- The same with one blank on either side of the word. -/
theorem clauses_append_and {x y : Text}
    (h : leavesOpen none (tokens none x) = true → close? y = none) :
    clauses (x ++ " and ".toList ++ y) = clauses x ++ clauses y := by
  rw [List.append_assoc]
  exact clauses_append_gap_and isGap_space isGap_space h

end QueryOptions.Conjunction
