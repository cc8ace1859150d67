import QueryOptions.Proofs.Conjunction.Separable

/-!
# Clauses are in normal form

The clauses that a text is cut into are not cut any further, and joined by the word they are the
clauses of the joined text (`clauses_normal`).  This is not plain, because cutting a clause out and
writing it down elsewhere changes what stands around it, and an apostrophe in it looks ahead to the
end of the text.

Three facts settle it.  A clause stands between blanks and ends of the text, so what is at its ends
when it stands alone counts for as much as what was there before: the same apostrophes in it can
open a quote and the same can close one.

```text
   in the text       …  ▢ p ▢ and …      a blank on either side, or an end of the text
   alone             p                   an end of the text on either side
   joined            … and ▢ p ▢ and …   a blank on either side, or an end of the text
```

Second, a quoted run holds no separator, so none is cut in two.  Third, an apostrophe that was left
open found no end in all of the text, so there is none for it in the clauses that follow.  In the
words of `Separable`, the clauses of every text are separable (`separable_clauses`).
-/

namespace QueryOptions.Conjunction

open Text

/-! ## Open quotes and blanks -/

theorem leavesOpen_congr {b b' : Option Char} (h : opensAfter b = opensAfter b')
    (ts : List Token) : leavesOpen b ts = leavesOpen b' ts := by
  cases ts with
  | nil => rfl
  | cons token ts =>
      cases token with
      | quote run => rfl
      | separator => rfl
      | plain c => rw [leavesOpen, leavesOpen, h]

/-- Blanks leave no quote open, and behind them one is left open just as at the start. -/
theorem leavesOpen_blanks_append {b : Option Char} {l : Text} (hl : AllBlank l)
    (hb : l = [] → opensAfter b = true) (ts : List Token) :
    leavesOpen b (l.map Token.plain ++ ts) = leavesOpen none ts := by
  induction l generalizing b with
  | nil => exact leavesOpen_congr (hb rfl) ts
  | cons c l ih =>
      obtain ⟨hc, hl⟩ := List.forall_mem_cons.mp hl
      have hapostrophe : (c == '\'') = false := by
        rw [beq_eq_false_iff_ne]
        exact ne_apostrophe_of_blank hc
      have hopens : opensAfter (some c) = true := opensAfter_of_blankAfter hc
      rw [List.map_cons, List.cons_append, leavesOpen, hapostrophe, Bool.false_and,
        Bool.false_or]
      exact ih hl fun _ => hopens

/-! ## The first part of a text -/

section FirstPart

variable {b : Option Char} {t : Text} {us vs : List Token}

/-- In front of a separator there is a blank, so behind the trimmed part there is one. -/
theorem blankBefore_behind_part {l p r : Text} (htokens : tokens b t = us ++ vs)
    (hvs : vs = [] ∨ ∃ ws, vs = .separator :: ws) (hr : AllBlank r) (hne : p ≠ [])
    (hp : p.trim = p) (hpart : us.flatMap Token.text = l ++ p ++ r) :
    blankBefore (r ++ vs.flatMap Token.text) = true := by
  rcases hvs with rfl | ⟨ws, rfl⟩
  · exact blankBefore_blanks_append hr rfl
  · cases r with
    | cons c r => exact hr c List.mem_cons_self
    | nil =>
        obtain ⟨rest, -, hfront, -⟩ := exists_of_tokens_eq_append_separator htokens
        obtain ⟨c, hc⟩ : ∃ c, p.getLast? = some c := ⟨_, List.getLast?_eq_some_getLast hne⟩
        have hblank : isBlank c = false := (trim_eq_self_iff.mp hp).2 c hc
        rw [hpart, List.append_nil, lastOr_append, lastOr, hc] at hfront
        rw [show isBlank c = true from hfront] at hblank
        cases hblank

/-- Where a text may begin with a word, so may its first part without the blanks in front. -/
theorem blankAfter_of_part {p y : Text} (hb : blankAfter b = true ∨ blankBefore t = true)
    (hne : p ≠ []) (hp : p.trim = p) (ht : t = p ++ y) : blankAfter b = true := by
  rcases hb with hb | hb
  · exact hb
  · obtain ⟨c, p, rfl⟩ := List.exists_cons_of_ne_nil hne
    have hblank : isBlank c = false := (trim_eq_self_iff.mp hp).1 c rfl
    rw [ht] at hb
    rw [show isBlank c = true from hb] at hblank
    cases hblank

/-- The first part of a text without the blanks around it: it stands in front of a blank or of the
end, it is one clause by itself, and what it leaves open is not closed behind it. -/
theorem exists_of_first_part (hb : blankAfter b = true ∨ blankBefore t = true)
    (htokens : tokens b t = us ++ vs) (hus : Token.separator ∉ us)
    (hvs : vs = [] ∨ ∃ ws, vs = .separator :: ws) {p : Text}
    (hp : trim (us.flatMap Token.text) = p) (hne : p ≠ []) :
    ∃ l y, t = l ++ (p ++ (y ++ vs.flatMap Token.text)) ∧
      blankBefore (y ++ vs.flatMap Token.text) = true ∧ clauses p = [p] ∧
        (leavesOpen none (tokens none p) = true → close? (vs.flatMap Token.text) = none) := by
  obtain ⟨l, r, hl, hr, hpart⟩ := exists_eq_append_trim_append (us.flatMap Token.text)
  rw [hp] at hpart
  have htrim : p.trim = p := by
    rw [← hp]
    exact trim_trim _
  have ht : t = l ++ (p ++ (r ++ vs.flatMap Token.text)) := by
    rw [← flatMap_tokens b t, htokens, List.flatMap_append, hpart]
    simp
  have hblank := blankBefore_behind_part htokens hvs hr hne htrim hpart
  have hb' : l = [] → blankAfter b = true := by
    rintro rfl
    exact blankAfter_of_part hb hne htrim ht
  -- the tokens of the part are those of the blanks in front, of what is trimmed, and of the blanks
  -- behind, and those of what is trimmed are the same when it stands alone
  obtain ⟨us', hus', hfront⟩ := exists_of_flatMap_eq_append_blanks htokens hus hr hpart
  have hall : tokens b ((l ++ p) ++ (r ++ vs.flatMap Token.text)) =
      us' ++ (r.map Token.plain ++ vs) := by
    rw [List.append_assoc, ← ht, htokens, hus', List.append_assoc]
  obtain ⟨hread, hopen⟩ := tokens_append_inv hblank hall hfront
  have halone : us' = l.map Token.plain ++ tokens none p := by
    rw [← hread]
    exact tokens_blanks_append hl fun hnil => tokens_of_blankAfter (hb' hnil) p
  refine ⟨l, r, ht, hblank, clauses_eq_singleton hne htrim fun hmem => ?_, fun h => ?_⟩
  · apply hus
    rw [hus', halone]
    simp [hmem]
  · rw [halone, leavesOpen_blanks_append hl fun hnil => opensAfter_of_blankAfter (hb' hnil)]
      at hopen
    exact close?_eq_none_of_suffix (hopen h)

/-- The step of `separable_trimAll_between`: a first part, and parts of what follows it. -/
theorem separable_trimAll_cons (hb : blankAfter b = true ∨ blankBefore t = true)
    (htokens : tokens b t = us ++ vs) (hus : Token.separator ∉ us)
    (hvs : vs = [] ∨ ∃ ws, vs = .separator :: ws) {parts : List Text}
    (hparts : Separable (trimAll parts))
    (hclose : close? (vs.flatMap Token.text) = none → ∀ q ∈ trimAll parts, close? q = none) :
    Separable (trimAll (us.flatMap Token.text :: parts)) ∧
      (close? t = none → ∀ q ∈ trimAll (us.flatMap Token.text :: parts), close? q = none) := by
  have ht : t = us.flatMap Token.text ++ vs.flatMap Token.text := by
    rw [← flatMap_tokens b t, htokens, List.flatMap_append]
  by_cases hne : trim (us.flatMap Token.text) = []
  · rw [trimAll_cons_of_eq_nil hne]
    refine ⟨hparts, fun h => hclose ?_⟩
    rw [ht] at h
    exact close?_eq_none_of_suffix h
  · obtain ⟨l, y, htext, hblank, hpart, hopen⟩ :=
      exists_of_first_part hb htokens hus hvs rfl hne
    rw [trimAll_cons_of_ne_nil hne]
    refine ⟨⟨hpart, fun h => hclose (hopen h), hparts⟩, fun h => ?_⟩
    rw [htext] at h
    obtain ⟨hp, hbehind⟩ := close?_eq_none_of_append (closesBefore_of_blankBefore hblank)
      (close?_eq_none_of_suffix h)
    exact List.forall_mem_cons.mpr ⟨hp, hclose (close?_eq_none_of_suffix hbehind)⟩

end FirstPart

/-! ## All parts -/

/-- The parts of a text are separable, and they hold an end of a quote only where the text does. -/
theorem separable_trimAll_between {b : Option Char} {t : Text}
    (hb : blankAfter b = true ∨ blankBefore t = true) :
    Separable (trimAll (between (tokens b t))) ∧
      (close? t = none → ∀ p ∈ trimAll (between (tokens b t)), close? p = none) := by
  induction hn : t.length using Nat.strong_induction_on generalizing b t with
  | _ n ih =>
      by_cases hsep : Token.separator ∈ tokens b t
      · obtain ⟨us, ws, htokens, hus⟩ := List.eq_append_cons_of_mem hsep
        obtain ⟨rest, ht, -, hrest, rfl⟩ := exists_of_tokens_eq_append_separator htokens
        have hlt : rest.length < n := by
          rw [← hn, ht]
          simp
          omega
        obtain ⟨hparts, hclose⟩ := ih rest.length hlt (Or.inr hrest) rfl
        rw [htokens, between_append_of_not_mem hus]
        refine separable_trimAll_cons hb htokens hus (Or.inr ⟨_, rfl⟩) hparts fun h => hclose ?_
        rw [List.flatMap_cons, flatMap_tokens] at h
        exact close?_eq_none_of_suffix h
      · rw [between_eq_singleton hsep]
        exact separable_trimAll_cons hb (List.append_nil _).symm hsep (Or.inl rfl) trivial
          fun _ q hq => absurd hq List.not_mem_nil

/-- **The clauses of every text are separable.** -/
theorem separable_clauses (t : Text) : Separable (clauses t) :=
  (separable_trimAll_between (Or.inl rfl)).1

/-! ## The main statement -/

/-- **Clauses are in normal form.**  Each is a trimmed text that is its own only clause, and joined
by the word they are found again, whatever apostrophes the text has and whether they are closed. -/
theorem clauses_normal (t : Text) :
    (∀ p ∈ clauses t, p ≠ [] ∧ p.trim = p ∧ clauses p = [p]) ∧
      clauses (join " and ".toList (clauses t)) = clauses t := by
  constructor
  · intro p hp
    obtain ⟨hne, htrim, -⟩ := mem_trimAll hp
    exact ⟨hne, htrim, (separable_clauses t).clauses_of_mem p hp⟩
  · exact clauses_join (separable_clauses t)

/-- One quote is closed around the word, one is left open, and one apostrophe is within a name. -/
theorem clauses_normal_quotes :
    "a eq 'x and y'".toList ∈ clauses "and a eq 'x and y'\tand b eq 'O'Hara  and ".toList ∧
      clauses "a eq 'x and y'".toList = ["a eq 'x and y'".toList] ∧
        clauses "a eq 'x and y' and b eq 'O'Hara".toList =
          ["a eq 'x and y'".toList, "b eq 'O'Hara".toList] := by
  have hparts : clauses "and a eq 'x and y'\tand b eq 'O'Hara  and ".toList =
      ["a eq 'x and y'".toList, "b eq 'O'Hara".toList] := by decide +kernel
  have hmem : "a eq 'x and y'".toList ∈
      clauses "and a eq 'x and y'\tand b eq 'O'Hara  and ".toList := by
    rw [hparts]
    exact List.mem_cons_self
  obtain ⟨heach, hjoined⟩ := clauses_normal "and a eq 'x and y'\tand b eq 'O'Hara  and ".toList
  refine ⟨hmem, (heach _ hmem).2.2, ?_⟩
  rw [hparts] at hjoined
  exact hjoined

end QueryOptions.Conjunction
