import QueryOptions.Proofs.Clause.Letters
import QueryOptions.Proofs.Clause.Tokens
import QueryOptions.Proofs.Conjunction.Runs

/-!
# Quotes that are left open

Two texts with ` and ` between them have the clauses of the one and then the clauses of the other,
if the first of them leaves no quote open.  This file says by positions what that means
(`LeavesQuoteOpen`) and that nothing less will do (`clauses_append_and_iff`).

A quote is left open by an apostrophe that reading meets outside all quoted runs, that could open
a run, and for which the text has no end.  For such a text there is one continuation that always
does harm, a lone apostrophe.  It stands at the end, so it can close, and nothing before it could:

```text
x          … 'b …                the apostrophe in front of b stands for itself
'          a clause of its own
x and '    … 'b … and '          one run from there to the end, so the last clause is longer
```
-/

namespace QueryOptions.Conjunction

open Text

/-! ## By positions -/

/-- The apostrophe at this position is outside the runs and could open one, but no later apostrophe
can close it. -/
def LeftOpenAt (t : Text) (runs : List (ℕ × ℕ)) (i : ℕ) : Prop :=
  CanOpenAt t i ∧ (∀ j, i < j → ¬ CanCloseAt t j) ∧ ∀ run ∈ runs, i < run.1 ∨ run.2 < i

/-- Among what is outside the quoted runs of the text there is an apostrophe that is left open. -/
def LeavesQuoteOpen (t : Text) : Prop :=
  ∃ runs, QuotedRuns t 0 runs ∧ ∃ i, LeftOpenAt t runs i

theorem LeftOpenAt.lt_length {t : Text} {runs : List (ℕ × ℕ)} {i : ℕ} (h : LeftOpenAt t runs i) :
    i < t.length := by
  obtain ⟨⟨hchar, -⟩, -⟩ := h
  exact (List.getElem?_eq_some_iff.mp hchar).1

/-- A run that ends before a position does not count there. -/
theorem leftOpenAt_cons_iff {t : Text} {runs : List (ℕ × ℕ)} {opening closing i : ℕ}
    (h : closing < i) :
    LeftOpenAt t ((opening, closing) :: runs) i ↔ LeftOpenAt t runs i := by
  simp [LeftOpenAt, h]

/-- Where a plain token stands, an apostrophe is left open if it could have opened a quote. -/
theorem leftOpenAt_length_append {front t : Text} {c : Char} {runs : List (ℕ × ℕ)}
    (hquote : quote? front.getLast? (c :: t) = none)
    (hruns : ∀ run ∈ runs, front.length < run.1) :
    LeftOpenAt (front ++ c :: t) runs front.length ↔
      c = '\'' ∧ opensAfter front.getLast? = true := by
  constructor
  · rintro ⟨hopen, -⟩
    exact canOpenAt_length_append.mp hopen
  · intro hc
    have hopen : CanOpenAt (front ++ c :: t) front.length := canOpenAt_length_append.mpr hc
    refine ⟨hopen, fun j hj hclose => ?_, fun run hrun => Or.inl (hruns run hrun)⟩
    exact not_opensAt_of_quote?_eq_none hquote ⟨hopen, j, hj, hclose⟩

/-- **Reading leaves a quote open** where an apostrophe is left open by its position. -/
theorem leavesOpen_iff_exists_leftOpenAt (front t : Text) :
    leavesOpen front.getLast? (tokens front.getLast? t) = true ↔
      ∃ i, front.length ≤ i ∧
        LeftOpenAt (front ++ t) (runsFrom front.length (tokens front.getLast? t)) i := by
  generalize hb : front.getLast? = b
  fun_induction tokens b t generalizing front with
  | case1 b =>
      refine iff_of_false (by simp [leavesOpen]) ?_
      rintro ⟨i, hi, hopen⟩
      have hlt := hopen.lt_length
      rw [List.append_nil] at hlt
      omega
  | case2 b c t run rest hquote ih =>
      subst hb
      obtain ⟨htext, -, -, inner, hinner⟩ := quote?_eq_some hquote
      have hpos : 0 < run.length := by simp [hinner]
      have hrest := ih (front ++ run) (by
        rw [hinner, ← List.cons_append, ← List.append_assoc, List.getLast?_concat])
      rw [List.append_assoc, ← htext, List.length_append] at hrest
      rw [leavesOpen, runsFrom, hrest]
      -- no position inside the run counts, and behind it the run makes no difference
      refine exists_congr fun i => ?_
      constructor
      · rintro ⟨hi, hopen⟩
        exact ⟨by omega, (leftOpenAt_cons_iff (by omega)).mpr hopen⟩
      · rintro ⟨hi, hopen⟩
        have houtside := hopen.2.2 _ List.mem_cons_self
        simp only at houtside
        have hbehind : front.length + (run.length - 1) < i := by omega
        exact ⟨by omega, (leftOpenAt_cons_iff hbehind).mp hopen⟩
  | case3 b c t hquote rest hsep ih =>
      subst hb
      have htext := (separator?_eq_some hsep).1
      have hrest := ih (front ++ "and".toList) (by simp)
      have hwhole : front ++ "and".toList ++ rest = front ++ c :: t := by
        rw [htext]
        simp
      rw [hwhole, List.length_append] at hrest
      rw [leavesOpen, runsFrom]
      refine hrest.trans (exists_congr fun i => and_congr_left fun hopen => ?_)
      -- the letters of the word are no apostrophes
      refine ⟨fun hi => (Nat.le_add_right ..).trans hi, fun hi => ?_⟩
      exact not_lt.mp (not_apostrophe_of_word (htext ▸ hopen.1.1) hi)
  | case4 b c t hquote hsep ih =>
      subst hb
      have hrest := ih (front ++ [c]) (by simp)
      rw [List.append_assoc, List.length_append, List.length_singleton] at hrest
      have hruns : ∀ run ∈ runsFrom (front.length + 1) (tokens (some c) t), front.length < run.1 :=
        fun run hrun => le_of_mem_runsFrom hrun
      have hhere := leftOpenAt_length_append hquote hruns
      rw [leavesOpen, runsFrom, Bool.or_eq_true, Bool.and_eq_true, beq_iff_eq, hrest, ← hhere]
      constructor
      · rintro (hopen | ⟨i, hi, hopen⟩)
        · exact ⟨front.length, Nat.le_refl _, hopen⟩
        · exact ⟨i, by omega, hopen⟩
      · rintro ⟨i, hi, hopen⟩
        rcases hi.eq_or_lt with rfl | hlt
        · exact Or.inl hopen
        · exact Or.inr ⟨i, hlt, hopen⟩

theorem leavesOpen_iff_leavesQuoteOpen (t : Text) :
    leavesOpen none (tokens none t) = true ↔ LeavesQuoteOpen t := by
  have hiff := leavesOpen_iff_exists_leftOpenAt [] t
  have hruns : QuotedRuns t 0 (runsFrom 0 (tokens none t)) := quotedRuns_runsFrom [] t
  constructor
  · intro h
    obtain ⟨i, -, hopen⟩ := hiff.mp h
    exact ⟨_, hruns, i, hopen⟩
  · rintro ⟨runs, hruns', i, hopen⟩
    rw [hruns.unique hruns'] at hopen
    exact hiff.mpr ⟨i, Nat.zero_le i, hopen⟩

/-! ## What ends the quote -/

/-- If the text leaves a quote open and what follows holds its first end where it ends itself, then
one run goes from the open apostrophe to the end. -/
theorem exists_tokens_append_of_leavesOpen {b : Option Char} {x y : Text}
    (hblank : blankBefore y = true) (hy : close? y = some (y, []))
    (hopen : leavesOpen b (tokens b x) = true) :
    ∃ us inner, tokens b (x ++ y) = us ++ [.quote ('\'' :: (inner ++ y))] := by
  fun_induction tokens b x with
  | case1 b => simp [leavesOpen] at hopen
  | case2 b c x run rest hquote ih =>
      obtain ⟨us, inner, htokens⟩ := ih hopen
      refine ⟨.quote run :: us, inner, ?_⟩
      rw [tokens_of_quote (quote?_append_of_some hblank hquote), htokens]
      rfl
  | case3 b c x hquote rest hsep ih =>
      obtain ⟨us, inner, htokens⟩ := ih hopen
      have htext := (separator?_eq_some hsep).1
      have hquote' : quote? b (c :: x ++ y) = none := by
        rw [htext]
        exact quote?_cons_of_ne (by decide) _
      refine ⟨.separator :: us, inner, ?_⟩
      rw [tokens_of_separator hquote' (separator?_append_of_some hblank hsep), htokens]
      rfl
  | case4 b c x hquote hsep ih =>
      rw [List.cons_append]
      by_cases hc : c = '\'' ∧ opensAfter b = true
      · -- this is the apostrophe: it has no end in `x`, so it takes the one in `y`
        have hx : close? x = none := by
          rw [quote?_cons, if_pos hc] at hquote
          exact Option.map_eq_none_iff.mp hquote
        have hrun : quote? b (c :: (x ++ y)) = some ('\'' :: (x ++ y), []) := by
          rw [quote?_cons, if_pos hc, close?_append_of_none y hx, hy, hc.1]
          rfl
        refine ⟨[], x, ?_⟩
        rw [tokens_of_quote hrun, tokens_nil]
        rfl
      · have hrest : leavesOpen (some c) (tokens (some c) x) = true := by
          rw [leavesOpen, Bool.or_eq_true, Bool.and_eq_true, beq_iff_eq] at hopen
          exact hopen.resolve_left hc
        obtain ⟨us, inner, htokens⟩ := ih hrest
        have hquote' : quote? b (c :: (x ++ y)) = none :=
          quote?_append_of_none hquote fun h h' => absurd ⟨h, h'⟩ hc
        have hsep' : separator? b (c :: (x ++ y)) = none :=
          separator?_append_of_none (List.cons_ne_nil c x) hblank hsep
        refine ⟨.plain c :: us, inner, ?_⟩
        rw [tokens_of_plain hquote' hsep', htokens]
        rfl

/-- An apostrophe by itself is a clause. -/
theorem clauses_apostrophe : clauses ['\''] = [['\'']] := by
  refine clauses_eq_singleton (by decide) (by decide) ?_
  rw [tokens_of_plain rfl rfl, tokens_nil]
  simp

theorem close?_and_apostrophe :
    close? (" and ".toList ++ ['\'']) = some (" and ".toList ++ ['\''], []) := by
  rw [close?_append_of_none _ (close?_eq_none_of_not_mem (by decide))]
  rfl

/-- **An apostrophe at the end is no clause** behind a text that leaves a quote open. -/
theorem clauses_append_apostrophe_ne {x : Text} (hopen : leavesOpen none (tokens none x) = true) :
    clauses (x ++ " and ".toList ++ ['\'']) ≠ clauses x ++ clauses ['\''] := by
  obtain ⟨us, inner, htokens⟩ := exists_tokens_append_of_leavesOpen rfl close?_and_apostrophe hopen
  have hfree : Token.separator ∉ [Token.quote ('\'' :: (inner ++ (" and ".toList ++ ['\''])))] := by
    simp
  obtain ⟨parts, last, -, hbetween⟩ := exists_between_append us hfree
  obtain ⟨part, hpart⟩ : ∃ part, part = last ++ '\'' :: (inner ++ (" and ".toList ++ ['\''])) :=
    ⟨_, rfl⟩
  rw [List.flatMap_singleton, Token.text, ← hpart] at hbetween
  -- the last clause has the letters of the word, and the apostrophe has none
  have ha : 'a' ∈ part := by simp [hpart]
  have hne : trim part ≠ [] := by
    intro hnil
    have hblank := trim_eq_nil_iff.mp hnil 'a' ha
    exact absurd hblank (by decide)
  have hlast : trimAll [part] = [trim part] := by simp [trimAll, hne]
  intro h
  rw [List.append_assoc, clauses, htokens, hbetween, trimAll_append, hlast, clauses_apostrophe] at h
  have htrim : trim part = ['\''] := (List.cons.inj (List.append_inj' h rfl).2).1
  have hcount := count_trim part
  rw [htrim] at hcount
  exact List.count_eq_zero.mp hcount.symm ha

/-! ## The main statement -/

theorem plain_not_mem_tokens {b : Option Char} {c : Char} {t : Text} (hc : c ∉ t) :
    Token.plain c ∉ tokens b t := by
  intro hmem
  apply hc
  rw [← flatMap_tokens b t]
  exact List.mem_flatMap.mpr ⟨_, hmem, List.mem_singleton_self c⟩

/-- A text that ends with a quoted string and has no other apostrophe leaves no quote open. -/
theorem leavesOpen_quoted {t s : Text} (ht : '\'' ∉ t) (hs : '\'' ∉ s) :
    leavesOpen none (tokens none (t ++ ' ' :: quoted s)) = false := by
  have hopen : leavesOpen none (tokens none t) = false :=
    leavesOpen_eq_false (plain_not_mem_tokens ht) none
  have hquoted : tokens (lastOr none t) (' ' :: quoted s) = [.plain ' ', .quote (quoted s)] := by
    have hrun := tokens_quoted_append (b := none) (t := []) hs rfl rfl
    rw [List.append_nil, tokens_nil] at hrun
    rw [tokens_cons_blank _ (by decide), hrun]
  have htokens := tokens_append (b := none) (x := t) (y := ' ' :: quoted s) rfl (by simp [hopen])
  rw [htokens, hquoted]
  refine leavesOpen_eq_false ?_ none
  rw [List.mem_append, not_or]
  exact ⟨plain_not_mem_tokens ht, by simp⟩

/-- **Clauses compose** behind a text, whatever follows it, exactly if the text leaves no quote
open.  They do behind every comparison with a quoted string, even one that holds the word. -/
theorem clauses_append_and_iff :
    (∀ x, (∀ y, clauses (x ++ " and ".toList ++ y) = clauses x ++ clauses y) ↔
        ¬ LeavesQuoteOpen x) ∧
      ∀ p s, '\'' ∉ p → '\'' ∉ s → ¬ LeavesQuoteOpen (p ++ " eq ".toList ++ quoted s) := by
  constructor
  · intro x
    rw [← leavesOpen_iff_leavesQuoteOpen]
    constructor
    · intro h hopen
      exact clauses_append_apostrophe_ne hopen (h ['\''])
    · intro h y
      exact clauses_append_and fun hopen => absurd hopen h
  · intro p s hp hs
    have hfront : '\'' ∉ p ++ " eq".toList := by simp [hp]
    have htext : p ++ " eq ".toList ++ quoted s = p ++ " eq".toList ++ ' ' :: quoted s := by simp
    rw [← leavesOpen_iff_leavesQuoteOpen, htext, leavesOpen_quoted hfront hs]
    exact Bool.false_ne_true

/-- Where the word is quoted nothing is left open, and where the quote has no end one is. -/
theorem not_leavesQuoteOpen_title :
    ¬ LeavesQuoteOpen "title eq 'Sand and Sea'".toList ∧
      LeavesQuoteOpen "title eq 'Sand and Sea".toList ∧
        ¬ ∀ y, clauses ("title eq 'Sand and Sea".toList ++ " and ".toList ++ y) =
          clauses "title eq 'Sand and Sea".toList ++ clauses y := by
  have hopen : LeavesQuoteOpen "title eq 'Sand and Sea".toList :=
    (leavesOpen_iff_leavesQuoteOpen _).mp (by decide +kernel)
  refine ⟨?_, hopen, fun h => (clauses_append_and_iff.1 _).mp h hopen⟩
  exact clauses_append_and_iff.2 "title".toList "Sand and Sea".toList (by decide) (by decide)

end QueryOptions.Conjunction
