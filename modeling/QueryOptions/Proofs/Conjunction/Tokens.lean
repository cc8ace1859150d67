import QueryOptions.Clause.Conjunction
import QueryOptions.Proofs.Text.Parts

/-!
# The tokens of a conjunction

`Conjunction.tokens` reads a filter from left to right and looks ahead without bound whenever an
apostrophe may open a quote.  This file states what one such look finds (`close?_append`,
`quote?_eq_some`, `separator?_eq_some`), that the tokens are the text again (`flatMap_tokens`), and
when reading a text does not depend on what follows it.

That last point is `tokens_append`.  Reading `x` in front of a `y` that begins with a blank goes as
reading `x` alone, unless `x` holds an apostrophe that could have opened a quote and found no end
in `x`, and `y` holds an end for it.  `leavesOpen` is the first half of this condition,
`close? y ≠ none` the second, and `tokens_append_inv` says that nothing less will do.
-/

namespace QueryOptions.Conjunction

/-! ## One step of the reading -/

@[simp] theorem tokens_nil (b : Option Char) : tokens b [] = [] := by
  rw [tokens]

theorem tokens_of_quote {b : Option Char} {t run rest : Text}
    (hquote : quote? b t = some (run, rest)) :
    tokens b t = .quote run :: tokens (some '\'') rest := by
  cases t with
  | nil => simp [quote?] at hquote
  | cons c t =>
      rw [tokens]
      split
      · rename_i h
        rw [hquote] at h
        cases h
        rfl
      · rename_i h
        rw [hquote] at h
        cases h

theorem tokens_of_separator {b : Option Char} {t rest : Text} (hquote : quote? b t = none)
    (hsep : separator? b t = some rest) : tokens b t = .separator :: tokens (some 'd') rest := by
  cases t with
  | nil => simp [separator?, afterWord?] at hsep
  | cons c t =>
      rw [tokens]
      split
      · rename_i h
        rw [hquote] at h
        cases h
      · split
        · rename_i h
          rw [hsep] at h
          cases h
          rfl
        · rename_i h
          rw [hsep] at h
          cases h

theorem tokens_of_plain {b : Option Char} {c : Char} {t : Text} (hquote : quote? b (c :: t) = none)
    (hsep : separator? b (c :: t) = none) :
    tokens b (c :: t) = .plain c :: tokens (some c) t := by
  rw [tokens]
  split
  · rename_i h
    rw [hquote] at h
    cases h
  · split
    · rename_i h
      rw [hsep] at h
      cases h
    · rfl

/-! ## Looking for the end of a quote -/

theorem closesBefore_of_blankBefore {t : Text} (h : blankBefore t = true) :
    closesBefore t = true := by
  cases t with
  | nil => rfl
  | cons c t =>
      have hc : isBlank c = true := h
      simp [closesBefore, hc]

theorem closesBefore_append {t u : Text} (ht : t ≠ []) :
    closesBefore (t ++ u) = closesBefore t := by
  cases t with
  | nil => exact absurd rfl ht
  | cons c t => rfl

theorem blankBefore_append {t u : Text} (ht : t ≠ []) : blankBefore (t ++ u) = blankBefore t := by
  cases t with
  | nil => exact absurd rfl ht
  | cons c t => rfl

theorem closesBefore_of_append {t u : Text} (h : closesBefore (t ++ u) = true) :
    closesBefore t = true := by
  cases t with
  | nil => rfl
  | cons c t => exact h

theorem blankBefore_of_append {t u : Text} (h : blankBefore (t ++ u) = true) :
    blankBefore t = true := by
  cases t with
  | nil => rfl
  | cons c t => exact h

/-- What a run and the rest of the text are: the run ends with the first apostrophe that can close
a quote. -/
theorem close?_eq_some {t run rest : Text} (h : close? t = some (run, rest)) :
    t = run ++ rest ∧ closesBefore rest = true ∧ ∃ inner, run = inner ++ ['\''] := by
  induction t generalizing run rest with
  | nil => simp [close?] at h
  | cons c t ih =>
      unfold close? at h
      split at h
      · rename_i hc
        cases h
        exact ⟨by simp, hc.2, [], by simp [hc.1]⟩
      · obtain ⟨⟨run', rest'⟩, hclose, heq⟩ := Option.map_eq_some_iff.mp h
        cases heq
        obtain ⟨htext, hrest, inner, hinner⟩ := ih hclose
        exact ⟨by simp [← htext], hrest, c :: inner, by simp [hinner]⟩

/-- An end that a text holds is found there, whatever follows. -/
theorem close?_append_of_some {x y run rest : Text} (hy : closesBefore y = true)
    (h : close? x = some (run, rest)) : close? (x ++ y) = some (run, rest ++ y) := by
  induction x generalizing run with
  | nil => simp [close?] at h
  | cons c x ih =>
      have hkeep : closesBefore x = true → closesBefore (x ++ y) = true := by
        intro hx
        rcases eq_or_ne x [] with rfl | hne
        · exact hy
        · rw [closesBefore_append hne, hx]
      unfold close? at h
      split at h
      · rename_i hc
        cases h
        rw [List.cons_append, close?, if_pos ⟨hc.1, hkeep hc.2⟩]
      · rename_i hc
        obtain ⟨⟨run', rest'⟩, hclose, heq⟩ := Option.map_eq_some_iff.mp h
        cases heq
        have hne : x ≠ [] := by
          rintro rfl
          simp [close?] at hclose
        rw [List.cons_append, close?, if_neg (by rwa [closesBefore_append hne]), ih hclose]
        rfl

/-- If a text holds no end, the first one is looked for in what follows. -/
theorem close?_append_of_none {x : Text} (y : Text) (h : close? x = none) :
    close? (x ++ y) = (close? y).map fun found => (x ++ found.1, found.2) := by
  induction x with
  | nil => simp
  | cons c x ih =>
      unfold close? at h
      split at h
      · cases h
      · rename_i hc
        have hrest : close? x = none := Option.map_eq_none_iff.mp h
        have hcond : ¬(c = '\'' ∧ closesBefore (x ++ y) = true) := by
          rintro ⟨rfl, hclose⟩
          rcases eq_or_ne x [] with rfl | hne
          · exact hc ⟨rfl, rfl⟩
          · exact hc ⟨rfl, by rwa [closesBefore_append hne] at hclose⟩
        rw [List.cons_append, close?, if_neg hcond, ih hrest, Option.map_map]
        rfl

/-- A text without apostrophes holds no end of a quote. -/
theorem close?_eq_none_of_not_mem {t : Text} (h : '\'' ∉ t) : close? t = none := by
  cases hclose : close? t with
  | none => rfl
  | some found =>
      obtain ⟨htext, -, inner, hinner⟩ := close?_eq_some hclose
      exact absurd (by rw [htext, hinner]; simp) h

/-! ## The two tokens that are longer than a character -/

/-- Whether a quote is looked for is settled by two characters. -/
theorem quote?_cons (b : Option Char) (c : Char) (t : Text) :
    quote? b (c :: t) =
      if c = '\'' ∧ opensAfter b = true then
        (close? t).map fun found => (c :: found.1, found.2)
      else none := rfl

/-- A quoted run: it opens with an apostrophe where a token can start and ends with the nearest
apostrophe that can close it. -/
theorem quote?_eq_some {b : Option Char} {t run rest : Text}
    (h : quote? b t = some (run, rest)) :
    t = run ++ rest ∧ opensAfter b = true ∧ closesBefore rest = true ∧
      ∃ inner, run = '\'' :: (inner ++ ['\'']) := by
  cases t with
  | nil => simp [quote?] at h
  | cons c t =>
      rw [quote?_cons] at h
      split at h
      · rename_i hc
        obtain ⟨⟨run', rest'⟩, hclose, heq⟩ := Option.map_eq_some_iff.mp h
        cases heq
        obtain ⟨htext, hrest, inner, hinner⟩ := close?_eq_some hclose
        exact ⟨by simp [← htext], hc.2, hrest, inner, by simp [hc.1, hinner]⟩
      · cases h

theorem separator?_eq_some {b : Option Char} {t rest : Text} (h : separator? b t = some rest) :
    t = 'a' :: 'n' :: 'd' :: rest ∧ blankAfter b = true ∧ blankBefore rest = true := by
  unfold separator? at h
  split at h
  · rename_i hb
    unfold afterWord? at h
    split at h
    · split at h
      · rename_i hrest
        cases h
        exact ⟨rfl, hb, hrest⟩
      · cases h
    · cases h
  · cases h

theorem separator?_and {b : Option Char} {rest : Text} (hb : blankAfter b = true)
    (hrest : blankBefore rest = true) : separator? b ('a' :: 'n' :: 'd' :: rest) = some rest := by
  rw [separator?, if_pos hb, afterWord?, if_pos hrest]

/-- Only what the character in front lets in is read. -/
theorem quote?_congr {b b' : Option Char} (h : opensAfter b = opensAfter b') (t : Text) :
    quote? b t = quote? b' t := by
  cases t with
  | nil => rfl
  | cons c t => rw [quote?_cons, quote?_cons, h]

theorem tokens_congr {b b' : Option Char} (hopens : opensAfter b = opensAfter b')
    (hblank : blankAfter b = blankAfter b') (t : Text) : tokens b t = tokens b' t := by
  have hsep : separator? b t = separator? b' t := by
    unfold separator?
    rw [hblank]
  cases hquote : quote? b t with
  | some found =>
      rw [tokens_of_quote hquote, tokens_of_quote ((quote?_congr hopens t).symm.trans hquote)]
  | none =>
      have hquote' := (quote?_congr hopens t).symm.trans hquote
      cases hrest : separator? b t with
      | some rest =>
          rw [tokens_of_separator hquote hrest,
            tokens_of_separator hquote' (hsep.symm.trans hrest)]
      | none =>
          cases t with
          | nil => simp
          | cons c t =>
              rw [tokens_of_plain hquote hrest, tokens_of_plain hquote' (hsep.symm.trans hrest)]

/-- The tokens are the text again. -/
theorem flatMap_tokens (b : Option Char) (t : Text) : (tokens b t).flatMap Token.text = t := by
  fun_induction tokens b t with
  | case1 b => rfl
  | case2 b c t run rest hquote ih =>
      rw [List.flatMap_cons, ih]
      exact (quote?_eq_some hquote).1.symm
  | case3 b c t hquote rest hsep ih =>
      rw [List.flatMap_cons, ih, (separator?_eq_some hsep).1]
      rfl
  | case4 b c t hquote hsep ih =>
      rw [List.flatMap_cons, ih]
      rfl

/-! ## Reading a text in front of another -/

/-- The character before the next one, once `t` has been read. -/
def lastOr (b : Option Char) (t : Text) : Option Char := t.getLast?.or b

@[simp] theorem lastOr_cons (b : Option Char) (c : Char) (t : Text) :
    lastOr b (c :: t) = lastOr (some c) t := by
  cases t with
  | nil => rfl
  | cons d t => simp [lastOr, List.getLast?_cons]

theorem lastOr_append (b : Option Char) (t u : Text) :
    lastOr b (t ++ u) = lastOr (lastOr b t) u := by
  induction t generalizing b with
  | nil => rfl
  | cons c t ih => rw [List.cons_append, lastOr_cons, lastOr_cons, ih]

/-- Whether some apostrophe among the tokens could have opened a quote and was left alone, which
only happens when no later apostrophe could have closed it. -/
def leavesOpen : Option Char → List Token → Bool
  | _, [] => false
  | b, .plain c :: ts => (c == '\'' && opensAfter b) || leavesOpen (some c) ts
  | _, .quote _ :: ts => leavesOpen (some '\'') ts
  | _, .separator :: ts => leavesOpen (some 'd') ts

theorem quote?_append_of_some {b : Option Char} {x y run rest : Text}
    (hy : blankBefore y = true) (h : quote? b x = some (run, rest)) :
    quote? b (x ++ y) = some (run, rest ++ y) := by
  cases x with
  | nil => simp [quote?] at h
  | cons c x =>
      rw [quote?_cons] at h
      rw [List.cons_append, quote?_cons]
      split at h
      · rename_i hc
        obtain ⟨⟨run', rest'⟩, hclose, heq⟩ := Option.map_eq_some_iff.mp h
        cases heq
        rw [if_pos hc, close?_append_of_some (closesBefore_of_blankBefore hy) hclose]
        rfl
      · cases h

/-- An apostrophe that opens no quote opens none in a longer text either, unless it could and the
end is in what has been added. -/
theorem quote?_append_of_none {b : Option Char} {c : Char} {x y : Text}
    (h : quote? b (c :: x) = none)
    (hopen : c = '\'' → opensAfter b = true → close? y = none) :
    quote? b (c :: (x ++ y)) = none := by
  rw [quote?_cons] at h ⊢
  split
  · rename_i hc
    rw [if_pos hc] at h
    rw [close?_append_of_none y (Option.map_eq_none_iff.mp h), hopen hc.1 hc.2]
    rfl
  · rfl

theorem separator?_append_of_some {b : Option Char} {x y rest : Text}
    (hy : blankBefore y = true) (h : separator? b x = some rest) :
    separator? b (x ++ y) = some (rest ++ y) := by
  obtain ⟨htext, hb, hrest⟩ := separator?_eq_some h
  rw [htext, List.cons_append, List.cons_append, List.cons_append]
  apply separator?_and hb
  rcases eq_or_ne rest [] with rfl | hne
  · exact hy
  · rwa [blankBefore_append hne]

/-- A word does not come about by adding a blank and what follows it. -/
theorem separator?_append_of_none {b : Option Char} {x y : Text} (hx : x ≠ [])
    (hy : blankBefore y = true) (h : separator? b x = none) : separator? b (x ++ y) = none := by
  cases hsep : separator? b (x ++ y) with
  | none => rfl
  | some rest =>
      obtain ⟨htext, hb, hrest⟩ := separator?_eq_some hsep
      match x, hx with
      -- `y` would have to begin inside the word, and it begins with a blank
      | [p], _ =>
          have hyn : y = 'n' :: 'd' :: rest := (List.cons.inj htext).2
          rw [hyn] at hy
          exact absurd (show isBlank 'n' = true from hy) (by decide)
      | [p, q], _ =>
          have hyd : y = 'd' :: rest := (List.cons.inj (List.cons.inj htext).2).2
          rw [hyd] at hy
          exact absurd (show isBlank 'd' = true from hy) (by decide)
      | p :: q :: r :: x, _ =>
          simp only [List.cons_append, List.cons.injEq] at htext
          obtain ⟨rfl, rfl, rfl, rfl⟩ := htext
          have hsome := separator?_and hb (blankBefore_of_append hrest)
          exact absurd (hsome.symm.trans h) (by simp)

/-- **A text is read as if nothing followed it**, if a blank follows or nothing, and if either no
quote is left open in it or what follows holds no end for one. -/
theorem tokens_append {b : Option Char} {x y : Text} (hy : blankBefore y = true)
    (hopen : leavesOpen b (tokens b x) = true → close? y = none) :
    tokens b (x ++ y) = tokens b x ++ tokens (lastOr b x) y := by
  fun_induction tokens b x with
  | case1 b => rfl
  | case2 b c x run rest hquote ih =>
      have hrun := quote?_eq_some hquote
      have hlast : lastOr b (c :: x) = lastOr (some '\'') rest := by
        obtain ⟨htext, -, -, inner, hinner⟩ := hrun
        rw [htext, hinner, List.cons_append, lastOr_cons, List.append_assoc, lastOr_append]
        exact lastOr_cons ..
      rw [hlast, tokens_of_quote (quote?_append_of_some hy hquote), ih hopen]
      rfl
  | case3 b c x hquote rest hsep ih =>
      have htext := (separator?_eq_some hsep).1
      have hlast : lastOr b (c :: x) = lastOr (some 'd') rest := by
        rw [htext, lastOr_cons, lastOr_cons, lastOr_cons]
      -- a word begins with no apostrophe, so it opens nothing here or there
      have hquote' : quote? b (c :: (x ++ y)) = none := by
        refine quote?_append_of_none hquote fun hc => ?_
        rw [hc] at htext
        exact absurd (List.cons.inj htext).1 (by decide)
      rw [hlast, List.cons_append,
        tokens_of_separator hquote' (separator?_append_of_some hy hsep), ih hopen]
      rfl
  | case4 b c x hquote hsep ih =>
      have hquote' : quote? b (c :: (x ++ y)) = none :=
        quote?_append_of_none hquote fun hc hb => hopen (by simp [leavesOpen, hc, hb])
      have hsep' : separator? b (c :: (x ++ y)) = none :=
        separator?_append_of_none (List.cons_ne_nil c x) hy hsep
      rw [lastOr_cons, List.cons_append, tokens_of_plain hquote' hsep',
        ih fun h => hopen (by simp [leavesOpen, h])]
      rfl

/-! ## Reading backwards: what a boundary between tokens says -/

/-- The run that is found depends on what follows it by one character only. -/
theorem close?_replace_rest {run rest rest' : Text} (h : close? (run ++ rest) = some (run, rest))
    (hrest' : closesBefore rest' = true) : close? (run ++ rest') = some (run, rest') := by
  induction run with
  | nil =>
      obtain ⟨-, -, inner, hinner⟩ := close?_eq_some h
      simp at hinner
  | cons c run ih =>
      rw [List.cons_append, close?] at h ⊢
      split at h
      · rename_i hc
        simp only [Option.some.injEq, Prod.mk.injEq, List.cons.injEq, true_and] at h
        obtain ⟨rfl, -⟩ := h
        rw [List.nil_append, if_pos ⟨hc.1, hrest'⟩]
      · rename_i hc
        obtain ⟨⟨run', rest''⟩, hclose, heq⟩ := Option.map_eq_some_iff.mp h
        simp only [Prod.mk.injEq, List.cons.injEq, true_and] at heq
        obtain ⟨rfl, rfl⟩ := heq
        have hne : run' ≠ [] := by
          obtain ⟨-, -, inner, hinner⟩ := close?_eq_some hclose
          simp [hinner]
        rw [if_neg (by rwa [closesBefore_append hne] at hc ⊢), ih hclose]
        rfl

theorem quote?_replace_rest {b : Option Char} {run rest rest' : Text}
    (h : quote? b (run ++ rest) = some (run, rest)) (hrest' : closesBefore rest' = true) :
    quote? b (run ++ rest') = some (run, rest') := by
  cases run with
  | nil =>
      obtain ⟨-, -, -, inner, hinner⟩ := quote?_eq_some h
      simp at hinner
  | cons c run =>
      rw [List.cons_append, quote?_cons] at h ⊢
      split at h
      · rename_i hc
        obtain ⟨⟨run', rest''⟩, hclose, heq⟩ := Option.map_eq_some_iff.mp h
        simp only [Prod.mk.injEq, List.cons.injEq, true_and] at heq
        obtain ⟨rfl, rfl⟩ := heq
        rw [if_pos hc, close?_replace_rest hclose hrest']
        rfl
      · cases h

/-- If a longer text holds no end of a quote, neither does what it ends with. -/
theorem close?_eq_none_of_append {x y : Text} (hy : closesBefore y = true)
    (h : close? (x ++ y) = none) : close? x = none ∧ close? y = none := by
  cases hx : close? x with
  | some found =>
      obtain ⟨run, rest⟩ := found
      rw [close?_append_of_some hy hx] at h
      cases h
  | none =>
      rw [close?_append_of_none y hx] at h
      exact ⟨rfl, Option.map_eq_none_iff.mp h⟩

theorem close?_eq_none_of_suffix {x y : Text} (h : close? (x ++ y) = none) : close? y = none := by
  induction x with
  | nil => exact h
  | cons c x ih =>
      rw [List.cons_append, close?] at h
      split at h
      · cases h
      · exact ih (Option.map_eq_none_iff.mp h)

/-- The step of the converse for a single character: what is no token in a longer text is none in
the shorter one, and a quote that it leaves open is not ended by what follows. -/
theorem tokens_of_plain_append {b : Option Char} {c : Char} {x y : Text} {us : List Token}
    (hy : blankBefore y = true) (hquote : quote? b (c :: (x ++ y)) = none)
    (hsep : separator? b (c :: (x ++ y)) = none) (htokens : tokens (some c) x = us)
    (hopen : leavesOpen (some c) us = true → close? y = none) :
    tokens b (c :: x) = .plain c :: us ∧
      (leavesOpen b (.plain c :: us) = true → close? y = none) := by
  have hquote' : quote? b (c :: x) = none := by
    cases h : quote? b (c :: x) with
    | none => rfl
    | some found =>
        obtain ⟨run, rest⟩ := found
        exact absurd ((quote?_append_of_some hy h).symm.trans hquote) (by simp)
  have hsep' : separator? b (c :: x) = none := by
    cases h : separator? b (c :: x) with
    | none => rfl
    | some rest => exact absurd ((separator?_append_of_some hy h).symm.trans hsep) (by simp)
  refine ⟨by rw [tokens_of_plain hquote' hsep', htokens], fun h => ?_⟩
  rw [leavesOpen, Bool.or_eq_true, Bool.and_eq_true, beq_iff_eq] at h
  rcases h with hc | h
  · rw [quote?_cons, if_pos hc] at hquote
    exact (close?_eq_none_of_append (closesBefore_of_blankBefore hy)
      (Option.map_eq_none_iff.mp hquote)).2
  · exact hopen h

/-- **The converse of `tokens_append`**: where two tokens meet at the end of `x`, the first of them
are the tokens of `x`, and if these leave a quote open then nothing in `y` could end it. -/
theorem tokens_append_inv {b : Option Char} {x y : Text} {us vs : List Token}
    (hy : blankBefore y = true) (h : tokens b (x ++ y) = us ++ vs)
    (hx : us.flatMap Token.text = x) :
    tokens b x = us ∧ (leavesOpen b us = true → close? y = none) := by
  induction us generalizing b x with
  | nil =>
      subst hx
      exact ⟨tokens_nil b, fun hopen => by simp [leavesOpen] at hopen⟩
  | cons token us ih =>
      rw [List.flatMap_cons] at hx
      subst hx
      set x := us.flatMap Token.text
      rw [List.append_assoc, List.cons_append] at h
      cases hquote : quote? b (token.text ++ (x ++ y)) with
      | some found =>
          obtain ⟨run, rest⟩ := found
          rw [tokens_of_quote hquote] at h
          obtain ⟨rfl, htail⟩ := List.cons.inj h
          have hrest : rest = x ++ y :=
            List.append_cancel_left ((quote?_eq_some hquote).1.symm)
          subst hrest
          -- behind the run stands `x` instead of `x ++ y`, and it ends the quote just as well
          have hclose : closesBefore x = true :=
            closesBefore_of_append (quote?_eq_some hquote).2.2.1
          obtain ⟨htokens, hopen⟩ := ih htail rfl
          refine ⟨?_, hopen⟩
          show tokens b (run ++ x) = _
          have hquote' : quote? b (run ++ x) = some (run, x) := quote?_replace_rest hquote hclose
          rw [tokens_of_quote hquote', htokens]
      | none =>
          cases hsep : separator? b (token.text ++ (x ++ y)) with
          | some rest =>
              rw [tokens_of_separator hquote hsep] at h
              obtain ⟨rfl, htail⟩ := List.cons.inj h
              obtain ⟨htext, hb, hrest⟩ := separator?_eq_some hsep
              have hrest' : x ++ y = rest := by simpa [Token.text] using htext
              subst hrest'
              obtain ⟨htokens, hopen⟩ := ih htail rfl
              refine ⟨?_, hopen⟩
              show tokens b ('a' :: 'n' :: 'd' :: x) = _
              have hquote' : quote? b ('a' :: 'n' :: 'd' :: x) = none := by
                rw [quote?_cons, if_neg (by simp)]
              rw [tokens_of_separator hquote' (separator?_and hb (blankBefore_of_append hrest)),
                htokens]
          | none =>
              cases htext : token.text ++ (x ++ y) with
              | nil =>
                  rw [htext, tokens_nil] at h
                  cases h
              | cons c t =>
                  rw [htext] at h hquote hsep
                  rw [tokens_of_plain hquote hsep] at h
                  obtain ⟨rfl, htail⟩ := List.cons.inj h
                  obtain rfl : x ++ y = t := (List.cons.inj htext).2
                  obtain ⟨htokens, hopen⟩ := ih htail rfl
                  exact tokens_of_plain_append hy hquote hsep htokens hopen

end QueryOptions.Conjunction
