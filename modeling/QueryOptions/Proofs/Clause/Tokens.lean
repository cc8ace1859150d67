import QueryOptions.Proofs.Clause.Condition
import QueryOptions.Proofs.Conjunction.Separable

/-!
# The tokens of a written condition

A text that spells a condition whose property has no apostrophe is inert
(`Condition.inert_of_spells`): none of its tokens is a separator, and no apostrophe is left by
itself.  So it is one clause, and it leaves no quote open in which a later clause could end up
(`Condition.clauses_of_spells`).

Going through the text from left to right, a blank or a mark is a token like any other character;
the property is no separating word; the letters of an operator, of numbers and of truth values do
not make one up, since the word has a `d` and they have none; and a string is one quoted run, as it
stands where a token can start and in front of a place where one can end.
-/

namespace QueryOptions

open Text Conjunction

namespace Conjunction

/-! ## Inert tokens -/

/-- Tokens among which there is no separator and no apostrophe but those of quoted runs. -/
def Inert (ts : List Token) : Prop := Token.separator ∉ ts ∧ Token.plain '\'' ∉ ts

theorem inert_nil : Inert [] := ⟨List.not_mem_nil, List.not_mem_nil⟩

theorem Inert.cons_plain {c : Char} (hc : c ≠ '\'') {ts : List Token} (h : Inert ts) :
    Inert (.plain c :: ts) := by
  refine ⟨by simp [h.1], ?_⟩
  rw [List.mem_cons, not_or]
  refine ⟨fun heq => hc ?_, h.2⟩
  cases heq
  rfl

/-- Nothing is left open without an apostrophe that stands for itself. -/
theorem leavesOpen_eq_false {ts : List Token} (h : Token.plain '\'' ∉ ts) (b : Option Char) :
    leavesOpen b ts = false := by
  fun_induction leavesOpen b ts with
  | case1 => rfl
  | case2 b c ts ih =>
      rw [List.mem_cons, not_or] at h
      have hc : (c == '\'') = false := by
        rw [beq_eq_false_iff_ne]
        rintro rfl
        exact h.1 rfl
      rw [hc, ih h.2]
      rfl
  | case3 b run ts ih => exact ih fun hmem => h (List.mem_cons_of_mem _ hmem)
  | case4 b ts ih => exact ih fun hmem => h (List.mem_cons_of_mem _ hmem)

theorem leavesOpen_of_inert {ts : List Token} (h : Inert ts) (b : Option Char) :
    leavesOpen b ts = false :=
  leavesOpen_eq_false h.2 b

/-! ## Runs of ordinary characters -/

theorem separator?_cons_of_ne {b : Option Char} {c : Char} (hc : c ≠ 'a') (t : Text) :
    separator? b (c :: t) = none := by
  cases h : separator? b (c :: t) with
  | none => rfl
  | some rest => exact absurd (List.cons.inj (separator?_eq_some h).1).1 hc

theorem quote?_cons_of_ne {b : Option Char} {c : Char} (hc : c ≠ '\'') (t : Text) :
    quote? b (c :: t) = none := by
  rw [quote?_cons, if_neg fun h => hc h.1]

/-- A character that begins neither a quote nor the word is a token. -/
theorem inert_cons {b : Option Char} {c : Char} {t : Text} (hquote : c ≠ '\'') (ha : c ≠ 'a')
    (h : Inert (tokens (some c) t)) : Inert (tokens b (c :: t)) := by
  rw [tokens_of_plain (quote?_cons_of_ne hquote t) (separator?_cons_of_ne ha t)]
  exact h.cons_plain hquote

/-- Letters without a `d` do not make up the word, not even with what follows. -/
theorem inert_append_of_no_d {b : Option Char} {w t : Text} (hquote : '\'' ∉ w) (hd : 'd' ∉ w)
    (ht : ∀ c ∈ t.head?, c ≠ 'n' ∧ c ≠ 'd') (h : Inert (tokens (lastOr b w) t)) :
    Inert (tokens b (w ++ t)) := by
  induction w generalizing b with
  | nil => exact h
  | cons c w ih =>
      rw [List.mem_cons, not_or] at hquote hd
      rw [lastOr_cons] at h
      have hsep : separator? b (c :: (w ++ t)) = none := by
        cases hsep : separator? b (c :: (w ++ t)) with
        | none => rfl
        | some rest =>
            obtain ⟨-, htext⟩ := List.cons.inj (separator?_eq_some hsep).1
            -- the `d` of the word would be in `w`, or the `n` or the `d` at the start of `t`
            match w, hd.2 with
            | [], _ =>
                have hn : t = 'n' :: 'd' :: rest := htext
                exact absurd rfl (ht 'n' (by rw [hn]; rfl)).1
            | [e], _ =>
                have hd : t = 'd' :: rest := (List.cons.inj htext).2
                exact absurd rfl (ht 'd' (by rw [hd]; rfl)).2
            | e :: f :: w, hd =>
                obtain ⟨rfl, -⟩ := List.cons.inj (List.cons.inj htext).2
                exact absurd (by simp) hd
      rw [List.cons_append, tokens_of_plain (quote?_cons_of_ne (Ne.symm hquote.1) _) hsep]
      exact (ih hquote.2 hd.2 h).cons_plain (Ne.symm hquote.1)

/-- Inside a word no separator begins. -/
theorem inert_append_of_no_blank {b : Option Char} (hb : blankAfter b = false) {w t : Text}
    (hw : ∀ c ∈ w, isBlank c = false) (hquote : '\'' ∉ w)
    (h : Inert (tokens (lastOr b w) t)) : Inert (tokens b (w ++ t)) := by
  induction w generalizing b with
  | nil => exact h
  | cons c w ih =>
      rw [List.mem_cons, not_or] at hquote
      rw [lastOr_cons] at h
      have hsep : separator? b (c :: (w ++ t)) = none := by
        rw [separator?, hb]
        rfl
      rw [List.cons_append, tokens_of_plain (quote?_cons_of_ne (Ne.symm hquote.1) _) hsep]
      refine Inert.cons_plain (Ne.symm hquote.1) ?_
      exact ih (hw c List.mem_cons_self) (fun d hd => hw d (List.mem_cons_of_mem c hd)) hquote.2 h

/-- Blanks are read one by one, wherever they stand. -/
theorem inert_blanks_append {b : Option Char} {l t : Text} (hl : AllBlank l)
    (hnone : Inert (tokens none t)) (hb : Inert (tokens b t)) : Inert (tokens b (l ++ t)) := by
  induction l generalizing b with
  | nil => exact hb
  | cons c l ih =>
      obtain ⟨hc, hl⟩ := List.forall_mem_cons.mp hl
      rw [List.cons_append, tokens_cons_blank b hc]
      exact (ih hl hnone).cons_plain (ne_apostrophe_of_blank hc)

theorem inert_gap_append {b : Option Char} {m t : Text} (hm : IsGap m)
    (h : Inert (tokens none t)) : Inert (tokens b (m ++ t)) := by
  obtain ⟨c, m, rfl⟩ := List.exists_cons_of_ne_nil hm.ne_nil
  obtain ⟨hc, hm⟩ := List.forall_mem_cons.mp hm.blank
  rw [List.cons_append, tokens_cons_blank b hc]
  exact (inert_blanks_append hm h h).cons_plain (ne_apostrophe_of_blank hc)

/-- A word in front of a blank is the separating word, if a text begins with both. -/
theorem blankBefore_of_word_append {w t rest : Text} (hw : ∀ c ∈ w, isBlank c = false)
    (hand : w ≠ "and".toList) (ht : blankBefore t = true) (h : w ++ t = "and".toList ++ rest) :
    blankBefore rest = false := by
  rw [Bool.eq_false_iff]
  intro hrest
  have hstop : ∀ u : Text, blankBefore u = true → u.takeWhile (!isBlank ·) = [] := by
    intro u hu
    cases u with
    | nil => rfl
    | cons c u =>
        have hc : isBlank c = true := hu
        simp [hc]
  have hword : ∀ u : Text, (∀ c ∈ u, isBlank c = false) → ∀ y, blankBefore y = true →
      (u ++ y).takeWhile (!isBlank ·) = u := by
    intro u hu y hy
    rw [List.takeWhile_append_of_pos fun c hc => by rw [hu c hc]; rfl, hstop y hy, List.append_nil]
  apply hand
  calc w = (w ++ t).takeWhile (!isBlank ·) := (hword w hw t ht).symm
    _ = ("and".toList ++ rest).takeWhile (!isBlank ·) := by rw [h]
    _ = "and".toList := hword _ (by decide) rest hrest

/-- A word other than the separating one is no separator. -/
theorem inert_word_append {b : Option Char} {w m t : Text} (hw : ∀ c ∈ w, isBlank c = false)
    (hquote : '\'' ∉ w) (hand : w ≠ "and".toList) (hm : IsGap m) (h : Inert (tokens none t)) :
    Inert (tokens b (w ++ (m ++ t))) := by
  have hsep : separator? b (w ++ (m ++ t)) = none := by
    cases hsep : separator? b (w ++ (m ++ t)) with
    | none => rfl
    | some rest =>
        obtain ⟨htext, -, hrest⟩ := separator?_eq_some hsep
        rw [blankBefore_of_word_append hw hand (blankBefore_gap_append hm t) htext] at hrest
        cases hrest
  cases w with
  | nil =>
      rw [List.nil_append]
      exact inert_gap_append hm h
  | cons c w =>
      rw [List.mem_cons, not_or] at hquote
      rw [List.cons_append] at hsep ⊢
      rw [tokens_of_plain (quote?_cons_of_ne (Ne.symm hquote.1) _) hsep]
      refine Inert.cons_plain (Ne.symm hquote.1) ?_
      have hc : blankAfter (some c) = false := hw c List.mem_cons_self
      exact inert_append_of_no_blank hc
        (fun d hd => hw d (List.mem_cons_of_mem c hd)) hquote.2 (inert_gap_append hm h)

/-- A quoted text is one quoted run, whatever it holds but an apostrophe. -/
theorem tokens_quoted_append {b : Option Char} {s t : Text} (hs : '\'' ∉ s)
    (hb : opensAfter b = true) (ht : closesBefore t = true) :
    tokens b (quoted s ++ t) = .quote (quoted s) :: tokens (some '\'') t := by
  have hclose : close? (s ++ '\'' :: t) = some (s ++ ['\''], t) := by
    rw [close?_append_of_none _ (close?_eq_none_of_not_mem hs), close?, if_pos ⟨rfl, ht⟩]
    rfl
  have hquote : quote? b (quoted s ++ t) = some (quoted s, t) := by
    have htext : quoted s ++ t = '\'' :: (s ++ '\'' :: t) := by simp [quoted]
    rw [htext, quote?_cons, if_pos ⟨rfl, hb⟩, hclose]
    rfl
  exact tokens_of_quote hquote

theorem inert_quoted_append {b : Option Char} {s t : Text} (hs : '\'' ∉ s)
    (hb : opensAfter b = true) (ht : closesBefore t = true)
    (h : Inert (tokens (some '\'') t)) : Inert (tokens b (quoted s ++ t)) := by
  rw [tokens_quoted_append hs hb ht]
  exact ⟨by simp [h.1], by simp [h.2]⟩

end Conjunction

/-! ## The parts of a condition -/

namespace Literal

theorem inert_text_append {l : Literal} (hl : l.Canonical) {b : Option Char} {t : Text}
    (hb : opensAfter b = true) (ht : closesBefore t = true)
    (h : Inert (tokens (lastOr b l.text) t)) : Inert (tokens b (l.text ++ t)) := by
  rcases bare_or_quoted hl with hbare | ⟨s, hs, htext, -⟩
  · refine inert_append_of_no_d (hbare.not_mem (by decide) (by decide))
      (hbare.not_mem (by decide) (by decide)) (fun c hc => ?_) h
    cases t with
    | nil => cases hc
    | cons d t =>
        obtain rfl : d = c := by simpa using hc
        have hd : (isBlank d || d == ')' || d == ',') = true := ht
        constructor
        · rintro rfl
          exact absurd hd (by decide)
        · rintro rfl
          exact absurd hd (by decide)
  · rw [htext] at h ⊢
    have hlast : lastOr b (quoted s) = some '\'' := by
      simp [lastOr, quoted, List.getLast?_cons]
    rw [hlast] at h
    exact inert_quoted_append hs hb ht h

theorem closesBefore_blanks_append {r t : Text} (hr : AllBlank r) (ht : closesBefore t = true) :
    closesBefore (r ++ t) = true := by
  cases r with
  | nil => exact ht
  | cons c r =>
      have hc : isBlank c = true := hr c List.mem_cons_self
      simp [closesBefore, hc]

/-- The same with blanks around the literal. -/
theorem inert_padded_append {l : Literal} (hl : l.Canonical) {p : Text} (hp : Padded l.text p)
    {b : Option Char} {t : Text} (hb : opensAfter b = true) (ht : closesBefore t = true)
    (h : ∀ b, Inert (tokens b t)) : Inert (tokens b (p ++ t)) := by
  obtain ⟨front, back, hfront, hback, rfl⟩ := hp
  have hbehind : ∀ b, Inert (tokens b (back ++ t)) :=
    fun b => inert_blanks_append hback (h none) (h b)
  have hread : ∀ b, opensAfter b = true → Inert (tokens b (l.text ++ (back ++ t))) :=
    fun b hb => inert_text_append hl hb (closesBefore_blanks_append hback ht) (hbehind _)
  rw [List.append_assoc, List.append_assoc]
  exact inert_blanks_append hfront (hread none rfl) (hread b hb)

end Literal

namespace Operand

theorem inert_join_append {ls : List Literal} {ps : List Text}
    (hps : List.Forall₂ (fun l p => Padded (Literal.text l) p) ls ps)
    (hls : ∀ l ∈ ls, l.Canonical) {b : Option Char} {t : Text} (hb : opensAfter b = true)
    (ht : closesBefore t = true) (h : ∀ b, Inert (tokens b t)) :
    Inert (tokens b (join [','] ps ++ t)) := by
  induction hps generalizing b with
  | nil => exact h b
  | @cons l p ls ps hp hrest ih =>
      obtain ⟨hl, hls⟩ := List.forall_mem_cons.mp hls
      cases ps with
      | nil =>
          rw [join, List.intercalate_singleton]
          exact Literal.inert_padded_append hl hp hb ht h
      | cons q ps =>
          have hjoin : join [','] (p :: q :: ps) ++ t =
              p ++ ',' :: (join [','] (q :: ps) ++ t) := by
            simp [join, List.intercalate_cons_cons]
          rw [hjoin]
          -- the comma ends a quote, and behind it another can begin
          refine Literal.inert_padded_append hl hp hb rfl fun b => ?_
          exact inert_cons (by decide) (by decide) (ih hls rfl)

/-- **A written operand is inert.** -/
theorem inert_of_spells {operator : Operator} {v : Operand} {t : Text} (hv : v.Canonical operator)
    (h : v.Spells t) : Inert (tokens none t) := by
  cases h with
  | single l =>
      rw [← List.append_nil l.text]
      refine Literal.inert_text_append hv.2 rfl rfl ?_
      rw [tokens_nil]
      exact inert_nil
  | list hps =>
      refine inert_cons (by decide) (by decide) ?_
      refine inert_join_append hps (fun l hl => (hv.2.2 l hl).1) rfl rfl fun b => ?_
      refine inert_cons (by decide) (by decide) ?_
      rw [tokens_nil]
      exact inert_nil

end Operand

namespace Condition

theorem text_eq (c : Condition) :
    c.text = c.property ++ ' ' :: (c.operator.code ++ ' ' :: c.operand.text) := by
  simp [text]

/-- The text of a condition does not begin with the separating word. -/
theorem blankBefore_of_text_eq {c : Condition} (hc : c.WellFormed) {rest : Text}
    (h : c.text = "and".toList ++ rest) : blankBefore rest = false := by
  rw [text_eq] at h
  exact blankBefore_of_word_append hc.property_not_blank hc.property_ne_and rfl h

/-- **A written condition is inert** if its property has no apostrophe. -/
theorem inert_of_spells {c : Condition} {s : Text} (hc : c.WellFormed)
    (hquote : '\'' ∉ c.property) (h : c.Spells s) : Inert (tokens none s) := by
  obtain ⟨m, code, m', v, hm, hcode, hm', hv, rfl⟩ := h
  have hapostrophe : '\'' ∉ code := by
    apply not_mem_of_lower_eq hcode (by decide)
    cases c.operator <;> decide
  have hletter : 'd' ∉ code := by
    apply not_mem_of_lower_eq hcode (by decide)
    cases c.operator <;> decide
  refine inert_word_append hc.property_not_blank hquote hc.property_ne_and hm ?_
  refine inert_append_of_no_d hapostrophe hletter ?_ ?_
  · rw [List.head?_append_of_ne_nil _ hm'.ne_nil]
    intro d hd
    have hblank : isBlank d = true := hm'.blank d (List.mem_of_mem_head? hd)
    constructor
    · rintro rfl
      exact absurd hblank (by decide)
    · rintro rfl
      exact absurd hblank (by decide)
  · exact inert_gap_append hm' (Operand.inert_of_spells hc.operand hv)

/-- So it is one clause, and leaves no quote open. -/
theorem clauses_of_spells {c : Condition} {s : Text} (hc : c.WellFormed)
    (hquote : '\'' ∉ c.property) (h : c.Spells s) :
    clauses s = [s] ∧ leavesOpen none (tokens none s) = false := by
  have hinert := inert_of_spells hc hquote h
  obtain ⟨hne, htrim⟩ := h.part hc
  exact ⟨clauses_eq_singleton hne htrim hinert.1, leavesOpen_of_inert hinert none⟩

end Condition

end QueryOptions
