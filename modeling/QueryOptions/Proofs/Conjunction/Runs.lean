import Mathlib.Data.List.Range
import QueryOptions.Proofs.Conjunction.Clauses

/-!
# Quoted runs and separators by their positions

`Conjunction.clauses` reads tokens one after the other.  This file says what it computes without
any reading: which positions of a text belong to a quoted run, which hold a separating word, and
that the clauses are the texts between these words.

* **Runs.**  An apostrophe *can open* at the start and after a blank, `(` or `,`; it *can close* at
  the end and before a blank, `)` or `,`.  A run opens at the first apostrophe that can open and has
  a later one that can close, it closes at the nearest such, and the search goes on behind it
  (`NextRun`, `QuotedRuns`).
* **Separators.**  The word `and` separates where it stands between blanks or ends of the text and
  outside all runs (`IsSeparatorAt`).
* **Clauses.**  The text is cut at all separators (`cutAt`), and what is left is trimmed.

The bridge is that a row of tokens carries both lists of positions, `runsFrom` and
`separatorsFrom`, and that reading one token moves along both.
-/

namespace QueryOptions.Conjunction

open Text

/-! ## What stands at a position -/

/-- The character before a position, none at the start. -/
def charBefore (t : Text) (i : ℕ) : Option Char := (t.take i).getLast?

/-- An apostrophe at this position can open a quote. -/
def CanOpenAt (t : Text) (i : ℕ) : Prop :=
  t[i]? = some '\'' ∧ opensAfter (charBefore t i) = true

/-- An apostrophe at this position can close a quote. -/
def CanCloseAt (t : Text) (i : ℕ) : Prop :=
  t[i]? = some '\'' ∧ closesBefore (t.drop (i + 1)) = true

/-- The apostrophe at this position opens a quote if none was open: it can, and a later one can
close. -/
def OpensAt (t : Text) (i : ℕ) : Prop := CanOpenAt t i ∧ ∃ j, i < j ∧ CanCloseAt t j

/-- The next quoted run from `start` on, from its opening to its closing apostrophe. -/
structure NextRun (t : Text) (start opening closing : ℕ) : Prop where
  start_le : start ≤ opening
  canOpen : CanOpenAt t opening
  opening_lt : opening < closing
  canClose : CanCloseAt t closing
  first : ∀ i, start ≤ i → i < opening → ¬ OpensAt t i
  nearest : ∀ j, opening < j → j < closing → ¬ CanCloseAt t j

/-- The quoted runs of a text from `start` on, left to right, each with its two apostrophes. -/
inductive QuotedRuns (t : Text) : ℕ → List (ℕ × ℕ) → Prop
  | done {start : ℕ} (h : ∀ i, start ≤ i → ¬ OpensAt t i) : QuotedRuns t start []
  | run {start opening closing : ℕ} {runs : List (ℕ × ℕ)} (h : NextRun t start opening closing)
      (hrest : QuotedRuns t (closing + 1) runs) :
      QuotedRuns t start ((opening, closing) :: runs)

/-- The word `and` stands at this position, between blanks or ends, outside all the runs. -/
def IsSeparatorAt (t : Text) (runs : List (ℕ × ℕ)) (i : ℕ) : Prop :=
  (t.drop i).take 3 = "and".toList ∧ blankAfter (charBefore t i) = true ∧
    blankBefore (t.drop (i + 3)) = true ∧ ∀ run ∈ runs, i + 2 < run.1 ∨ run.2 < i

instance (t : Text) (runs : List (ℕ × ℕ)) : DecidablePred (IsSeparatorAt t runs) := fun _ =>
  inferInstanceAs (Decidable (_ ∧ _ ∧ _ ∧ _))

/-- The positions of the separators, in order. -/
def separators (t : Text) (runs : List (ℕ × ℕ)) : List ℕ :=
  (List.range t.length).filter (IsSeparatorAt t runs)

/-- The text from `start` on, cut at words of three characters at the given positions. -/
def cutAt (t : Text) (start : ℕ) : List ℕ → List Text
  | [] => [t.drop start]
  | i :: others => (t.take i).drop start :: cutAt t (i + 3) others

/-! ## There is one list of runs -/

theorem NextRun.opensAt {t : Text} {start opening closing : ℕ}
    (h : NextRun t start opening closing) : OpensAt t opening :=
  ⟨h.canOpen, closing, h.opening_lt, h.canClose⟩

theorem NextRun.unique {t : Text} {start o o' c c' : ℕ} (h : NextRun t start o c)
    (h' : NextRun t start o' c') : o = o' ∧ c = c' := by
  have hopening : o = o' := by
    rcases Nat.lt_trichotomy o o' with hlt | heq | hgt
    · exact absurd h.opensAt (h'.first o h.start_le hlt)
    · exact heq
    · exact absurd h'.opensAt (h.first o' h'.start_le hgt)
  subst hopening
  refine ⟨rfl, ?_⟩
  rcases Nat.lt_trichotomy c c' with hlt | heq | hgt
  · exact absurd h.canClose (h'.nearest c h.opening_lt hlt)
  · exact heq
  · exact absurd h'.canClose (h.nearest c' h'.opening_lt hgt)

theorem QuotedRuns.unique {t : Text} {start : ℕ} {runs runs' : List (ℕ × ℕ)}
    (h : QuotedRuns t start runs) (h' : QuotedRuns t start runs') : runs' = runs := by
  induction h generalizing runs' with
  | done hnone =>
      cases h' with
      | done => rfl
      | run hnext => exact absurd hnext.opensAt (hnone _ hnext.start_le)
  | run hnext hrest ih =>
      cases h' with
      | done hnone => exact absurd hnext.opensAt (hnone _ hnext.start_le)
      | run hnext' hrest' =>
          obtain ⟨rfl, rfl⟩ := hnext.unique hnext'
          rw [ih hrest']

/-- The search may start earlier, where nothing opens. -/
theorem QuotedRuns.start_earlier {t : Text} {start earlier : ℕ} {runs : List (ℕ × ℕ)}
    (h : QuotedRuns t start runs)
    (hnone : ∀ i, earlier ≤ i → i < start → ¬ OpensAt t i) (hle : earlier ≤ start) :
    QuotedRuns t earlier runs := by
  cases h with
  | done h =>
      refine .done fun i hi => ?_
      rcases Nat.lt_or_ge i start with hlt | hge
      · exact hnone i hi hlt
      · exact h i hge
  | run h hrest =>
      refine .run { h with start_le := hle.trans h.start_le, first := fun i hi hlt => ?_ } hrest
      rcases Nat.lt_or_ge i start with hbefore | hge
      · exact hnone i hi hbefore
      · exact h.first i hge hlt

/-! ## Positions behind a text that has been read -/

theorem charBefore_length_append (front t : Text) :
    charBefore (front ++ t) front.length = front.getLast? := by
  rw [charBefore, List.take_left]

theorem canOpenAt_length_append {front t : Text} {c : Char} :
    CanOpenAt (front ++ c :: t) front.length ↔ c = '\'' ∧ opensAfter front.getLast? = true := by
  rw [CanOpenAt, charBefore_length_append, List.getElem?_append_right (Nat.le_refl _)]
  simp

theorem canCloseAt_length_add_append (front t : Text) (j : ℕ) :
    CanCloseAt (front ++ t) (front.length + j) ↔ CanCloseAt t j := by
  rw [CanCloseAt, CanCloseAt, List.getElem?_append_right (Nat.le_add_right ..),
    Nat.add_sub_cancel_left, Nat.add_assoc, List.drop_length_add_append]

theorem canCloseAt_cons_zero {c : Char} {t : Text} :
    CanCloseAt (c :: t) 0 ↔ c = '\'' ∧ closesBefore t = true := by
  simp [CanCloseAt]

theorem canCloseAt_cons_succ {c : Char} {t : Text} {j : ℕ} :
    CanCloseAt (c :: t) (j + 1) ↔ CanCloseAt t j := by
  simp [CanCloseAt]

/-- Where `close?` finds nothing, no apostrophe can close. -/
theorem not_canCloseAt_of_close?_eq_none {t : Text} (h : close? t = none) (j : ℕ) :
    ¬ CanCloseAt t j := by
  induction t generalizing j with
  | nil => simp [CanCloseAt]
  | cons c t ih =>
      rw [close?] at h
      split at h
      · cases h
      · rename_i hc
        cases j with
        | zero => rwa [canCloseAt_cons_zero]
        | succ j =>
            rw [canCloseAt_cons_succ]
            exact ih (Option.map_eq_none_iff.mp h) j

/-- What `close?` finds is the nearest apostrophe that can close. -/
theorem canCloseAt_of_close?_eq_some {t run rest : Text} (h : close? t = some (run, rest)) :
    0 < run.length ∧ CanCloseAt t (run.length - 1) ∧
      ∀ j, j < run.length - 1 → ¬ CanCloseAt t j := by
  induction t generalizing run with
  | nil => cases h
  | cons c t ih =>
      rw [close?] at h
      split at h
      · rename_i hc
        cases h
        exact ⟨by simp, canCloseAt_cons_zero.mpr hc, fun j hj => by simp at hj⟩
      · rename_i hc
        obtain ⟨⟨run', rest'⟩, hclose, heq⟩ := Option.map_eq_some_iff.mp h
        cases heq
        obtain ⟨hpos, hclosing, hnearest⟩ := ih hclose
        have hlength : (c :: run').length - 1 = run'.length - 1 + 1 := by
          rw [List.length_cons]
          omega
        rw [hlength]
        refine ⟨by simp, canCloseAt_cons_succ.mpr hclosing, fun j hj => ?_⟩
        cases j with
        | zero => rwa [canCloseAt_cons_zero]
        | succ j =>
            rw [canCloseAt_cons_succ]
            exact hnearest j (by omega)

/-! ## The positions that tokens carry -/

/-- The quoted runs among the tokens, the first of which stands at a given position. -/
def runsFrom : ℕ → List Token → List (ℕ × ℕ)
  | _, [] => []
  | i, .quote run :: ts => (i, i + (run.length - 1)) :: runsFrom (i + run.length) ts
  | i, .separator :: ts => runsFrom (i + 3) ts
  | i, .plain _ :: ts => runsFrom (i + 1) ts

/-- The separators among the tokens, the first of which stands at a given position. -/
def separatorsFrom : ℕ → List Token → List ℕ
  | _, [] => []
  | i, .quote run :: ts => separatorsFrom (i + run.length) ts
  | i, .separator :: ts => i :: separatorsFrom (i + 3) ts
  | i, .plain _ :: ts => separatorsFrom (i + 1) ts

theorem le_of_mem_runsFrom {ts : List Token} {i : ℕ} {run : ℕ × ℕ}
    (h : run ∈ runsFrom i ts) : i ≤ run.1 := by
  fun_induction runsFrom i ts with
  | case1 => simp at h
  | case2 i quoted ts ih =>
      rcases List.mem_cons.mp h with rfl | h
      · exact Nat.le_refl _
      · have := ih h
        omega
  | case3 i ts ih =>
      have := ih h
      omega
  | case4 i c ts ih =>
      have := ih h
      omega

/-- Where reading finds no quote, nothing opens. -/
theorem not_opensAt_of_quote?_eq_none {front t : Text} {c : Char}
    (h : quote? front.getLast? (c :: t) = none) : ¬ OpensAt (front ++ c :: t) front.length := by
  rintro ⟨hopen, j, hj, hclose⟩
  rw [quote?_cons, if_pos (canOpenAt_length_append.mp hopen), Option.map_eq_none_iff] at h
  obtain ⟨k, rfl⟩ : ∃ k, j = (front ++ [c]).length + k := ⟨j - (front.length + 1), by
    rw [List.length_append, List.length_singleton]
    omega⟩
  rw [show front ++ c :: t = front ++ [c] ++ t by simp, canCloseAt_length_add_append] at hclose
  exact not_canCloseAt_of_close?_eq_none h k hclose

/-- Where reading finds a quote, it is the next run. -/
theorem nextRun_of_quote?_eq_some {front t run rest : Text}
    (h : quote? front.getLast? t = some (run, rest)) :
    NextRun (front ++ t) front.length front.length (front.length + (run.length - 1)) := by
  cases t with
  | nil => cases h
  | cons c t =>
      rw [quote?_cons] at h
      split at h
      · rename_i hc
        obtain ⟨⟨run', rest'⟩, hclose, heq⟩ := Option.map_eq_some_iff.mp h
        simp only [Prod.mk.injEq] at heq
        obtain ⟨rfl, rfl⟩ := heq
        obtain ⟨hpos, hclosing, hnearest⟩ := canCloseAt_of_close?_eq_some hclose
        have hshift : ∀ k, CanCloseAt (front ++ c :: t) (front.length + (k + 1)) ↔ CanCloseAt t k :=
          fun k => (canCloseAt_length_add_append ..).trans canCloseAt_cons_succ
        have hlength : (c :: run').length - 1 = run'.length - 1 + 1 := by
          rw [List.length_cons]
          omega
        refine ⟨Nat.le_refl _, canOpenAt_length_append.mpr hc, ?_, ?_, fun i hi hlt => ?_,
          fun j hj hlt => ?_⟩
        · omega
        · rw [hlength, hshift]
          exact hclosing
        · omega
        · rw [hlength] at hlt
          obtain ⟨k, rfl⟩ : ∃ k, j = front.length + (k + 1) := ⟨j - front.length - 1, by omega⟩
          rw [hshift]
          exact hnearest k (by omega)
      · cases h

/-- The word that is read as a separator stands between blanks or ends of the text. -/
theorem separator?_iff {front t : Text} :
    (separator? front.getLast? t).isSome = true ↔
      ((front ++ t).drop front.length).take 3 = "and".toList ∧
        blankAfter (charBefore (front ++ t) front.length) = true ∧
        blankBefore ((front ++ t).drop (front.length + 3)) = true := by
  rw [charBefore_length_append, List.drop_left, List.drop_length_add_append]
  constructor
  · intro h
    obtain ⟨rest, hrest⟩ := Option.isSome_iff_exists.mp h
    obtain ⟨rfl, hblank, hword⟩ := separator?_eq_some hrest
    exact ⟨rfl, hblank, hword⟩
  · rintro ⟨hword, hblank, hrest⟩
    rw [← List.take_append_drop 3 t, hword]
    exact Option.isSome_iff_exists.mpr ⟨_, separator?_and hblank hrest⟩

/-! ## Reading moves along both lists -/

theorem not_apostrophe_of_word {front rest : Text} {i : ℕ}
    (h : (front ++ 'a' :: 'n' :: 'd' :: rest)[i]? = some '\'') (hi : front.length ≤ i) :
    ¬ i < front.length + "and".toList.length := by
  intro hlt
  obtain ⟨k, rfl⟩ := Nat.exists_eq_add_of_le hi
  rw [List.getElem?_append_right hi, Nat.add_sub_cancel_left] at h
  have hk : k < 3 := Nat.lt_of_add_lt_add_left hlt
  match k, hk with
  | 0, _ | 1, _ | 2, _ => simp at h

/-- The runs that reading finds are the quoted runs. -/
theorem quotedRuns_runsFrom (front t : Text) :
    QuotedRuns (front ++ t) front.length (runsFrom front.length (tokens front.getLast? t)) := by
  -- `front` has been read already; it grows by one token, so positions are those of the whole text
  generalize hb : front.getLast? = b
  fun_induction tokens b t generalizing front with
  | case1 b =>
      refine .done fun i hi hopens => ?_
      have hnone : (front ++ [])[i]? = none := by simp [hi]
      exact absurd (hnone.symm.trans hopens.1.1) (by simp)
  | case2 b c t run rest hquote ih =>
      subst hb
      obtain ⟨htext, -, -, inner, hinner⟩ := quote?_eq_some hquote
      have hpos : 0 < run.length := by simp [hinner]
      have hrest := ih (front ++ run) (by
        rw [hinner, ← List.cons_append, ← List.append_assoc, List.getLast?_concat])
      rw [List.append_assoc, ← htext, List.length_append] at hrest
      refine .run (nextRun_of_quote?_eq_some hquote) ?_
      rwa [Nat.add_assoc, Nat.sub_add_cancel hpos]
  | case3 b c t hquote rest hsep ih =>
      subst hb
      have htext := (separator?_eq_some hsep).1
      have hrest := ih (front ++ "and".toList) (by simp)
      have hwhole : front ++ "and".toList ++ rest = front ++ c :: t := by
        rw [htext]
        simp
      rw [hwhole, List.length_append] at hrest
      -- no letter of the word is an apostrophe, so the search may as well start in front of it
      refine hrest.start_earlier (fun i hi hlt hopens => ?_) (Nat.le_add_right ..)
      exact not_apostrophe_of_word (htext ▸ hopens.1.1) hi hlt
  | case4 b c t hquote hsep ih =>
      subst hb
      have hrest := ih (front ++ [c]) (by simp)
      rw [List.append_assoc, List.length_append] at hrest
      refine hrest.start_earlier (fun i hi hlt => ?_) (Nat.le_add_right ..)
      obtain rfl : i = front.length := by
        rw [List.length_singleton] at hlt
        omega
      exact not_opensAt_of_quote?_eq_none hquote

theorem not_isSeparatorAt_of_char {front rest : Text} {runs : List (ℕ × ℕ)} {c : Char} {k : ℕ}
    (hc : c ≠ 'a') (hk : rest[k]? = some c) :
    ¬ IsSeparatorAt (front ++ rest) runs (front.length + k) := by
  rintro ⟨hword, -⟩
  have hhead : ((front ++ rest).drop (front.length + k))[0]? = some 'a' := by
    rw [← List.getElem?_take_of_lt (show 0 < 3 by decide), hword]
    rfl
  rw [List.drop_length_add_append, List.getElem?_drop, Nat.add_zero, hk] at hhead
  exact hc (Option.some.inj hhead)

/-- A run that ends before a position does not count there. -/
theorem isSeparatorAt_cons_iff {t : Text} {runs : List (ℕ × ℕ)} {opening closing i : ℕ}
    (h : closing < i) :
    IsSeparatorAt t ((opening, closing) :: runs) i ↔ IsSeparatorAt t runs i := by
  simp [IsSeparatorAt, h]

theorem not_isSeparatorAt_of_mem_run {t : Text} {runs : List (ℕ × ℕ)} {opening closing i : ℕ}
    (hopening : opening ≤ i) (hclosing : i ≤ closing) :
    ¬ IsSeparatorAt t ((opening, closing) :: runs) i := by
  rintro ⟨-, -, -, houtside⟩
  rcases houtside _ (List.mem_cons_self ..) with h | h
  · simp only at h
    omega
  · simp only at h
    omega

/-- The separators that reading finds are the words outside the runs. -/
theorem filter_isSeparatorAt_eq (front t : Text) :
    (List.range' front.length t.length).filter (IsSeparatorAt (front ++ t)
        (runsFrom front.length (tokens front.getLast? t))) =
      separatorsFrom front.length (tokens front.getLast? t) := by
  generalize hb : front.getLast? = b
  fun_induction tokens b t generalizing front with
  | case1 b => rfl
  | case2 b c t run rest hquote ih =>
      subst hb
      obtain ⟨htext, -, -, inner, hinner⟩ := quote?_eq_some hquote
      have hpos : 0 < run.length := by simp [hinner]
      have hrest := ih (front ++ run) (by
        rw [hinner, ← List.cons_append, ← List.append_assoc, List.getLast?_concat])
      rw [List.append_assoc, ← htext, List.length_append] at hrest
      rw [show (c :: t).length = run.length + rest.length by rw [htext, List.length_append],
        ← List.range'_append_1, List.filter_append, runsFrom, separatorsFrom, ← hrest]
      -- inside the run there is no separator, and behind it the run makes no difference
      have hnone : (List.range' front.length run.length).filter (IsSeparatorAt (front ++ c :: t)
          ((front.length, front.length + (run.length - 1)) ::
            runsFrom (front.length + run.length) (tokens (some '\'') rest))) = [] := by
        rw [List.filter_eq_nil_iff]
        intro i hi
        rw [List.mem_range'_1] at hi
        simpa using not_isSeparatorAt_of_mem_run hi.1 (by omega)
      rw [hnone, List.nil_append]
      refine List.filter_congr fun i hi => ?_
      rw [List.mem_range'_1] at hi
      simpa using isSeparatorAt_cons_iff (by omega)
  | case3 b c t hquote rest hsep ih =>
      subst hb
      have htext := (separator?_eq_some hsep).1
      have hrest := ih (front ++ "and".toList) (by simp)
      have hwhole : front ++ "and".toList ++ rest = front ++ c :: t := by
        rw [htext]
        simp
      rw [hwhole, List.length_append, show "and".toList.length = 3 from rfl] at hrest
      -- of the three positions of the word only the first is that of a separator
      have hword : IsSeparatorAt (front ++ c :: t)
          (runsFrom (front.length + 3) (tokens (some 'd') rest)) front.length := by
        obtain ⟨htake, hblank, hend⟩ := separator?_iff.mp (Option.isSome_iff_exists.mpr ⟨_, hsep⟩)
        exact ⟨htake, hblank, hend, fun run hrun => Or.inl (le_of_mem_runsFrom hrun)⟩
      have hsecond : ¬ IsSeparatorAt (front ++ c :: t)
          (runsFrom (front.length + 3) (tokens (some 'd') rest)) (front.length + 1) :=
        not_isSeparatorAt_of_char (c := 'n') (by decide) (by rw [htext]; rfl)
      have hthird : ¬ IsSeparatorAt (front ++ c :: t)
          (runsFrom (front.length + 3) (tokens (some 'd') rest)) (front.length + 2) :=
        not_isSeparatorAt_of_char (c := 'd') (by decide) (by rw [htext]; rfl)
      rw [show (c :: t).length = rest.length + 1 + 1 + 1 by rw [htext]; rfl, List.range'_succ,
        List.range'_succ, List.range'_succ, runsFrom, separatorsFrom,
        List.filter_cons_of_pos (by simpa using hword),
        List.filter_cons_of_neg (by simpa using hsecond),
        List.filter_cons_of_neg (by simpa using hthird), ← hrest]
  | case4 b c t hquote hsep ih =>
      subst hb
      have hrest := ih (front ++ [c]) (by simp)
      rw [List.append_assoc, List.length_append] at hrest
      have hnone : ¬ IsSeparatorAt (front ++ c :: t)
          (runsFrom (front.length + 1) (tokens (some c) t)) front.length := by
        rintro ⟨htake, hblank, hend, -⟩
        rw [← Option.not_isSome_iff_eq_none] at hsep
        exact hsep (separator?_iff.mpr ⟨htake, hblank, hend⟩)
      rw [List.length_cons, List.range'_succ, runsFrom, separatorsFrom,
        List.filter_cons_of_neg (by simpa using hnone)]
      exact hrest

/-! ## Cutting -/

theorem separatorsFrom_cons_of_ne {t : Token} (ht : t ≠ .separator) (i : ℕ) (ts : List Token) :
    separatorsFrom i (t :: ts) = separatorsFrom (i + t.text.length) ts := by
  cases t with
  | quote run => rfl
  | separator => exact absurd rfl ht
  | plain c => rfl

theorem modifyHead_nil_append (parts : List Text) : parts.modifyHead ([] ++ ·) = parts := by
  rw [show (([] : Text) ++ ·) = id from rfl, List.modifyHead_id]
  rfl

/-- Cut at its separators, a row of tokens falls into what lies between them.  Here `front` has
been cut off already, and `current` is the piece that is being read. -/
theorem cutAt_separatorsFrom (front current : Text) (ts : List Token) :
    cutAt (front ++ current ++ ts.flatMap Token.text) front.length
        (separatorsFrom (front.length + current.length) ts) =
      (between ts).modifyHead (current ++ ·) := by
  induction ts generalizing front current with
  | nil => simp [separatorsFrom, cutAt, between]
  | cons t ts ih =>
      by_cases ht : t = .separator
      · subst ht
        have hrest := ih (front ++ current ++ "and".toList) []
        have hbetween : between (.separator :: ts) = [] :: between ts :=
          between_append_separator [] ts
        rw [modifyHead_nil_append, List.length_append, List.length_append, List.append_nil,
          List.append_assoc] at hrest
        rw [hbetween, separatorsFrom, cutAt, List.modifyHead_cons, List.append_nil]
        refine congrArg₂ List.cons ?_ hrest
        rw [← List.length_append, List.take_left, List.drop_left]
      · have hrest := ih front (current ++ t.text)
        rw [List.length_append, ← Nat.add_assoc] at hrest
        rw [separatorsFrom_cons_of_ne ht, between_cons_of_ne ht, List.modifyHead_modifyHead,
          List.flatMap_cons, ← List.append_assoc, List.append_assoc front, hrest]
        congr 1
        funext part
        simp

/-- What lies between the separators, with the word put back between, is the text. -/
theorem join_between (ts : List Token) :
    Text.join "and".toList (between ts) = ts.flatMap Token.text := by
  induction ts with
  | nil => rfl
  | cons t ts ih =>
      obtain ⟨first, parts, hts⟩ := List.exists_cons_of_ne_nil (between_ne_nil ts)
      rw [List.flatMap_cons, ← ih, hts]
      by_cases ht : t = .separator
      · subst ht
        rw [show between (.separator :: ts) = [] :: between ts from between_append_separator [] ts,
          hts, join, List.intercalate_cons_cons]
        rfl
      · rw [between_cons_of_ne ht, hts, List.modifyHead_cons]
        cases parts with
        | nil => simp [join]
        | cons second parts => simp [join, List.intercalate_cons_cons]

/-! ## The main statement -/

/-- **Every text has exactly one list of quoted runs, and its clauses are the trimmed, non-blank
texts between the words `and` outside these runs.**  Joined by that word again, the texts between
are all of the text. -/
theorem clauses_eq_trimAll_cutAt (t : Text) :
    ∃ runs, QuotedRuns t 0 runs ∧ (∀ runs', QuotedRuns t 0 runs' → runs' = runs) ∧
      clauses t = trimAll (cutAt t 0 (separators t runs)) ∧
      Text.join "and".toList (cutAt t 0 (separators t runs)) = t := by
  have hruns : QuotedRuns t 0 (runsFrom 0 (tokens none t)) := quotedRuns_runsFrom [] t
  have hseparators :
      separators t (runsFrom 0 (tokens none t)) = separatorsFrom 0 (tokens none t) := by
    rw [separators, List.range_eq_range']
    exact filter_isSeparatorAt_eq [] t
  have hcut : cutAt t 0 (separatorsFrom 0 (tokens none t)) = between (tokens none t) := by
    have h := cutAt_separatorsFrom [] [] (tokens none t)
    rw [List.append_nil, List.nil_append, flatMap_tokens, modifyHead_nil_append] at h
    exact h
  refine ⟨runsFrom 0 (tokens none t), hruns, fun runs' h => hruns.unique h, ?_, ?_⟩
  · rw [hseparators, hcut]
    rfl
  · rw [hseparators, hcut, join_between, flatMap_tokens]

end QueryOptions.Conjunction
