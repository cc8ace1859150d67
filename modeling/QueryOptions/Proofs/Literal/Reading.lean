import Mathlib.Data.List.Forall2
import QueryOptions.Proofs.Literal.Canonical

/-!
# Reading back a literal

A canonical literal is read back from its text (`Literal.ofText_text`).  An operand is read from
every text that spells it (`Operand.ofText_of_spells`), where a list may have blanks around each of
its literals, and its own text is one of these (`Operand.ofText_text`).

The texts are of two kinds (`Literal.text_cases`).  A number or a truth value is *bare*: its few
characters are no blanks, marks or apostrophes, so nothing can be cut off or stripped.  A string or
null is quoted, and its own characters are arbitrary but for the apostrophe, so what is read is
what stands between the outer apostrophes.  An apostrophe is in no numeral, which settles that
`'42'` is a string.
-/

namespace QueryOptions

open Text

/-! ## Bare texts -/

/-- A text made of the characters of numbers and truth values only. -/
structure Bare (t : Text) : Prop where
  ne_nil : t ≠ []
  mem : ∀ c ∈ t, c.isDigit = true ∨ c ∈ "+-.eEtrufals".toList

namespace Bare

theorem not_mem {t : Text} (ht : Bare t) {c : Char} (hdigit : c.isDigit = false)
    (hc : c ∉ "+-.eEtrufals".toList) : c ∉ t := by
  intro hmem
  rcases ht.mem c hmem with h | h
  · rw [hdigit] at h
    cases h
  · exact hc h

theorem isBlank_of_isDigit {c : Char} (hc : c.isDigit = true) : isBlank c = false := by
  have hrange : 48 ≤ c.toNat ∧ c.toNat ≤ 57 := by
    simpa [Char.isDigit, UInt32.le_iff_toNat_le] using hc
  rw [Bool.eq_false_iff]
  intro hblank
  simp only [isBlank, Bool.or_eq_true, Bool.and_eq_true, decide_eq_true_eq, beq_iff_eq] at hblank
  omega

theorem not_blank {t : Text} (ht : Bare t) : ∀ c ∈ t, isBlank c = false := by
  have hothers : ∀ c ∈ "+-.eEtrufals".toList, isBlank c = false := by decide
  intro c hc
  rcases ht.mem c hc with h | h
  · exact isBlank_of_isDigit h
  · exact hothers c h

theorem trim_eq {t : Text} (ht : Bare t) : t.trim = t := trim_eq_self_of_no_blank ht.not_blank

theorem of_ofText? {t : Text} {n : Numeral} (h : Numeral.ofText? t = some n) : Bare t := by
  have hsubset : ∀ c ∈ ['+', '-', '.', 'e', 'E'], c ∈ "+-.eEtrufals".toList := by decide
  constructor
  · rintro rfl
    cases h
  · intro c hc
    rcases Numeral.isPart_of_ofText? h c hc with h | h
    · exact Or.inl h
    · exact Or.inr (hsubset c h)

theorem booleanText (b : Bool) : Bare (Literal.booleanText b) := by
  cases b
  · exact ⟨by decide, by decide⟩
  · exact ⟨by decide, by decide⟩

end Bare

namespace Literal

/-! ## The text of an integer -/

/-- The numeral of an integer. -/
def integerNumeral (z : ℤ) : Numeral := ⟨z < 0, Nat.toDigits 10 z.natAbs, none, none⟩

theorem text_integerNumeral (z : ℤ) : (integerNumeral z).text = Numeral.integerText z := by
  simp [integerNumeral, Numeral.text, Numeral.integerText, Numeral.fractionText,
    Numeral.exponentText]

theorem plain_integerNumeral (z : ℤ) : (integerNumeral z).Plain where
  whole_ne_nil := Nat.toDigits_ne_nil
  whole _ hc := Nat.isDigit_of_mem_toDigits (by decide) (by decide) hc
  fraction _ h := by cases h
  exponent := rfl

theorem plainInteger?_integerNumeral (z : ℤ) : (integerNumeral z).plainInteger? = some z := by
  show some (Numeral.signedInteger (z < 0) (Nat.toDigits 10 z.natAbs)) = some z
  rw [Numeral.signedInteger_toDigits]

theorem number?_integerText (z : Int64) :
    number? (Numeral.integerText z.toInt) = some (integer z) := by
  have hword : Binary64.isWord z.toInt = true :=
    Binary64.isWord_iff.mpr ⟨Int64.le_toInt z, Int64.toInt_lt z⟩
  have hfilter : (integerNumeral z.toInt).plainInteger?.filter Binary64.isWord = some z.toInt := by
    rw [plainInteger?_integerNumeral]
    exact if_pos hword
  rw [← text_integerNumeral, number?, Numeral.ofText?_text (plain_integerNumeral _),
    Option.bind_some]
  unfold ofNumeral?
  rw [hfilter]
  simp

theorem number?_queryText {x : Binary64} (hx : x.isFinite = true) (hword : x.toInt64? = none) :
    number? x.queryText = some (float x) := by
  cases x with
  | nan => cases hx
  | signed negative m =>
      have hm : m.isFinite = true := hx
      have htext : (Binary64.signed negative m).queryText =
          (FloatLayout.query.numeral negative m).text := if_pos hm
      have hnone :
          (FloatLayout.query.numeral negative m).plainInteger?.filter Binary64.isWord = none := by
        cases hz : (FloatLayout.query.numeral negative m).plainInteger? with
        | none => rfl
        | some z => simp [Binary64.not_isWord_of_plainInteger? hm hword hz]
      rw [htext, number?, FloatLayout.ofText?_numeral, Option.bind_some]
      unfold ofNumeral?
      rw [hnone, FloatLayout.ofNumeral_numeral]
      simp [hx, hword]

/-! ## The two kinds of texts -/

theorem bare_of_number? {t : Text} {l : Literal} (h : number? t = some l) : Bare t := by
  obtain ⟨n, hn, -⟩ := Option.bind_eq_some_iff.mp h
  exact Bare.of_ofText? hn

theorem ofText_of_number? {t : Text} {l : Literal} (h : number? t = some l) : ofText t = l := by
  rw [ofText, (bare_of_number? h).trim_eq, ofTrimmed, h]

theorem ofText_booleanText (b : Bool) : ofText (booleanText b) = boolean b := by
  cases b <;> rfl

theorem trim_quoted (s : Text) : (quoted s).trim = quoted s :=
  trim_append_append (x := ['\'']) (z := ['\'']) (by decide) rfl (by decide) rfl s

theorem unquoted_eq_self {t : Text} (h : '\'' ∉ t) : unquoted t = t := by
  unfold unquoted
  rw [List.filter_eq_self]
  intro c hc
  rw [bne_iff_ne]
  rintro rfl
  exact h hc

/-- A text in apostrophes is a string, or null, whatever else it looks like. -/
theorem ofText_quoted {s : Text} (hs : '\'' ∉ s) : ofText (quoted s) = ofUnquoted s := by
  have hnumber : number? (quoted s) = none := by
    have hmem : '\'' ∈ quoted s := List.mem_cons_self
    rw [number?, Numeral.ofText?_eq_none_of_mem hmem (by simp [Numeral.IsPart])]
    rfl
  have hunquoted : unquoted (quoted s) = s := by
    have hself : s.filter (· != '\'') = s := unquoted_eq_self hs
    simp [unquoted, quoted, hself]
  have htrue : quoted s ≠ "true".toList := fun h => absurd (List.cons.inj h).1 (by decide)
  have hfalse : quoted s ≠ "false".toList := fun h => absurd (List.cons.inj h).1 (by decide)
  rw [ofText, trim_quoted, ofTrimmed, hnumber]
  simp only
  rw [if_neg htrue, if_neg hfalse, hunquoted]

/-- The text of a canonical literal is a number, the word for a truth value, or quoted. -/
theorem text_cases {l : Literal} (hl : l.Canonical) :
    number? l.text = some l ∨ (∃ b, l = boolean b) ∨
      ∃ s, '\'' ∉ s ∧ l.text = quoted s ∧ l = ofUnquoted s := by
  cases l with
  -- digits of an integer are taken exactly, those of a double through the nearest one
  | integer z => exact Or.inl (number?_integerText z)
  | float x => exact Or.inl (number?_queryText hl.1 ((canonical_float hl.1).mp hl))
  | boolean b => exact Or.inr (Or.inl ⟨b, rfl⟩)
  | string s =>
      refine Or.inr (Or.inr ⟨s, hl.2, rfl, ?_⟩)
      cases s with
      | nil => exact absurd rfl hl.1
      | cons c s => rfl
  | null => exact Or.inr (Or.inr ⟨[], List.not_mem_nil, rfl, rfl⟩)

/-- The text of a canonical literal is bare or quoted. -/
theorem bare_or_quoted {l : Literal} (hl : l.Canonical) :
    Bare l.text ∨ ∃ s, '\'' ∉ s ∧ l.text = quoted s ∧ l = ofUnquoted s := by
  rcases text_cases hl with h | ⟨b, rfl⟩ | h
  · exact Or.inl (bare_of_number? h)
  · exact Or.inl (Bare.booleanText b)
  · exact Or.inr h

/-- **A canonical literal is read back from its text.** -/
theorem ofText_text {l : Literal} (hl : l.Canonical) : ofText l.text = l := by
  rcases text_cases hl with h | ⟨b, rfl⟩ | ⟨s, hs, htext, h⟩
  · exact ofText_of_number? h
  · exact ofText_booleanText b
  · rw [htext, ofText_quoted hs, h]

end Literal

/-! ## Operands -/

namespace Literal

theorem text_ne_nil {l : Literal} (hl : l.Canonical) : l.text ≠ [] := by
  rcases bare_or_quoted hl with hbare | ⟨s, -, htext, -⟩
  · exact hbare.ne_nil
  · rw [htext]
    exact List.cons_ne_nil _ _

/-- The text of a literal neither begins nor ends with a blank. -/
theorem trim_text {l : Literal} (hl : l.Canonical) : l.text.trim = l.text := by
  rcases bare_or_quoted hl with hbare | ⟨s, -, htext, -⟩
  · exact hbare.trim_eq
  · rw [htext]
    exact trim_quoted s

/-- Blanks around a text leave no trace in the literal that it is read as. -/
theorem ofText_of_padded {t p : Text} (h : Padded t p) : ofText p = ofText t := by
  rw [ofText, h.trim_eq, ofText]

theorem comma_not_mem_text {l : Literal} (hl : l.Canonical)
    (hcomma : ∀ s, l = string s → ',' ∉ s) : ',' ∉ l.text := by
  rcases bare_or_quoted hl with hbare | ⟨s, -, htext, h⟩
  · exact hbare.not_mem (by decide) (by decide)
  · rw [htext]
    cases s with
    | nil => decide
    | cons c s => simpa [quoted] using hcomma (c :: s) h

end Literal

namespace Operand

/-- The blank behind a comma can be counted as part of what follows. -/
theorem join_comma_space (t : Text) (ts : List Text) :
    join ", ".toList (t :: ts) = join [','] (t :: ts.map (' ' :: ·)) := by
  induction ts generalizing t with
  | nil => rfl
  | cons u ts ih =>
      unfold join at ih ⊢
      rw [List.map_cons, List.intercalate_cons_cons, List.intercalate_cons_cons, ih,
        List.intercalate_cons_cons_left]
      simp

/-- A way to write an operand.  A literal is written as it is.  A list stands in parentheses, with
commas between its literals and with any blanks around each of them. -/
inductive Spells : Operand → Text → Prop
  | single (l : Literal) : Spells (single l) l.text
  | list {ls : List Literal} {ps : List Text}
      (h : List.Forall₂ (fun l p => Padded l.text p) ls ps) :
      Spells (list ls) ('(' :: (join [','] ps ++ [')']))

/-- The text of an operand is one way to write it, with a blank behind each comma. -/
theorem spells_text (v : Operand) : v.Spells v.text := by
  cases v with
  | single l => exact .single l
  | list ls =>
      cases ls with
      | nil => exact .list .nil
      | cons l ls =>
          have hpadded : List.Forall₂ (fun l p => Padded (Literal.text l) p) (l :: ls)
              (l.text :: (ls.map Literal.text).map (' ' :: ·)) := by
            refine .cons (padded_self _) ?_
            rw [List.map_map, List.forall₂_map_right_iff, List.forall₂_same]
            exact fun k _ => ⟨[' '], [], allBlank_space, allBlank_nil, by simp⟩
          rw [text, List.map_cons, join_comma_space]
          exact .list hpadded

section Spells

variable {operator : Operator} {v : Operand} {t : Text}

theorem Spells.ne_nil (h : v.Spells t) (hv : v.Canonical operator) : t ≠ [] := by
  cases h with
  | single l => exact Literal.text_ne_nil hv.2
  | list h => exact List.cons_ne_nil _ _

theorem trim_list (inner : Text) : trim ('(' :: (inner ++ [')'])) = '(' :: (inner ++ [')']) :=
  trim_append_append (x := ['(']) (z := [')']) (by decide) rfl (by decide) rfl inner

/-- A written operand neither begins nor ends with a blank. -/
theorem Spells.trim_eq (h : v.Spells t) (hv : v.Canonical operator) : t.trim = t := by
  cases h with
  | single l => exact Literal.trim_text hv.2
  | list h => exact trim_list _

/-- The pieces of a written list are what stands between its commas. -/
theorem pieces_join {ps : List Text} (hne : ps ≠ []) (hps : ∀ p ∈ ps, ',' ∉ p) :
    pieces ('(' :: (join [','] ps ++ [')'])) = ps := by
  have hinner : dropClosing (dropOpening ('(' :: (join [','] ps ++ [')']))) = join [','] ps := by
    simp [dropOpening, dropClosing]
  unfold pieces
  rw [trim_list, hinner]
  exact List.splitOn_intercalate ',' hps hne

/-- Texts of literals with blanks around them are read one by one, and none is cut at a comma. -/
theorem literals_of_padded {ls : List Literal} {ps : List Text}
    (h : List.Forall₂ (fun l p => Padded l.text p) ls ps)
    (hls : ∀ l ∈ ls, l.Canonical ∧ ∀ s, l = .string s → ',' ∉ s) :
    (∀ p ∈ ps, ',' ∉ p) ∧ ps.map Literal.ofText = ls := by
  induction h with
  | nil => exact ⟨fun p hp => absurd hp List.not_mem_nil, rfl⟩
  | cons hp _ ih =>
      obtain ⟨⟨hcanonical, hcomma⟩, hls⟩ := List.forall_mem_cons.mp hls
      obtain ⟨hfree, hmap⟩ := ih hls
      have hfirst := hp.not_mem (by decide) (Literal.comma_not_mem_text hcanonical hcomma)
      refine ⟨List.forall_mem_cons.mpr ⟨hfirst, hfree⟩, ?_⟩
      rw [List.map_cons, Literal.ofText_of_padded hp, Literal.ofText_text hcanonical, hmap]

/-- **A canonical operand is read from everything that spells it.** -/
theorem ofText_of_spells (hv : v.Canonical operator) (h : v.Spells t) :
    ofText operator t = v := by
  cases h with
  | single l =>
      have hsingle : ¬ operator.takesList = true := fun h => hv.1 ((Operator.takesList_iff _).mp h)
      rw [ofText, if_neg hsingle]
      exact congrArg single (Literal.ofText_text hv.2)
  | @list ls ps h =>
      obtain ⟨hoperator, hne, hls⟩ := hv
      obtain ⟨hfree, hliterals⟩ := literals_of_padded h hls
      have hpsne : ps ≠ [] := by
        rintro rfl
        exact hne hliterals.symm
      rw [ofText, if_pos ((Operator.takesList_iff _).mpr hoperator), literals,
        pieces_join hpsne hfree, hliterals]

end Spells

/-- **A canonical operand is read back from its text.** -/
theorem ofText_text {operator : Operator} {v : Operand} (hv : v.Canonical operator) :
    ofText operator v.text = v :=
  ofText_of_spells hv (spells_text v)

end Operand

end QueryOptions
