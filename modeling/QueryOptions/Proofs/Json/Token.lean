import QueryOptions.Json.Token
import QueryOptions.Proofs.Number.Decimal
import QueryOptions.Proofs.Number.Numeral

/-!
# Reading back tokens

A token is read back from its text.  Which token comes next is decided by one character, so this is
a matter of where a token ends:

* a bracket, a comma, a colon and a word end after a fixed number of characters;
* a string ends at its second quotation mark, since one inside it is written behind a backslash, and
  each character is found in one piece of the string (`exists_piece`);
* a number ends where no digit, point or power of ten goes on with it (`EndsNumber`), and this is the
  only token that depends on what follows.

The reader of a whole text counts its steps.  It needs no more of them for a text that is longer at
the front, so the count is nowhere to be seen outside of `tokens?_append`.
-/

namespace QueryOptions

namespace Json

/-! ## Strings -/

theorem ofHexDigits?_smallHexDigit {n : ℕ} (hn : n < 0x20) :
    ofHexDigits? ['0', '0', smallHexDigit (n / 16), smallHexDigit (n % 16)] = some n := by
  revert n
  decide

theorem pieces_letter {letter c : Char} (hletter : letter ≠ 'u')
    (hc : unescape letter = some c) (rest : Text) :
    pieces ('\\' :: letter :: rest) =
      (pieces rest).map fun found => (.character c :: found.1, found.2) := by
  rw [pieces, hc]
  · cases pieces rest <;> rfl
  · intro _ _ _ _ _ hu
    exact absurd hu hletter

theorem pieces_unit {h₁ h₂ h₃ h₄ : Char} {n : ℕ} (hn : ofHexDigits? [h₁, h₂, h₃, h₄] = some n)
    (rest : Text) :
    pieces ('\\' :: 'u' :: h₁ :: h₂ :: h₃ :: h₄ :: rest) =
      (pieces rest).map fun found => (.unit n :: found.1, found.2) := by
  rw [pieces, hn]
  cases pieces rest <;> rfl

theorem pieces_plain {c : Char} (hquote : c ≠ '"') (hbackslash : c ≠ '\\')
    (hcontrol : ¬ c.toNat < 0x20) (rest : Text) :
    pieces (c :: rest) =
      (pieces rest).map fun found => (.character c :: found.1, found.2) := by
  rw [pieces, if_neg hcontrol]
  · cases pieces rest <;> rfl
  · exact hquote
  · intro _ _ _ _ _ h
    exact absurd h hbackslash
  · intro _ _ h
    exact absurd h hbackslash

/-- A control character is no half of a surrogate pair. -/
theorem assemble_unit_cons {c : Char} (hc : c.toNat < 0x20) (ps : List Piece) :
    assemble (.unit c.toNat :: ps) = (assemble ps).map (c :: ·) := by
  have hhigh : isHighHalf c.toNat = false := by
    simp only [isHighHalf, Bool.and_eq_false_iff, decide_eq_false_iff_not]
    omega
  have hlow : isLowHalf c.toNat = false := by
    simp only [isLowHalf, Bool.and_eq_false_iff, decide_eq_false_iff_not]
    omega
  rw [assemble.eq_def]
  simp only [hhigh, hlow, Bool.false_eq_true, if_false, Char.ofNat_toNat]

/-- The letters that stand for a character behind a backslash, each with its character. -/
def letters : List (Char × Char) :=
  [('"', '"'), ('\\', '\\'), ('n', '\n'), ('r', '\r'), ('t', '\t'), ('b', Char.ofNat 8),
    ('f', Char.ofNat 12)]

theorem of_mem_letters : ∀ pair ∈ letters,
    pair.1 ≠ 'u' ∧ unescape pair.1 = some pair.2 ∧ escape pair.2 = ['\\', pair.1] := by
  decide

/-- A character without a letter is written by its number if it is a control character, and
otherwise it is written as it is. -/
theorem escape_of_no_letter {c : Char} (hc : ∀ letter, (letter, c) ∉ letters) :
    c ≠ '"' ∧ c ≠ '\\' ∧ escape c =
      if c.toNat < 0x20 then
        '\\' :: 'u' :: ['0', '0', smallHexDigit (c.toNat / 16), smallHexDigit (c.toNat % 16)]
      else [c] := by
  have hne : ∀ pair ∈ letters, c ≠ pair.2 := by
    rintro ⟨letter, c'⟩ hpair rfl
    exact hc letter hpair
  have hnumber : ∀ n, Char.ofNat n ≠ c → c.toNat ≠ n := by
    rintro n hn rfl
    exact hn (Char.ofNat_toNat c)
  simp only [letters, List.forall_mem_cons] at hne
  obtain ⟨hquote, hbackslash, hn, hr, ht, hb, hf, -⟩ := hne
  refine ⟨hquote, hbackslash, ?_⟩
  unfold escape
  rw [if_neg hquote, if_neg hbackslash, if_neg hn, if_neg hr, if_neg ht,
    if_neg (hnumber 8 hb.symm), if_neg (hnumber 12 hf.symm)]
  rfl

/-- **A character is found in one piece of the string** that it is written in. -/
theorem exists_piece (c : Char) :
    ∃ p, (∀ rest, pieces (escape c ++ rest) =
        (pieces rest).map fun found => (p :: found.1, found.2)) ∧
      ∀ ps, assemble (p :: ps) = (assemble ps).map (c :: ·) := by
  by_cases hletter : ∃ letter, (letter, c) ∈ letters
  · obtain ⟨letter, hmem⟩ := hletter
    obtain ⟨hu, hname, htext⟩ := of_mem_letters _ hmem
    refine ⟨.character c, fun rest => ?_, fun ps => rfl⟩
    rw [htext]
    exact pieces_letter hu hname rest
  · rw [not_exists] at hletter
    obtain ⟨hquote, hbackslash, htext⟩ := escape_of_no_letter hletter
    rw [htext]
    by_cases hcontrol : c.toNat < 0x20
    · rw [if_pos hcontrol]
      exact ⟨.unit c.toNat, pieces_unit (ofHexDigits?_smallHexDigit hcontrol),
        assemble_unit_cons hcontrol⟩
    · rw [if_neg hcontrol]
      exact ⟨.character c, pieces_plain hquote hbackslash hcontrol, fun ps => rfl⟩

theorem exists_pieces (t rest : Text) :
    ∃ ps, pieces (t.flatMap escape ++ '"' :: rest) = some (ps, rest) ∧ assemble ps = some t := by
  induction t with
  | nil => exact ⟨[], by rw [List.flatMap_nil, List.nil_append, pieces], rfl⟩
  | cons c t ih =>
      obtain ⟨ps, hps, htext⟩ := ih
      obtain ⟨p, hpieces, hassemble⟩ := exists_piece c
      refine ⟨p :: ps, ?_, ?_⟩
      · rw [List.flatMap_cons, List.append_assoc, hpieces, hps]
        rfl
      · rw [hassemble, htext]
        rfl

/-- **A string is read back from its text**, whatever follows. -/
theorem token?_stringText (t rest : Text) :
    token? (stringText t ++ rest) = some (.string (some t), rest) := by
  obtain ⟨ps, hps, htext⟩ := exists_pieces t rest
  have hmark : stringText t ++ rest = '"' :: (t.flatMap escape ++ '"' :: rest) := by
    simp [stringText]
  rw [hmark, token?, hps, ← htext]
  rfl

end Json

/-! ## Numbers -/

/-- A numeral as JSON has it: no zero stands in front of other digits, and there is a digit behind
the point. -/
structure Numeral.Strict (n : Numeral) : Prop where
  whole : n.whole = ['0'] ∨ n.whole ≠ [] ∧ n.whole.head? ≠ some '0'
  isDigit_whole : ∀ c ∈ n.whole, c.isDigit = true
  fraction : ∀ digits ∈ n.fraction, digits ≠ [] ∧ ∀ c ∈ digits, c.isDigit = true

theorem Numeral.Strict.whole_ne_nil {n : Numeral} (hn : n.Strict) : n.whole ≠ [] := by
  rcases hn.whole with h | ⟨h, -⟩
  · rw [h]
    exact List.cons_ne_nil _ _
  · exact h

namespace Json

open Numeral

/-- No number goes on with this text. -/
def EndsNumber (t : Text) : Prop :=
  ∀ c ∈ t.head?, c.isDigit = false ∧ c ≠ '.' ∧ c ≠ 'e' ∧ c ≠ 'E'

theorem wholePart_append {whole rest : Text}
    (hwhole : whole = ['0'] ∨ whole ≠ [] ∧ whole.head? ≠ some '0')
    (hdigits : ∀ c ∈ whole, c.isDigit = true) (hrest : ∀ c ∈ rest.head?, c.isDigit = false) :
    wholePart (whole ++ rest) = some (whole, rest) := by
  rcases hwhole with rfl | ⟨hne, hhead⟩
  · rfl
  · have hsplit := splitDigits_append hdigits hrest
    obtain ⟨d, ds, rfl⟩ := List.exists_cons_of_ne_nil hne
    have hd : d ≠ '0' := fun h => hhead (congrArg some h)
    rw [wholePart, hsplit]
    · rfl
    · intro _ h
      exact hd (List.cons.inj h).1

theorem fractionPart_append {fraction : Option Text} {rest : Text}
    (hfraction : ∀ digits ∈ fraction, digits ≠ [] ∧ ∀ c ∈ digits, c.isDigit = true)
    (hrest : ∀ c ∈ rest.head?, c.isDigit = false ∧ c ≠ '.') :
    fractionPart (fractionText fraction ++ rest) = some (fraction, rest) := by
  cases fraction with
  | none =>
      show fractionPart rest = _
      rw [fractionPart]
      rintro rest' rfl
      exact (hrest '.' rfl).2 rfl
  | some digits =>
      obtain ⟨hne, hdigits⟩ := hfraction digits rfl
      have hsplit := splitDigits_append hdigits fun c hc => (hrest c hc).1
      show fractionPart ('.' :: (digits ++ rest)) = _
      rw [fractionPart, hsplit]
      simp [hne]

theorem exponentPart_append (exponent : Option ℤ) {rest : Text} (hrest : EndsNumber rest) :
    exponentPart (exponentText exponent ++ rest) = some (exponent, rest) := by
  cases exponent with
  | none =>
      show exponentPart rest = _
      cases rest with
      | nil => rfl
      | cons c rest =>
          obtain ⟨-, -, he, hE⟩ := hrest c rfl
          rw [exponentPart, if_neg (by simp [he, hE])]
  | some e =>
      have hdigits : ∀ c ∈ Nat.toDigits 10 e.natAbs, c.isDigit = true :=
        fun c hc => Nat.isDigit_of_mem_toDigits (by decide) (by decide) hc
      have hsplit := splitDigits_append hdigits fun c hc => (hrest c hc).1
      have hsign : splitSign ((if e < 0 then '-' else '+') :: (Nat.toDigits 10 e.natAbs ++ rest)) =
          (decide (e < 0), Nat.toDigits 10 e.natAbs ++ rest) := by
        by_cases he : e < 0
        · rw [if_pos he, decide_eq_true he]
          rfl
        · rw [if_neg he, decide_eq_false he]
          rfl
      show exponentPart ('e' :: (if e < 0 then '-' else '+') ::
        (Nat.toDigits 10 e.natAbs ++ rest)) = _
      rw [exponentPart, if_pos (Or.inl rfl), hsign]
      simp only [hsplit, signedInteger_toDigits]
      simp [Nat.toDigits_ne_nil]

/-- What follows the digits in front of the point does not begin with a digit. -/
theorem head?_fractionText_append (fraction : Option Text) {rest : Text}
    (hrest : ∀ c ∈ rest.head?, c.isDigit = false) :
    ∀ c ∈ (fractionText fraction ++ rest).head?, c.isDigit = false := by
  cases fraction with
  | none => exact hrest
  | some digits =>
      rintro c ⟨⟩
      decide

/-- What follows the digits behind the point begins with no digit and no point. -/
theorem head?_exponentText_append (exponent : Option ℤ) {rest : Text} (hrest : EndsNumber rest) :
    ∀ c ∈ (exponentText exponent ++ rest).head?, c.isDigit = false ∧ c ≠ '.' := by
  cases exponent with
  | none =>
      intro c hc
      obtain ⟨hdigit, hpoint, -⟩ := hrest c hc
      exact ⟨hdigit, hpoint⟩
  | some e =>
      rintro c ⟨⟩
      decide

/-- **A number is read back from its text**, if nothing that follows goes on with it. -/
theorem number?_append {n : Numeral} (hn : n.Strict) {rest : Text} (hrest : EndsNumber rest) :
    number? (n.text ++ rest) = some (n, rest) := by
  have hne := hn.whole_ne_nil
  obtain ⟨negative, whole, fraction, exponent⟩ := n
  obtain ⟨hwhole, hdigits, hfraction⟩ := hn
  simp only at hne hwhole hdigits hfraction
  have hpower := head?_exponentText_append exponent hrest
  have hpoint := head?_fractionText_append fraction fun c hc => (hpower c hc).1
  have hexponent := exponentPart_append exponent hrest
  have hfractionPart := fractionPart_append hfraction hpower
  have hwholePart := wholePart_append hwhole hdigits hpoint
  have hsign : ∀ u, (if (sign negative ++ (whole ++ u)).head? = some '-' then
      (true, (sign negative ++ (whole ++ u)).drop 1) else (false, sign negative ++ (whole ++ u))) =
        (negative, whole ++ u) := by
    intro u
    cases negative with
    | true => rfl
    | false =>
        obtain ⟨d, ds, rfl⟩ := List.exists_cons_of_ne_nil hne
        have hd : d ≠ '-' := ne_of_isDigit (hdigits d List.mem_cons_self) (by decide)
        exact if_neg fun h => hd (Option.some.inj h)
  unfold number?
  simp only [Numeral.text, List.append_assoc, hsign, hwholePart, Option.bind_eq_bind,
    Option.bind_some, hfractionPart, hexponent]
  rfl

/-! ## Tokens -/

/-- What begins with none of the other tokens' first characters is a number. -/
theorem token?_eq_number? {c : Char}
    (hc : c ∉ ['[', ']', '\x7b', '\x7d', ',', ':', '"', 'n', 't', 'f']) (t : Text) :
    token? (c :: t) = (number? (c :: t)).map fun found => (.number found.1, found.2) := by
  have hne : ∀ d ∈ ['[', ']', '\x7b', '\x7d', ',', ':', '"', 'n', 't', 'f'], ∀ u,
      c :: t ≠ d :: u := by
    intro d hd u h
    exact hc ((List.cons.inj h).1 ▸ hd)
  rw [token?]
  all_goals exact fun _ => hne _ (by decide) _

/-- A number begins with a minus sign or a digit. -/
theorem exists_text_eq_cons {n : Numeral} (hn : n.Strict) :
    ∃ c t, n.text = c :: t ∧ ∀ d, d ≠ '-' → d.isDigit = false → c ≠ d := by
  obtain ⟨negative, whole, fraction, exponent⟩ := n
  cases negative with
  | true => exact ⟨'-', _, rfl, fun d hd _ => hd.symm⟩
  | false =>
      obtain ⟨d, ds, rfl⟩ := List.exists_cons_of_ne_nil hn.whole_ne_nil
      have hdigit := hn.isDigit_whole d List.mem_cons_self
      exact ⟨d, _, rfl, fun c _ hc => ne_of_isDigit hdigit hc⟩

theorem token?_text {n : Numeral} (hn : n.Strict) {rest : Text} (hrest : EndsNumber rest) :
    token? (n.text ++ rest) = some (.number n, rest) := by
  obtain ⟨c, t, htext, hc⟩ := exists_text_eq_cons hn
  have hother : c ∉ ['[', ']', '\x7b', '\x7d', ',', ':', '"', 'n', 't', 'f'] := by
    have hothers : ∀ d ∈ ['[', ']', '\x7b', '\x7d', ',', ':', '"', 'n', 't', 'f'],
        d ≠ '-' ∧ d.isDigit = false := by decide
    intro hmem
    exact hc c (hothers c hmem).1 (hothers c hmem).2 rfl
  have hread := number?_append hn hrest
  rw [htext, List.cons_append] at hread ⊢
  rw [token?_eq_number? hother, hread]
  rfl

/-! ## Rows of tokens -/

theorem tokensWithin_mono {n m : ℕ} {t : Text} {tokens : List Token} (hnm : n ≤ m)
    (h : tokensWithin n t = some tokens) : tokensWithin m t = some tokens := by
  induction n generalizing m t tokens with
  | zero => cases h
  | succ n ih =>
      obtain ⟨m, rfl⟩ := Nat.exists_eq_add_of_lt hnm
      have hnm' : n ≤ n + m := Nat.le_add_right n m
      cases t with
      | nil => exact h
      | cons c rest =>
          rw [tokensWithin] at h ⊢
          by_cases hc : isSpace c = true
          · rw [if_pos hc] at h ⊢
            exact ih hnm' h
          · rw [if_neg hc] at h ⊢
            obtain ⟨⟨token, rest'⟩, htoken, h⟩ := Option.bind_eq_some_iff.mp h
            obtain ⟨tokens', htokens, h⟩ := Option.bind_eq_some_iff.mp h
            rw [htoken]
            show (tokensWithin (n + m) rest' >>= _) = _
            rw [ih hnm' htokens]
            exact h

theorem tokens?_cons_space {c : Char} (hc : isSpace c = true) (rest : Text) :
    tokens? (c :: rest) = tokens? rest := by
  unfold tokens?
  rw [List.length_cons, tokensWithin, if_pos hc]

theorem tokens?_spaces_append {spaces : Text} (hspaces : ∀ c ∈ spaces, isSpace c = true)
    (rest : Text) : tokens? (spaces ++ rest) = tokens? rest := by
  induction spaces with
  | nil => rfl
  | cons c spaces ih =>
      rw [List.cons_append, tokens?_cons_space (hspaces c List.mem_cons_self)]
      exact ih fun d hd => hspaces d (List.mem_cons_of_mem c hd)

/-- **The tokens of a text** are its first token and the tokens of the rest. -/
theorem tokens?_append {c : Char} {t rest : Text} {token : Token} {tokens : List Token}
    (hc : isSpace c = false) (htoken : token? (c :: t ++ rest) = some (token, rest))
    (hrest : tokens? rest = some tokens) : tokens? (c :: t ++ rest) = some (token :: tokens) := by
  have hmore : tokensWithin (t ++ rest).length.succ rest = some tokens := by
    apply tokensWithin_mono _ hrest
    rw [List.length_append]
    omega
  rw [List.cons_append] at htoken ⊢
  unfold tokens?
  rw [List.length_cons, tokensWithin, if_neg (Bool.eq_false_iff.mp hc), htoken]
  show (tokensWithin (t ++ rest).length.succ rest >>= _) = _
  rw [hmore]
  rfl

/-! ## Texts that begin with a token -/

/-- A token of one character that stands for itself. -/
theorem tokens?_mark {c : Char} {token : Token} {rest : Text} {ts : List Token}
    (hc : isSpace c = false) (htoken : ∀ u, token? (c :: u) = some (token, u))
    (hrest : tokens? rest = some ts) : tokens? (c :: rest) = some (token :: ts) :=
  tokens?_append (t := []) hc (htoken rest) hrest

theorem tokens?_stringText_append {t rest : Text} {ts : List Token}
    (hrest : tokens? rest = some ts) :
    tokens? (stringText t ++ rest) = some (.string (some t) :: ts) :=
  tokens?_append (c := '"') rfl (token?_stringText t rest) hrest

theorem tokens?_text_append {n : Numeral} (hn : n.Strict) {rest : Text} {ts : List Token}
    (hends : EndsNumber rest) (hrest : tokens? rest = some ts) :
    tokens? (n.text ++ rest) = some (.number n :: ts) := by
  have htoken := token?_text hn hends
  obtain ⟨c, t, htext, hc⟩ := exists_text_eq_cons hn
  have hspace : isSpace c = false := by
    simp only [isSpace, Bool.or_eq_false_iff, beq_eq_false_iff_ne]
    exact ⟨⟨⟨hc ' ' (by decide) rfl, hc '\n' (by decide) rfl⟩, hc '\t' (by decide) rfl⟩,
      hc '\r' (by decide) rfl⟩
  rw [htext] at htoken ⊢
  exact tokens?_append hspace htoken hrest

end Json

end QueryOptions
