import QueryOptions.Proofs.Conjunction.Clauses

/-!
# How a clause begins

No clause begins with the word `and` and a blank behind it (`isBlank_of_mem_clauses`), although a
clause may be cut out from between two quotes or consist of what follows a stray word.  The reason
is in how a part begins in front of which it was cut.  At the start of the text a word can begin at
once, and behind a separator there is a blank first; so the first character of a clause that is not
blank stands where the separating word may start, and if that word did start there it would have
been a separator itself.

The proof is by induction on the length of the text: a part is in front of the first separator, or
it is a part of what follows it.
-/

namespace QueryOptions.Conjunction

open Text

/-! ## Tokens up to a separator -/

/-- The step of `exists_of_tokens_eq_append`. -/
theorem exists_of_tokens_eq_cons {b : Option Char} {t : Text} {token : Token} {ts : List Token}
    (h : tokens b t = token :: ts) :
    ∃ rest, t = token.text ++ rest ∧ ts = tokens (lastOr b token.text) rest ∧
      (token = .separator → blankAfter b = true ∧ blankBefore rest = true) := by
  cases hquote : quote? b t with
  | some found =>
      obtain ⟨run, rest⟩ := found
      rw [tokens_of_quote hquote] at h
      obtain ⟨rfl, rfl⟩ := List.cons.inj h
      obtain ⟨htext, -, -, inner, hinner⟩ := quote?_eq_some hquote
      have hlast : lastOr b run = some '\'' := by
        rw [hinner, lastOr_cons, lastOr_append]
        rfl
      exact ⟨rest, htext, by rw [← hlast]; rfl, nofun⟩
  | none =>
      cases hsep : separator? b t with
      | some rest =>
          rw [tokens_of_separator hquote hsep] at h
          obtain ⟨rfl, rfl⟩ := List.cons.inj h
          obtain ⟨htext, hfront, hblank⟩ := separator?_eq_some hsep
          exact ⟨rest, htext, rfl, fun _ => ⟨hfront, hblank⟩⟩
      | none =>
          cases t with
          | nil =>
              rw [tokens_nil] at h
              cases h
          | cons c t =>
              rw [tokens_of_plain hquote hsep] at h
              obtain ⟨rfl, rfl⟩ := List.cons.inj h
              exact ⟨t, rfl, rfl, nofun⟩

/-- Tokens behind a boundary are those of what follows, after the last character in front. -/
theorem exists_of_tokens_eq_append {b : Option Char} {t : Text} {us vs : List Token}
    (h : tokens b t = us ++ vs) :
    ∃ rest, t = us.flatMap Token.text ++ rest ∧
      vs = tokens (lastOr b (us.flatMap Token.text)) rest := by
  induction us generalizing b t with
  | nil => exact ⟨t, rfl, h.symm⟩
  | cons token us ih =>
      obtain ⟨rest, rfl, htokens, -⟩ := exists_of_tokens_eq_cons h
      obtain ⟨rest', hrest, hvs⟩ := ih htokens.symm
      refine ⟨rest', ?_, ?_⟩
      · rw [hrest, List.flatMap_cons, List.append_assoc]
      · rw [List.flatMap_cons, lastOr_append]
        exact hvs

/-- A separator stands between blanks or ends, and what follows it is read on its own, behind the
last letter of the word. -/
theorem exists_of_tokens_eq_append_separator {b : Option Char} {t : Text} {us vs : List Token}
    (h : tokens b t = us ++ .separator :: vs) :
    ∃ rest, t = us.flatMap Token.text ++ ("and".toList ++ rest) ∧
      blankAfter (lastOr b (us.flatMap Token.text)) = true ∧ blankBefore rest = true ∧
        vs = tokens (some 'd') rest := by
  obtain ⟨rest, htext, htokens⟩ := exists_of_tokens_eq_append h
  obtain ⟨rest', rfl, hvs, hsep⟩ := exists_of_tokens_eq_cons htokens.symm
  obtain ⟨hfront, hblank⟩ := hsep rfl
  exact ⟨rest', htext, hfront, hblank, hvs⟩

/-! ## The word at the beginning -/

/-- The word behind nothing but blanks is a separator. -/
theorem tokens_blanks_and {b : Option Char} {l rest : Text} (hl : AllBlank l)
    (hb : l = [] → blankAfter b = true) (hrest : blankBefore rest = true) :
    tokens b (l ++ ("and".toList ++ rest)) =
      l.map Token.plain ++ .separator :: tokens (some 'd') rest := by
  have hquote : quote? none ("and".toList ++ rest) = none := rfl
  rw [tokens_blanks_append hl fun hnil => tokens_of_blankAfter (hb hnil) _]
  exact congrArg _ (tokens_of_separator hquote (separator?_and rfl hrest))

theorem between_append_of_not_mem {us vs : List Token} (hus : Token.separator ∉ us) :
    between (us ++ .separator :: vs) = us.flatMap Token.text :: between vs := by
  rw [between_append_separator, between_eq_singleton hus]
  rfl

/-- What is in front of the first separator is determined by the tokens. -/
theorem takeWhile_append_separator {us : List Token} (hus : Token.separator ∉ us)
    (vs : List Token) : (us ++ .separator :: vs).takeWhile (· != .separator) = us := by
  have hall : ∀ t ∈ us, (t != Token.separator) = true := by
    intro t ht
    rw [bne_iff_ne]
    rintro rfl
    exact hus ht
  rw [List.takeWhile_append_of_pos hall]
  simp

/-- A part of a text does not begin with blanks, the word and another blank, if a word can start at
the beginning of the text or a blank does. -/
theorem isBlank_of_mem_between {b : Option Char} {t p l rest : Text} {c : Char}
    (hb : blankAfter b = true ∨ blankBefore t = true) (hp : p ∈ between (tokens b t))
    (hl : AllBlank l) (h : p = l ++ ("and".toList ++ c :: rest)) : isBlank c = false := by
  rw [Bool.eq_false_iff]
  intro hc
  induction hn : t.length using Nat.strong_induction_on generalizing b t with
  | _ n ih =>
      -- a part that begins the text begins with a separator, if it begins like that
      have hfirst : ∀ u, t = p ++ u →
          ∃ vs, tokens b t = l.map Token.plain ++ .separator :: vs := by
        intro u ht
        have ht' : t = l ++ ("and".toList ++ (c :: (rest ++ u))) := by
          rw [ht, h]
          simp
        have hrest : blankBefore (c :: (rest ++ u)) = true := hc
        refine ⟨_, ht' ▸ tokens_blanks_and hl (fun hnil => ?_) hrest⟩
        rcases hb with hb | hb
        · exact hb
        · rw [ht', hnil] at hb
          exact absurd (show isBlank 'a' = true from hb) (by decide)
      have hplain := separator_not_mem_plain l
      by_cases hsep : Token.separator ∈ tokens b t
      · obtain ⟨us, vs, htokens, hus⟩ := List.eq_append_cons_of_mem hsep
        obtain ⟨u, ht, -, hu, hvs⟩ := exists_of_tokens_eq_append_separator htokens
        rw [htokens, between_append_of_not_mem hus, List.mem_cons] at hp
        rcases hp with hp | hp
        -- the part in front of the first separator would be the blanks alone
        · obtain ⟨ws, hws⟩ := hfirst ("and".toList ++ u) (by rw [ht, hp])
          have hblanks : us = l.map Token.plain := by
            rw [← takeWhile_append_separator hus vs, ← htokens, hws,
              takeWhile_append_separator hplain]
          have hpl : p = l := by
            rw [hp, hblanks]
            exact flatMap_plain l
          have hlength := congrArg List.length (hpl.symm.trans h)
          simp at hlength
        -- a part of what follows the separator, which begins with a blank
        · refine ih u.length ?_ (Or.inr hu) (hvs ▸ hp) rfl
          rw [← hn, ht]
          simp
          omega
      · rw [between_eq_singleton hsep, flatMap_tokens, List.mem_singleton] at hp
        obtain ⟨ws, hws⟩ := hfirst [] (by rw [hp, List.append_nil])
        exact hsep (by simp [hws])

/-- **No clause begins with the word and a blank.** -/
theorem isBlank_of_mem_clauses {t p rest : Text} {c : Char} (hp : p ∈ clauses t)
    (h : p = "and".toList ++ c :: rest) : isBlank c = false := by
  obtain ⟨-, -, q, hq, rfl⟩ := mem_trimAll hp
  obtain ⟨l, r, hl, -, hqtext⟩ := exists_eq_append_trim_append q
  rw [h] at hqtext
  have hbegin : q = l ++ ("and".toList ++ c :: (rest ++ r)) := by
    rw [hqtext]
    simp
  exact isBlank_of_mem_between (Or.inl rfl) hq hl hbegin

end QueryOptions.Conjunction
