import QueryOptions.Proofs.Clause.SortKey
import QueryOptions.Proofs.Clause.Tokens
import QueryOptions.Proofs.Success

/-!
# Layout and letter case

The same conditions can be written in many ways.  Blanks of every kind may stand at the two ends,
around the word `and`, between the three parts of a clause, inside the parentheses of a list and
around its commas; and the letters of an operator may be of either case.  Whatever is chosen, the
conditions are the same, and so it is with the sort keys of an order-by option, where a direction
that says `asc` may also be left out (`mapM_ofText_of_spellsAll`).

`Spells` says how one clause can be written, `SpellsAll` how a row of them can.  Each place for
blanks is looked after by another reader, and each lemma below is about one of them:

```text
  at the ends            clauses_blanks,  items_of_padded
  around the word        clauses_append_gap_and
  within a clause        Condition.ofText_of_spells,  SortKey.ofText_of_spells
  within a list          Operand.ofText_of_spells
  around a comma         items_join_eq_trimAll
```
-/

namespace QueryOptions

open Text Conjunction

/-! ## Conditions -/

namespace Condition

/-- A way to write conditions in a row, with the word between two of them and a gap on either side
of it. -/
inductive SpellsRow : List Condition → Text → Prop
  | nil : SpellsRow [] []
  | single {c : Condition} {s : Text} (h : c.Spells s) : SpellsRow [c] s
  | cons {c d : Condition} {cs : List Condition} {s m m' t : Text} (h : c.Spells s)
      (hm : IsGap m) (hm' : IsGap m') (ht : SpellsRow (d :: cs) t) :
      SpellsRow (c :: d :: cs) (s ++ (m ++ ("and".toList ++ (m' ++ t))))

/-- A way to write the conditions of a filter: in a row, with any blanks around it. -/
def SpellsAll (cs : List Condition) (t : Text) : Prop := ∃ row, SpellsRow cs row ∧ Padded row t

variable {cs : List Condition} {t : Text}

/-- The clauses of a written row are what was written for each condition. -/
theorem forall₂_clauses_of_spellsRow (hcs : ∀ c ∈ cs, c.WellFormed ∧ '\'' ∉ c.property)
    (h : SpellsRow cs t) : List.Forall₂ Spells cs (clauses t) := by
  induction h with
  | nil =>
      rw [clauses_nil]
      exact .nil
  | @single c s h =>
      obtain ⟨hc, hquote⟩ := hcs c List.mem_cons_self
      rw [(clauses_of_spells hc hquote h).1]
      exact .cons h .nil
  | @cons c d cs s m m' t h hm hm' _ ih =>
      obtain ⟨⟨hc, hquote⟩, hcs⟩ := List.forall_mem_cons.mp hcs
      obtain ⟨hclause, hclosed⟩ := clauses_of_spells hc hquote h
      have hopen : leavesOpen none (tokens none s) = true → close? t = none := by
        intro hopen
        rw [hclosed] at hopen
        cases hopen
      rw [clauses_append_gap_and hm hm' hopen, hclause]
      exact .cons h (ih hcs)

theorem mapM_clauses_of_spellsAll (hcs : ∀ c ∈ cs, c.WellFormed ∧ '\'' ∉ c.property)
    (h : SpellsAll cs t) : (clauses t).mapM ofText = .ok cs := by
  obtain ⟨row, hrow, l, r, hl, hr, rfl⟩ := h
  rw [clauses_blanks hl hr]
  apply mapM_eq_ok_of_forall₂ (forall₂_clauses_of_spellsRow hcs hrow)
  intro c hc s hs
  exact ofText_of_spells (hcs c hc).1 hs

end Condition

/-! ## Sort keys -/

namespace SortKey

/-- A way to write the sort keys of an order-by option: with commas between them and any blanks
around each, and around them all. -/
def SpellsAll (keys : List SortKey) (t : Text) : Prop :=
  ∃ ps, List.Forall₂ (fun k p => ∃ s, Spells k s ∧ Padded s p) keys ps ∧ Padded (join [','] ps) t

variable {keys : List SortKey} {t : Text}

/-- The parts of a written list are what was written for each sort key. -/
theorem forall₂_trimAll_of_spells {ps : List Text} (hkeys : ∀ k ∈ keys, k.WellFormed)
    (h : List.Forall₂ (fun k p => ∃ s, Spells k s ∧ Padded s p) keys ps) :
    (∀ p ∈ ps, ',' ∉ p) ∧ List.Forall₂ Spells keys (trimAll ps) := by
  induction h with
  | nil => exact ⟨fun p hp => absurd hp List.not_mem_nil, .nil⟩
  | cons hp _ ih =>
      obtain ⟨s, hs, hpadded⟩ := hp
      obtain ⟨hk, hkeys⟩ := List.forall_mem_cons.mp hkeys
      obtain ⟨hfree, hparts⟩ := ih hkeys
      obtain ⟨hne, htrim, hcomma⟩ := hs.part hk
      have hpart : trim _ = s := hpadded.trim_eq.trans htrim
      refine ⟨List.forall_mem_cons.mpr ⟨hpadded.not_mem (by decide) hcomma, hfree⟩, ?_⟩
      rw [trimAll_cons_of_ne_nil (by rwa [hpart]), hpart]
      exact .cons hs hparts

theorem mapM_items_of_spellsAll (hkeys : ∀ k ∈ keys, k.WellFormed) (h : SpellsAll keys t) :
    (items ',' t).mapM ofText = .ok keys := by
  obtain ⟨ps, hps, hpadded⟩ := h
  obtain ⟨hfree, hspells⟩ := forall₂_trimAll_of_spells hkeys hps
  rw [items_of_padded (by decide) hpadded, items_join_eq_trimAll hfree]
  apply mapM_eq_ok_of_forall₂ hspells
  intro k hk s hs
  exact ofText_of_spells (hkeys k hk) hs

end SortKey

/-! ## The main statement -/

/-- **Layout and letter case do not matter.**  Well-formed conditions on properties without
apostrophes are read from everything that spells them, and so are well-formed sort keys. -/
theorem mapM_ofText_of_spellsAll :
    (∀ cs t, (∀ c ∈ cs, c.WellFormed ∧ '\'' ∉ c.property) → Condition.SpellsAll cs t →
        (clauses t).mapM Condition.ofText = .ok cs) ∧
      ∀ keys t, (∀ k ∈ keys, k.WellFormed) → SortKey.SpellsAll keys t →
        (items ',' t).mapM SortKey.ofText = .ok keys :=
  ⟨fun _ _ hcs h => Condition.mapM_clauses_of_spellsAll hcs h,
    fun _ _ hkeys h => SortKey.mapM_items_of_spellsAll hkeys h⟩

/-- Six kinds of blanks, letters of both cases, and a direction once written and once left out. -/
theorem mapM_ofText_of_spellsAll_mixed :
    (clauses "\t eq\u3000iN\n( ' and ' ,\u00a05\t)\nand  b NE ''  ".toList).mapM
          Condition.ofText =
        .ok [⟨"eq".toList, .isIn, .list [.string " and ".toList, .integer 5]⟩,
          ⟨"b".toList, .notEqual, .single .null⟩] ∧
      (items ',' " x/y\u2003DeSC\t,asc , z Asc ".toList).mapM SortKey.ofText =
        .ok [⟨"x/y".toList, .descending⟩, ⟨"asc".toList, .ascending⟩,
          ⟨"z".toList, .ascending⟩] := by
  have hliterals : List.Forall₂ (fun l p => Padded (Literal.text l) p)
      [.string " and ".toList, .integer 5] [" ' and ' ".toList, "\u00a05\t".toList] :=
    .cons ⟨" ".toList, " ".toList, by decide, by decide, rfl⟩ <|
      .cons ⟨"\u00a0".toList, "\t".toList, by decide, by decide, rfl⟩ .nil
  have hin : Condition.Spells ⟨"eq".toList, .isIn, .list [.string " and ".toList, .integer 5]⟩
      "eq\u3000iN\n( ' and ' ,\u00a05\t)".toList :=
    ⟨"\u3000".toList, "iN".toList, "\n".toList, _, ⟨by decide, by decide⟩, by decide,
      ⟨by decide, by decide⟩, .list hliterals, rfl⟩
  have hnull : Condition.Spells ⟨"b".toList, .notEqual, .single .null⟩ "b NE ''".toList :=
    ⟨" ".toList, "NE".toList, " ".toList, _, isGap_space, by decide, isGap_space,
      .single .null, rfl⟩
  have hbefore : IsGap "\n".toList := ⟨by decide, by decide⟩
  have hbehind : IsGap "  ".toList := ⟨by decide, by decide⟩
  have hdescending : SortKey.Spells ⟨"x/y".toList, .descending⟩ "x/y\u2003DeSC".toList :=
    have hgap : IsGap "\u2003".toList := ⟨by decide, by decide⟩
    have hword : Text.lower "DeSC".toList = Direction.descending.code := rfl
    .directed hgap hword
  have hascending : SortKey.Spells ⟨"z".toList, .ascending⟩ "z Asc".toList :=
    have hword : Text.lower "Asc".toList = Direction.ascending.code := rfl
    .directed isGap_space hword
  have hkeys : List.Forall₂ (fun k p => ∃ s, SortKey.Spells k s ∧ Padded s p)
      [⟨"x/y".toList, .descending⟩, ⟨"asc".toList, .ascending⟩, ⟨"z".toList, .ascending⟩]
      [" x/y\u2003DeSC\t".toList, "asc ".toList, " z Asc ".toList] :=
    .cons ⟨_, hdescending, " ".toList, "\t".toList, by decide, by decide, rfl⟩ <|
      .cons ⟨_, .property _, [], " ".toList, by decide, by decide, rfl⟩ <|
        .cons ⟨_, hascending, " ".toList, " ".toList, by decide, by decide, rfl⟩ .nil
  constructor
  · apply mapM_ofText_of_spellsAll.1
    · decide +kernel
    · exact ⟨_, .cons hin hbefore hbehind (.single hnull), "\t ".toList, "  ".toList, by decide,
        by decide, by decide +kernel⟩
  · apply mapM_ofText_of_spellsAll.2
    · decide
    · exact ⟨_, hkeys, padded_self _⟩

end QueryOptions
