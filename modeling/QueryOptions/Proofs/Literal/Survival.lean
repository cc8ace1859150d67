import Mathlib.Tactic.TFAE
import QueryOptions.Proofs.Literal.Reading

/-!
# The literals that survive their own text

A literal that was built by hand may be lost when it is written and read again.  A string loses its
apostrophes, an empty string turns into null, a double that is an integer of 64 bits turns into that
integer, and `NaN` and `inf` are read as strings.  These are all the losses: the literals that are
read back from their own text, those that any text at all is read as, and the canonical ones are the
same literals (`Literal.tfae_canonical`).

The same holds of a list (`Operand.tfae_literals`), which has two losses of its own: without a
literal it is read as the list of null, and a string with a comma falls into two.  Reading a list
always gives as many literals as the text has pieces.

To be read back means to be equal as literals compare, and doubles do not compare by their signs
and codes.  This makes no difference in the end, since the doubles on which the two ways to compare
disagree, the zeros and `NaN`, are not canonical.
-/

namespace QueryOptions

/-! ## How literals compare -/

/-- Equality as doubles compare: the two zeros are equal, and `NaN` is equal to nothing. -/
def Binary64.Equals : Binary64 → Binary64 → Prop
  | .signed negative m, .signed negative' m' => m = m' ∧ (negative = negative' ∨ m = .zero)
  | _, _ => False

namespace Literal

/-- Equality as literals compare. -/
def Equals : Literal → Literal → Prop
  | float x, float y => x.Equals y
  | l, k => l = k

theorem equals_refl_of_canonical {l : Literal} (hl : l.Canonical) : l.Equals l := by
  cases l with
  | float x =>
      cases x with
      | nan => exact absurd hl.1 (by decide)
      | signed negative m => exact ⟨rfl, Or.inl rfl⟩
  | integer _ | boolean _ | string _ | null => rfl

/-- No zero is a canonical double, so what compares equal to one is the same double. -/
theorem eq_of_equals_of_canonical {l k : Literal} (hl : l.Canonical) (h : l.Equals k) : l = k := by
  cases l with
  | float x =>
      cases k with
      | float y =>
          cases x with
          | nan => exact absurd hl.1 (by decide)
          | signed negative m =>
              have hne : m ≠ .zero := Binary64.ne_zero_of_toInt64? ((canonical_float hl.1).mp hl)
              cases y with
              | nan => exact absurd h id
              | signed negative' m' =>
                  obtain ⟨rfl, hsign⟩ := h
                  rw [hsign.resolve_right hne]
      | integer _ | boolean _ | string _ | null => exact h
  | integer _ | boolean _ | string _ | null => exact h

/-! ## The main statement -/

/-- **A literal survives its own text exactly if some text is read as it**, and both hold of the
canonical literals.  So whatever a text is read as is read back from its text. -/
theorem tfae_canonical :
    (∀ l : Literal, List.TFAE [(ofText l.text).Equals l, ∃ raw, l = ofText raw, l.Canonical]) ∧
      ∀ raw, ofText (ofText raw).text = ofText raw := by
  refine ⟨fun l => ?_, fun raw => ofText_text (canonical_ofText raw)⟩
  tfae_have 1 → 2 := fun h => ⟨l.text, (eq_of_equals_of_canonical (canonical_ofText _) h).symm⟩
  tfae_have 2 → 3 := by
    rintro ⟨raw, rfl⟩
    exact canonical_ofText raw
  tfae_have 3 → 1 := by
    intro hl
    rw [ofText_text hl]
    exact equals_refl_of_canonical hl
  tfae_finish

/-- A negative zero is lost: its text is that of an integer. -/
example : ofText (float (.signed true .zero)).text = integer 0 := by decide +kernel

end Literal

/-! ## Lists -/

namespace Operand

open Text

/-- What a text holds once one opening parenthesis at its start is gone, if it is there, and then
one closing parenthesis at its end. -/
def Encloses (t inner : Text) : Prop :=
  ∃ opening closing, t = opening ++ (inner ++ closing) ∧
    (opening = ['('] ∨ opening = [] ∧ t.head? ≠ some '(') ∧
      (closing = [')'] ∨ closing = [] ∧ inner.getLast? ≠ some ')')

/-- The pieces between the commas of a text: one at least, and none with a comma in it. -/
structure IsCut (inner : Text) (ps : List Text) : Prop where
  ne_nil : ps ≠ []
  no_comma : ∀ p ∈ ps, ',' ∉ p
  join_eq : join [','] ps = inner

theorem dropOpening_append {opening inner closing : Text}
    (h : opening = ['('] ∨ opening = [] ∧ (opening ++ (inner ++ closing)).head? ≠ some '(') :
    dropOpening (opening ++ (inner ++ closing)) = inner ++ closing := by
  rcases h with rfl | ⟨rfl, hhead⟩
  · rfl
  · unfold dropOpening
    split
    · rename_i rest hrest
      rw [hrest] at hhead
      exact absurd rfl hhead
    · rfl

theorem dropClosing_append {inner closing : Text}
    (h : closing = [')'] ∨ closing = [] ∧ inner.getLast? ≠ some ')') :
    dropClosing (inner ++ closing) = inner := by
  rcases h with rfl | ⟨rfl, hlast⟩
  · simp [dropClosing]
  · rw [List.append_nil, dropClosing, if_neg hlast]

theorem exists_opening (t : Text) :
    ∃ opening, t = opening ++ dropOpening t ∧
      (opening = ['('] ∨ opening = [] ∧ t.head? ≠ some '(') := by
  unfold dropOpening
  split
  · exact ⟨['('], rfl, Or.inl rfl⟩
  · rename_i hne
    refine ⟨[], rfl, Or.inr ⟨rfl, fun hhead => ?_⟩⟩
    obtain ⟨rest, hrest⟩ := List.head?_eq_some_iff.mp hhead
    exact hne rest hrest

theorem exists_closing (t : Text) :
    ∃ closing, t = dropClosing t ++ closing ∧
      (closing = [')'] ∨ closing = [] ∧ (dropClosing t).getLast? ≠ some ')') := by
  unfold dropClosing
  split
  · rename_i hlast
    exact ⟨[')'], (List.dropLast_append_getLast? ')' hlast).symm, Or.inl rfl⟩
  · rename_i hlast
    exact ⟨[], (List.append_nil t).symm, Or.inr ⟨rfl, hlast⟩⟩

/-- A text encloses one text only. -/
theorem encloses_iff {t inner : Text} :
    Encloses t inner ↔ inner = dropClosing (dropOpening t) := by
  constructor
  · rintro ⟨opening, closing, rfl, hopening, hclosing⟩
    rw [dropOpening_append hopening, dropClosing_append hclosing]
  · rintro rfl
    obtain ⟨opening, ht, hopening⟩ := exists_opening t
    obtain ⟨closing, hinner, hclosing⟩ := exists_closing (dropOpening t)
    refine ⟨opening, closing, ?_, hopening, hclosing⟩
    rw [← hinner]
    exact ht

/-- A text has one list of pieces only. -/
theorem isCut_iff {inner : Text} {ps : List Text} : IsCut inner ps ↔ ps = inner.splitOn ',' := by
  constructor
  · rintro ⟨hne, hfree, rfl⟩
    exact (List.splitOn_intercalate ',' hfree hne).symm
  · rintro rfl
    refine ⟨List.splitOn_ne_nil ',' inner, fun p hp hcomma => ?_, List.intercalate_splitOn ','⟩
    rw [List.splitOn_eq_splitOnP] at hp
    have hfree := (of_mem_splitOnP hp _ hcomma).1
    simp at hfree

/-- Reading a list means reading each of its pieces. -/
theorem literals_eq_iff {raw : Text} {ls : List Literal} :
    literals raw = ls ↔
      ∃ inner ps, Encloses raw.trim inner ∧ IsCut inner ps ∧ ls = ps.map Literal.ofText := by
  constructor
  · rintro rfl
    exact ⟨_, _, encloses_iff.mpr rfl, isCut_iff.mpr rfl, rfl⟩
  · rintro ⟨inner, ps, hinner, hps, rfl⟩
    rw [literals, pieces, ← encloses_iff.mp hinner, ← isCut_iff.mp hps]

/-- What compares equal to a list of canonical literals is the same list. -/
theorem eq_of_forall₂_equals {ls ks : List Literal} (h : List.Forall₂ Literal.Equals ls ks)
    (hls : ∀ l ∈ ls, l.Canonical) : ls = ks := by
  induction h with
  | nil => rfl
  | cons hl _ ih =>
      obtain ⟨hcanonical, hls⟩ := List.forall_mem_cons.mp hls
      rw [Literal.eq_of_equals_of_canonical hcanonical hl, ih hls]

/-- **A list survives its own text exactly if some text is read as it**, and both hold of the lists
of one canonical literal or more that have no comma in a string.  Whatever the text, the list has
one literal for each piece between its commas. -/
theorem tfae_literals :
    (∀ ls : List Literal, List.TFAE
        [List.Forall₂ Literal.Equals (literals (list ls).text) ls, ∃ raw, ls = literals raw,
          ls ≠ [] ∧ ∀ l ∈ ls, l.Canonical ∧ ∀ s, l = .string s → ',' ∉ s]) ∧
      ∀ raw ls, literals raw = ls ↔
        ∃ inner ps, Encloses raw.trim inner ∧ IsCut inner ps ∧ ls = ps.map Literal.ofText := by
  have hread : ∀ raw, (list (literals raw)).Canonical .isIn :=
    fun raw => canonical_ofText .isIn raw
  refine ⟨fun ls => ?_, fun raw ls => literals_eq_iff⟩
  tfae_have 1 → 2 := by
    intro h
    have hcanonical : ∀ l ∈ literals (list ls).text, l.Canonical :=
      fun l hl => ((hread _).2.2 l hl).1
    exact ⟨(list ls).text, (eq_of_forall₂_equals h hcanonical).symm⟩
  tfae_have 2 → 3 := by
    rintro ⟨raw, rfl⟩
    exact (hread raw).2
  tfae_have 3 → 1 := by
    rintro ⟨hne, hls⟩
    have hcanonical : (list ls).Canonical .isIn := ⟨rfl, hne, hls⟩
    have htext : literals (list ls).text = ls := list.inj (ofText_text hcanonical)
    rw [htext, List.forall₂_same]
    exact fun l hl => Literal.equals_refl_of_canonical (hls l hl).1
  tfae_finish

/-- One parenthesis is taken off on either side, and an empty piece is null. -/
example : literals " ((1,) ".toList = [.string "(1".toList, .null] := by decide +kernel

end Operand

end QueryOptions
