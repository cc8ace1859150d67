import QueryOptions.Proofs.Number.Integral
import QueryOptions.Proofs.Text.Parts

/-!
# The literals that are read

Not every literal has a text that is read as it.  A string with an apostrophe loses it, an empty
string is null, and a double that is an integer of 64 bits is an integer.  The literals that are
left are the canonical ones, and what a reader returns is always one of them
(`Literal.canonical_ofText`, `Operand.canonical_ofText`).

For an operand there is one more condition: a list has at least one literal, and a string in it
has no comma, since that is where the list is cut.
-/

namespace QueryOptions

/-! ## One literal -/

namespace Literal

/-- A literal that a text can be read as. -/
def Canonical : Literal → Prop
  | integer _ => True
  | float x =>
    x.isFinite = true ∧ ∀ z : ℤ, -2 ^ 63 ≤ z → z < 2 ^ 63 → x.value ≠ z
  | boolean _ => True
  | string s => s ≠ [] ∧ '\'' ∉ s
  | null => True

theorem canonical_float {x : Binary64} (hx : x.isFinite = true) :
    (float x).Canonical ↔ x.toInt64? = none := by
  rw [Binary64.toInt64?_eq_none_iff hx]
  constructor
  · rintro ⟨-, h⟩ z hz
    rw [Binary64.isWord_iff] at hz
    exact h z hz.1 hz.2
  · intro h
    refine ⟨hx, fun z hlower hupper => h z ?_⟩
    rw [Binary64.isWord_iff]
    exact ⟨hlower, hupper⟩

instance : DecidablePred Canonical
  | integer _ => isTrue trivial
  | float x =>
    decidable_of_iff (x.isFinite = true ∧ x.toInt64? = none)
      ⟨fun h => (canonical_float h.1).mpr h.2, fun h => ⟨h.1, (canonical_float h.1).mp h⟩⟩
  | boolean _ => isTrue trivial
  | string s => inferInstanceAs (Decidable (s ≠ [] ∧ '\'' ∉ s))
  | null => isTrue trivial

/-- What a numeral is: an integer, or a double that is none. -/
theorem ofNumeral?_cases {n : Numeral} {l : Literal} (h : ofNumeral? n = some l) :
    (∃ z, l = integer z) ∨ ∃ x : Binary64, l = float x ∧ x.isFinite = true ∧ x.toInt64? = none := by
  unfold ofNumeral? at h
  split at h
  · rename_i z _
    exact Or.inl ⟨Int64.ofInt z, (Option.some.inj h).symm⟩
  · simp only at h
    split at h
    · rename_i hfinite
      rw [← Option.some.inj h]
      cases hword : (Binary64.ofNumeral n).toInt64? with
      | none => exact Or.inr ⟨_, rfl, hfinite, hword⟩
      | some z => exact Or.inl ⟨z, rfl⟩
    · cases h

/-- What a text is: a number, if it is a numeral that has a double, and otherwise a truth value, or
what is left of it without the apostrophes. -/
theorem ofText_cases (raw : Text) :
    (∃ n, Numeral.ofText? raw.trim = some n ∧ ofNumeral? n = some (ofText raw)) ∨
      (∃ b, raw.trim = booleanText b ∧ ofText raw = boolean b) ∨
      ofText raw = ofUnquoted (unquoted raw.trim) := by
  unfold ofText ofTrimmed
  cases hnumber : number? raw.trim with
  | some l =>
      obtain ⟨n, hn, hl⟩ := Option.bind_eq_some_iff.mp hnumber
      exact Or.inl ⟨n, hn, hl⟩
  | none =>
      right
      simp only
      split_ifs with htrue hfalse
      · exact Or.inl ⟨true, htrue, rfl⟩
      · exact Or.inl ⟨false, hfalse, rfl⟩
      · exact Or.inr rfl

theorem not_mem_unquoted (t : Text) : '\'' ∉ unquoted t := by
  intro h
  simpa using (List.mem_filter.mp h).2

/-- **What a text is read as is canonical.** -/
theorem canonical_ofText (raw : Text) : (ofText raw).Canonical := by
  rcases ofText_cases raw with ⟨n, -, hl⟩ | ⟨b, -, h⟩ | h
  · rcases ofNumeral?_cases hl with ⟨z, h⟩ | ⟨x, h, hfinite, hword⟩
    · rw [h]
      trivial
    · rw [h]
      exact (canonical_float hfinite).mpr hword
  · rw [h]
    trivial
  · rw [h]
    cases hu : unquoted raw.trim with
    | nil => trivial
    | cons c u => exact ⟨List.cons_ne_nil c u, by rw [← hu]; exact not_mem_unquoted _⟩

/-- A string is what is left of the text without its apostrophes. -/
theorem eq_unquoted_of_ofText {raw s : Text} (h : ofText raw = string s) :
    s = unquoted raw.trim := by
  rcases ofText_cases raw with ⟨n, -, hl⟩ | ⟨b, -, hb⟩ | hu
  · rw [h] at hl
    rcases ofNumeral?_cases hl with ⟨z, hz⟩ | ⟨x, hx, -⟩
    · cases hz
    · cases hx
  · rw [h] at hb
    cases hb
  · rw [h] at hu
    cases hunquoted : unquoted raw.trim with
    | nil =>
        rw [hunquoted] at hu
        cases hu
    | cons c u =>
        rw [hunquoted] at hu
        exact string.inj hu

theorem mem_of_ofText {raw s : Text} (h : ofText raw = string s) : ∀ c ∈ s, c ∈ raw := by
  intro c hc
  rw [eq_unquoted_of_ofText h] at hc
  exact Text.mem_of_mem_trim (List.mem_of_mem_filter hc)

end Literal

/-! ## Operands -/

namespace Operator

theorem takesList_iff (o : Operator) : o.takesList = true ↔ o = .isIn := by
  cases o <;> simp [takesList]

end Operator

namespace Operand

/-- An operand that a text can be read as, after the given operator. -/
def Canonical (operator : Operator) : Operand → Prop
  | single l => operator ≠ .isIn ∧ l.Canonical
  | list ls =>
    operator = .isIn ∧ ls ≠ [] ∧
      ∀ l ∈ ls, l.Canonical ∧ ∀ s, l = .string s → ',' ∉ s

instance (l : Literal) : Decidable (∀ s, l = .string s → ',' ∉ s) :=
  match l with
  | .string s =>
    decidable_of_iff (',' ∉ s) ⟨fun h _ hs => Literal.string.inj hs ▸ h, fun h => h s rfl⟩
  | .integer _ | .float _ | .boolean _ | .null => isTrue (by simp)

instance (operator : Operator) : DecidablePred (Canonical operator)
  | single l => inferInstanceAs (Decidable (operator ≠ .isIn ∧ l.Canonical))
  | list ls => inferInstanceAs (Decidable (operator = .isIn ∧ ls ≠ [] ∧
      ∀ l ∈ ls, l.Canonical ∧ ∀ s, l = .string s → ',' ∉ s))

/-- **What a text is read as is canonical**, whatever the operator. -/
theorem canonical_ofText (operator : Operator) (raw : Text) :
    (ofText operator raw).Canonical operator := by
  unfold ofText
  split
  · rename_i hlist
    refine ⟨(Operator.takesList_iff operator).mp hlist, ?_, fun l hl => ?_⟩
    · simp [literals, pieces, List.splitOn_ne_nil]
    · obtain ⟨piece, hpiece, rfl⟩ := List.mem_map.mp hl
      refine ⟨Literal.canonical_ofText piece, fun s hs hcomma => ?_⟩
      unfold pieces at hpiece
      rw [List.splitOn_eq_splitOnP] at hpiece
      have hfree := (Text.of_mem_splitOnP hpiece _ (Literal.mem_of_ofText hs _ hcomma)).1
      simp at hfree
  · rename_i hsingle
    refine ⟨fun h => hsingle ((Operator.takesList_iff operator).mpr h), ?_⟩
    exact Literal.canonical_ofText raw

end Operand

end QueryOptions
