import QueryOptions.Proofs.Literal.Lossless
import QueryOptions.Proofs.Literal.Reading

/-!
# Which literal a text is

`Literal.Spells` says of every text which literal it is, in terms of the grammar of numerals and of
the values of doubles, and says nothing of how a text is read:

```text
  digits alone that spell an integer of 64 bits        that integer
  a numeral whose nearest double is such an integer    the integer that the double is
  a numeral whose nearest double is finite otherwise   the double
  true and false                                       the truth value
  all else, apostrophes taken out                      a string, or null if nothing is left
```

A numeral that is beyond every double belongs to the last line.  The reader reads every text as the
literal that it spells and as no other (`Literal.ofText_classified`).  That no text spells two
literals rests on the nearest double being unique; the two zeros, which are equally near to zero,
are both the integer 0.
-/

namespace QueryOptions

/-! ## Numerals -/

namespace Numeral

/-- What a numeral stands for. -/
inductive Denotes (n : Numeral) : Literal → Prop
  /-- Digits alone that fit are taken exactly. -/
  | digits {z : Int64} (hplain : n.PlainWord) (hvalue : n.value = z.toInt) : Denotes n (.integer z)
  /-- The nearest double is an integer of 64 bits. -/
  | rounded {x : Binary64} {z : Int64} (hplain : ¬ n.PlainWord) (hnearest : x.IsNearest n.value)
      (hvalue : x.value = z.toInt) : Denotes n (.integer z)
  /-- The nearest double is finite and no integer of 64 bits. -/
  | float {x : Binary64} (hplain : ¬ n.PlainWord) (hnearest : x.IsNearest n.value)
      (hfinite : x.isFinite = true) (hinteger : ∀ z : Int64, x.value ≠ z.toInt) :
      Denotes n (.float x)

/-- Whether a numeral is beyond every double. -/
def Overflows (n : Numeral) : Prop :=
  ¬ n.PlainWord ∧ ∃ x : Binary64, x.IsNearest n.value ∧ x.isFinite = false

end Numeral

namespace Literal

theorem denotes_of_ofNumeral? {n : Numeral} {l : Literal} (h : ofNumeral? n = some l) :
    n.Denotes l := by
  by_cases hplain : n.PlainWord
  · obtain ⟨z, hz⟩ := hplain.2.2
    rw [(ofNumeral?_of_plainWord hplain z).mpr hz] at h
    rw [← Option.some.inj h]
    exact .digits hplain hz
  · have hnearest := Binary64.isNearest_ofNumeral n
    have hword : ∀ z : Int64, (Binary64.ofNumeral n).toInt64? = some z ↔
        (Binary64.ofNumeral n).value = z.toInt := fun _ => Binary64.toInt64?_eq_some_iff
    rw [ofNumeral?_eq_of_not_plainWord hplain] at h
    generalize Binary64.ofNumeral n = x at hnearest hword h
    split at h
    · rename_i hfinite
      rw [← Option.some.inj h]
      cases hx : x.toInt64? with
      | some z => exact .rounded hplain hnearest ((hword z).mp hx)
      | none =>
          refine .float hplain hnearest hfinite fun z hz => ?_
          rw [(hword z).mpr hz] at hx
          cases hx
    · cases h

theorem ofNumeral?_of_denotes {n : Numeral} {l : Literal} (h : n.Denotes l) :
    ofNumeral? n = some l := by
  have hread := Binary64.isNearest_ofNumeral n
  cases h with
  | digits hplain hvalue => exact (ofNumeral?_of_plainWord hplain _).mpr hvalue
  | rounded hplain hnearest hvalue =>
      exact (ofNumeral?_of_not_plainWord hplain _).mpr ((hread.value_unique hnearest).trans hvalue)
  | float hplain hnearest hfinite hinteger =>
      -- a double that is no integer is not zero, so it is the one that the reader takes
      have hne := hinteger 0
      obtain rfl := hnearest.eq_of_value_ne_zero hread (by exact_mod_cast hne)
      have hnone : (Binary64.ofNumeral n).toInt64? = none := by
        rw [Option.eq_none_iff_forall_not_mem]
        exact fun z hz => hinteger z (Binary64.value_of_toInt64? hz)
      rw [ofNumeral?_eq_of_not_plainWord hplain, if_pos hfinite, hnone]
      rfl

/-- **A numeral is read as what it stands for.** -/
theorem ofNumeral?_eq_some_iff {n : Numeral} {l : Literal} :
    ofNumeral? n = some l ↔ n.Denotes l :=
  ⟨denotes_of_ofNumeral?, ofNumeral?_of_denotes⟩

/-- A numeral is read as no number only if it is beyond every double. -/
theorem ofNumeral?_eq_none_iff {n : Numeral} : ofNumeral? n = none ↔ n.Overflows := by
  have hread := Binary64.isNearest_ofNumeral n
  by_cases hplain : n.PlainWord
  · obtain ⟨z, hz⟩ := hplain.2.2
    rw [(ofNumeral?_of_plainWord hplain z).mpr hz]
    exact iff_of_false (Option.some_ne_none _) fun h => h.1 hplain
  · rw [ofNumeral?_eq_of_not_plainWord hplain, Numeral.Overflows, and_iff_right hplain]
    constructor
    · intro h
      refine ⟨_, hread, ?_⟩
      by_contra hfinite
      rw [Bool.not_eq_false] at hfinite
      rw [if_pos hfinite] at h
      cases h
    · rintro ⟨x, hnearest, hinfinite⟩
      have hsame := hnearest.isFinite_eq hread hinfinite
      rw [if_neg (Bool.eq_false_iff.mp hsame)]

/-! ## Texts -/

/-- Whether a text is a number. -/
def SpellsNumber (t : Text) (l : Literal) : Prop := ∃ n, Numeral.Spells t n ∧ n.Denotes l

/-- Whether a text is no number: if it is a numeral, it is beyond every double. -/
def NoNumber (t : Text) : Prop := ∀ n, Numeral.Spells t n → n.Overflows

/-- The texts without outer blanks, each with the literal that it is. -/
inductive Spells : Text → Literal → Prop
  | number {t : Text} {l : Literal} (hnumber : SpellsNumber t l) : Spells t l
  | boolean (b : Bool) : Spells (booleanText b) (boolean b)
  | string {t : Text} (hnumber : NoNumber t) (hboolean : ∀ b, t ≠ booleanText b)
      (hne : unquoted t ≠ []) : Spells t (string (unquoted t))
  | null {t : Text} (hnil : unquoted t = []) : Spells t null

theorem number?_eq_some_iff {t : Text} {l : Literal} : number? t = some l ↔ SpellsNumber t l := by
  unfold number? SpellsNumber
  rw [Option.bind_eq_some_iff]
  exact exists_congr fun n => and_congr Numeral.ofText?_eq_some_iff ofNumeral?_eq_some_iff

theorem number?_eq_none_iff {t : Text} : number? t = none ↔ NoNumber t := by
  unfold number? NoNumber
  rw [Option.bind_eq_none_iff]
  exact forall_congr' fun n => imp_congr Numeral.ofText?_eq_some_iff ofNumeral?_eq_none_iff

/-- A bare text is not empty, and has no apostrophes that could be taken out. -/
theorem unquoted_ne_nil_of_bare {t : Text} (h : Bare t) : unquoted t ≠ [] := by
  rw [unquoted_eq_self (h.not_mem (by decide) (by decide))]
  exact h.ne_nil

theorem ofTrimmed_of_number?_eq_none {t : Text} (hnumber : number? t = none)
    (hboolean : ∀ b, t ≠ booleanText b) : ofTrimmed t = ofUnquoted (unquoted t) := by
  unfold ofTrimmed
  rw [hnumber]
  have htrue : t ≠ "true".toList := hboolean true
  have hfalse : t ≠ "false".toList := hboolean false
  simp only
  rw [if_neg htrue, if_neg hfalse]

theorem ofTrimmed_of_spells {t : Text} {l : Literal} (h : Spells t l) : ofTrimmed t = l := by
  cases h with
  | number hnumber => rw [ofTrimmed, number?_eq_some_iff.mpr hnumber]
  | boolean b =>
      cases b with
      | false => rfl
      | true => rfl
  | string hnumber hboolean hne =>
      rw [ofTrimmed_of_number?_eq_none (number?_eq_none_iff.mpr hnumber) hboolean]
      obtain ⟨c, s, hs⟩ := List.exists_cons_of_ne_nil hne
      rw [hs]
      rfl
  | null hnil =>
      have hnumber : number? t = none := by
        rw [Option.eq_none_iff_forall_not_mem]
        exact fun l hl => unquoted_ne_nil_of_bare (bare_of_number? hl) hnil
      have hboolean : ∀ b, t ≠ booleanText b := by
        rintro b rfl
        exact unquoted_ne_nil_of_bare (Bare.booleanText b) hnil
      rw [ofTrimmed_of_number?_eq_none hnumber hboolean, hnil]
      rfl

theorem spells_ofTrimmed (t : Text) : Spells t (ofTrimmed t) := by
  cases hnumber : number? t with
  | some l =>
      have hspells := Spells.number (number?_eq_some_iff.mp hnumber)
      rwa [ofTrimmed_of_spells hspells]
  | none =>
      by_cases hboolean : ∃ b, t = booleanText b
      · obtain ⟨b, rfl⟩ := hboolean
        rw [ofTrimmed_of_spells (.boolean b)]
        exact .boolean b
      · rw [not_exists] at hboolean
        rw [ofTrimmed_of_number?_eq_none hnumber hboolean]
        cases hunquoted : unquoted t with
        | nil => exact .null hunquoted
        | cons c s =>
            have hstring := Spells.string (number?_eq_none_iff.mp hnumber) hboolean
              (by rw [hunquoted]; exact List.cons_ne_nil c s)
            rwa [hunquoted] at hstring

/-! ## The main statement -/

/-- Only a string or null can come from a text that is not bare. -/
theorem Spells.bare_or {t : Text} {l : Literal} (h : Spells t l) :
    Bare t ∨ l = .null ∨ ∃ s, l = .string s := by
  cases h with
  | number hnumber => exact Or.inl (bare_of_number? (number?_eq_some_iff.mpr hnumber))
  | boolean b => exact Or.inl (Bare.booleanText b)
  | string hnumber hboolean hne => exact Or.inr (Or.inr ⟨_, rfl⟩)
  | null hnil => exact Or.inr (Or.inl rfl)

/-- Only a number is read as a number. -/
theorem Spells.spellsNumber {t : Text} {l : Literal} (h : Spells t l)
    (hl : (∃ z, l = .integer z) ∨ ∃ x, l = .float x) : SpellsNumber t l := by
  cases h with
  | number hnumber => exact hnumber
  | boolean b => simp at hl
  | string hnumber hboolean hne => simp at hl
  | null hnil => simp at hl

/-- **Every text is read as the literal that it spells.**  A text that holds an apostrophe is never
a number or a truth value, and one that is a number is a numeral from end to end: it holds digits,
signs, a point and the mark of a power of ten, has one point at most, and ends with a digit or with
its point. -/
theorem ofText_classified (raw : Text) :
    (∀ l, ofText raw = l ↔ Spells raw.trim l) ∧
      ('\'' ∈ raw → ofText raw = null ∨ ∃ s, ofText raw = string s) ∧
      ((∃ z, ofText raw = integer z) ∨ (∃ x, ofText raw = float x) →
        SpellsNumber raw.trim (ofText raw) ∧ (∀ c ∈ raw.trim, Numeral.IsPart c) ∧
          raw.trim.count '.' ≤ 1 ∧ Numeral.EndsInPart raw.trim) := by
  have hspells : Spells raw.trim (ofText raw) := spells_ofTrimmed raw.trim
  refine ⟨fun l => ⟨?_, ofTrimmed_of_spells⟩, fun hquote => ?_, fun hnumber => ?_⟩
  · rintro rfl
    exact hspells
  · have hmem := Text.mem_trim_of_not_blank hquote (by decide)
    have hbare : ¬ Bare raw.trim := fun h => h.not_mem (by decide) (by decide) hmem
    exact hspells.bare_or.resolve_left hbare
  · have hdenotes := hspells.spellsNumber hnumber
    have ⟨n, hn, _⟩ := hdenotes
    exact ⟨hdenotes, Numeral.isPart_of_ofText? (Numeral.ofText?_of_spells hn),
      Numeral.count_point_le hn, Numeral.endsInPart_of_spells hn⟩

/-- A numeral beyond every double. -/
def beyondText : Text := " 1e400 ".toList

/-- Beyond every double a numeral is a string; the point makes the integer 2⁵³ + 1 go through the
nearest double; and apostrophes make a string of any numeral. -/
theorem ofText_classified_beyondText :
    Spells beyondText.trim (string "1e400".toList) ∧
      ofText oddText = integer 9007199254740992 ∧ SpellsNumber oddText.trim (ofText oddText) ∧
      Numeral.EndsInPart oddText.trim ∧ '\'' ∈ quoted oddText ∧
      (ofText (quoted oddText) = null ∨ ∃ s, ofText (quoted oddText) = string s) := by
  have hbeyond : ofText beyondText = string "1e400".toList := by decide +kernel
  have hodd : ofText oddText = integer 9007199254740992 := by decide +kernel
  have hquote : '\'' ∈ quoted oddText := List.mem_cons_self
  obtain ⟨hnumber, -, -, hend⟩ := (ofText_classified oddText).2.2 (Or.inl ⟨_, hodd⟩)
  exact ⟨((ofText_classified beyondText).1 _).mp hbeyond, hodd, hnumber, hend, hquote,
    (ofText_classified (quoted oddText)).2.1 hquote⟩

end Literal

end QueryOptions
