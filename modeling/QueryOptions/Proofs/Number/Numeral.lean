import Mathlib.Data.List.Basic
import Mathlib.Data.List.Count
import Mathlib.Data.List.TakeWhile
import QueryOptions.Number.Numeral

/-!
# The grammar of numerals

`Numeral.Spells` says which texts are numerals.  A numeral has four parts,

```text
  sign        nothing, + or -
  whole       digits
  fraction    nothing, or a point and digits
  exponent    nothing, or one of e and E, a sign and digits
```

where there is a digit in front of the point or behind it, and one in an exponent.  The reader
accepts these texts and no others (`ofText?_eq_some_iff`).  It takes as many digits as it can, so
what stops it is what the next part begins with: a point, `e` or `E`, none of which is a digit, and
a part that is nothing is recognized because no digit is a sign.

It follows that a text that is a numeral is made of few characters (`isPart_of_ofText?`), which is
how the other literals are told from numbers, that it has one point at most and breaks off nowhere
(`count_point_le`, `endsInPart_of_spells`), and that a numeral that has digits in front of its
point and no power of ten is read back from its text (`ofText?_text`).
-/

namespace QueryOptions.Numeral

/-! ## The parts of a numeral -/

inductive SpellsSign : Text → Bool → Prop
  | absent : SpellsSign [] false
  | plus : SpellsSign ['+'] false
  | minus : SpellsSign ['-'] true

inductive SpellsFraction : Text → Option Text → Prop
  | absent : SpellsFraction [] none
  | present {digits : Text} (hdigits : ∀ c ∈ digits, c.isDigit = true) :
      SpellsFraction ('.' :: digits) (some digits)

inductive SpellsExponent : Text → Option ℤ → Prop
  | absent : SpellsExponent [] none
  | present {mark : Char} {sign digits : Text} {negative : Bool} (hmark : mark = 'e' ∨ mark = 'E')
      (hsign : SpellsSign sign negative) (hne : digits ≠ [])
      (hdigits : ∀ c ∈ digits, c.isDigit = true) :
      SpellsExponent (mark :: (sign ++ digits)) (some (signedInteger negative digits))

/-- The texts that are numerals, each with the numeral that it is. -/
inductive Spells : Text → Numeral → Prop
  | parts {sign whole point power : Text} {negative : Bool} {fraction : Option Text}
      {exponent : Option ℤ} (hsign : SpellsSign sign negative)
      (hwhole : ∀ c ∈ whole, c.isDigit = true) (hfraction : SpellsFraction point fraction)
      (hexponent : SpellsExponent power exponent)
      (hdigit : whole ≠ [] ∨ fraction.getD [] ≠ []) :
      Spells (sign ++ (whole ++ (point ++ power))) ⟨negative, whole, fraction, exponent⟩

/-! ## What is read is a numeral -/

theorem exists_spellsSign (t : Text) :
    ∃ sign, SpellsSign sign (splitSign t).1 ∧ t = sign ++ (splitSign t).2 := by
  unfold splitSign
  split
  · exact ⟨['-'], .minus, rfl⟩
  · exact ⟨['+'], .plus, rfl⟩
  · exact ⟨[], .absent, rfl⟩

theorem splitDigits_eq (t : Text) :
    t = (splitDigits t).1 ++ (splitDigits t).2 ∧ ∀ c ∈ (splitDigits t).1, c.isDigit = true :=
  ⟨List.takeWhile_append_dropWhile.symm, fun _ hc => List.mem_takeWhile_imp hc⟩

theorem exists_spellsFraction (t : Text) :
    ∃ point, SpellsFraction point (splitFraction t).1 ∧ t = point ++ (splitFraction t).2 := by
  unfold splitFraction
  split
  · rename_i rest
    obtain ⟨hrest, hdigits⟩ := splitDigits_eq rest
    exact ⟨'.' :: (splitDigits rest).1, .present hdigits, congrArg ('.' :: ·) hrest⟩
  · exact ⟨[], .absent, rfl⟩

theorem exists_spellsSign_of_integer? {t digits : Text} {negative : Bool}
    (h : integer? t = some (negative, digits)) :
    ∃ sign, SpellsSign sign negative ∧ t = sign ++ digits ∧ digits ≠ [] ∧
      ∀ c ∈ digits, c.isDigit = true := by
  obtain ⟨sign, hsign, ht⟩ := exists_spellsSign t
  unfold integer? at h
  simp only at h
  split at h
  · cases h
  · rename_i hdigits
    simp only [Bool.or_eq_true, List.isEmpty_iff, not_or, Bool.not_eq_true, Bool.not_eq_false',
      List.all_eq_true] at hdigits
    obtain ⟨hnegative, hrest⟩ := Prod.mk.inj (Option.some.inj h)
    rw [hnegative] at hsign
    rw [hrest] at ht hdigits
    exact ⟨sign, hsign, ht, hdigits⟩

theorem spellsExponent_of_exponent? {t : Text} {exponent : Option ℤ}
    (h : exponent? t = some exponent) : SpellsExponent t exponent := by
  unfold exponent? at h
  split at h
  · rw [← Option.some.inj h]
    exact .absent
  · split at h
    · rename_i hmark
      obtain ⟨⟨negative, digits⟩, hinteger, rfl⟩ := Option.map_eq_some_iff.mp h
      obtain ⟨sign, hsign, rfl, hne, hdigits⟩ := exists_spellsSign_of_integer? hinteger
      exact .present hmark hsign hne hdigits
    · cases h

theorem spells_of_ofText? {t : Text} {n : Numeral} (h : ofText? t = some n) : Spells t n := by
  unfold ofText? at h
  simp only at h
  split at h
  · cases h
  · rename_i hdigit
    rw [Bool.and_eq_true, List.isEmpty_iff, List.isEmpty_iff, not_and_or] at hdigit
    obtain ⟨exponent, hexponent, rfl⟩ := Option.map_eq_some_iff.mp h
    obtain ⟨sign, hsign, ht⟩ := exists_spellsSign t
    obtain ⟨hrest, hwhole⟩ := splitDigits_eq (splitSign t).2
    obtain ⟨point, hfraction, hpoint⟩ := exists_spellsFraction (splitDigits (splitSign t).2).2
    have hpower := spellsExponent_of_exponent? hexponent
    have hspells := Spells.parts hsign hwhole hfraction hpower hdigit
    rwa [← hpoint, ← hrest, ← ht] at hspells

/-! ## A numeral is read -/

theorem ne_of_isDigit {c d : Char} (hc : c.isDigit = true) (hd : d.isDigit = false) : c ≠ d := by
  rintro rfl
  rw [hc] at hd
  cases hd

theorem splitSign_append {sign t : Text} {negative : Bool} (hsign : SpellsSign sign negative)
    (ht : ∀ c ∈ t.head?, c ≠ '-' ∧ c ≠ '+') : splitSign (sign ++ t) = (negative, t) := by
  cases hsign with
  | minus => rfl
  | plus => rfl
  | absent =>
      rw [List.nil_append]
      unfold splitSign
      split
      · exact absurd rfl (ht '-' rfl).1
      · exact absurd rfl (ht '+' rfl).2
      · rfl

theorem splitDigits_append {digits rest : Text} (hdigits : ∀ c ∈ digits, c.isDigit = true)
    (hrest : ∀ c ∈ rest.head?, c.isDigit = false) :
    splitDigits (digits ++ rest) = (digits, rest) := by
  have hstop : rest.takeWhile Char.isDigit = [] ∧ rest.dropWhile Char.isDigit = rest := by
    cases rest with
    | nil => exact ⟨rfl, rfl⟩
    | cons c rest =>
        have hc := hrest c rfl
        simp [hc]
  unfold splitDigits
  rw [List.takeWhile_append_of_pos hdigits, List.dropWhile_append_of_pos hdigits, hstop.1, hstop.2,
    List.append_nil]

theorem splitFraction_append {point rest : Text} {fraction : Option Text}
    (hfraction : SpellsFraction point fraction)
    (hrest : ∀ c ∈ rest.head?, c.isDigit = false ∧ c ≠ '.') :
    splitFraction (point ++ rest) = (fraction, rest) := by
  cases hfraction with
  | absent =>
      rw [List.nil_append]
      unfold splitFraction
      split
      · exact absurd rfl (hrest '.' rfl).2
      · rfl
  | present hdigits =>
      rw [List.cons_append, splitFraction,
        splitDigits_append hdigits fun c hc => (hrest c hc).1]

theorem integer?_append {sign digits : Text} {negative : Bool} (hsign : SpellsSign sign negative)
    (hne : digits ≠ []) (hdigits : ∀ c ∈ digits, c.isDigit = true) :
    integer? (sign ++ digits) = some (negative, digits) := by
  have hhead : ∀ c ∈ digits.head?, c ≠ '-' ∧ c ≠ '+' := fun c hc =>
    have hdigit := hdigits c (List.mem_of_mem_head? hc)
    ⟨ne_of_isDigit hdigit (by decide), ne_of_isDigit hdigit (by decide)⟩
  unfold integer?
  rw [splitSign_append hsign hhead]
  simpa [hne] using hdigits

/-- The texts that are integers, each with the integer that it denotes. -/
inductive SpellsInteger : Text → ℤ → Prop
  | parts {sign digits : Text} {negative : Bool} (hsign : SpellsSign sign negative)
      (hne : digits ≠ []) (hdigits : ∀ c ∈ digits, c.isDigit = true) :
      SpellsInteger (sign ++ digits) (signedInteger negative digits)

/-- **The reader of integers** accepts what spells one, and nothing else. -/
theorem spellsInteger_iff {t : Text} {z : ℤ} :
    SpellsInteger t z ↔
      ∃ negative digits, integer? t = some (negative, digits) ∧
        signedInteger negative digits = z := by
  constructor
  · rintro ⟨hsign, hne, hdigits⟩
    exact ⟨_, _, integer?_append hsign hne hdigits, rfl⟩
  · rintro ⟨negative, digits, hinteger, rfl⟩
    obtain ⟨sign, hsign, rfl, hne, hdigits⟩ := exists_spellsSign_of_integer? hinteger
    exact .parts hsign hne hdigits

theorem SpellsInteger.ne_nil {t : Text} {z : ℤ} (h : SpellsInteger t z) : t ≠ [] := by
  obtain ⟨-, hne, -⟩ := h
  simp [hne]

theorem exponent?_of_spellsExponent {t : Text} {exponent : Option ℤ}
    (h : SpellsExponent t exponent) : exponent? t = some exponent := by
  cases h with
  | absent => rfl
  | present hmark hsign hne hdigits =>
      rw [exponent?, if_pos hmark, integer?_append hsign hne hdigits]
      rfl

/-- Neither a digit nor a point begins the power of ten. -/
theorem head?_power {power : Text} {exponent : Option ℤ} (h : SpellsExponent power exponent) :
    ∀ c ∈ power.head?, c.isDigit = false ∧ c ≠ '.' := by
  cases h with
  | absent => simp
  | present hmark =>
      rintro c ⟨⟩
      rcases hmark with rfl | rfl
      · decide
      · decide

theorem head?_point_append {point rest : Text} {fraction : Option Text}
    (h : SpellsFraction point fraction) (hrest : ∀ c ∈ rest.head?, c.isDigit = false) :
    ∀ c ∈ (point ++ rest).head?, c.isDigit = false := by
  cases h with
  | absent => exact hrest
  | present =>
      rintro c ⟨⟩
      decide

/-- No sign begins what follows the sign. -/
theorem head?_whole_append {whole point rest : Text} {fraction : Option Text}
    (hwhole : ∀ c ∈ whole, c.isDigit = true) (hfraction : SpellsFraction point fraction)
    (hdigit : whole ≠ [] ∨ fraction.getD [] ≠ []) :
    ∀ c ∈ (whole ++ (point ++ rest)).head?, c ≠ '-' ∧ c ≠ '+' := by
  cases whole with
  | cons d whole =>
      rintro c ⟨⟩
      have hd := hwhole d List.mem_cons_self
      exact ⟨ne_of_isDigit hd (by decide), ne_of_isDigit hd (by decide)⟩
  | nil =>
      cases hfraction with
      | absent => simp at hdigit
      | present =>
          rintro c ⟨⟩
          decide

theorem ofText?_of_spells {t : Text} {n : Numeral} (h : Spells t n) : ofText? t = some n := by
  cases h with
  | parts hsign hwhole hfraction hexponent hdigit =>
      have hpower := head?_power hexponent
      have hpoint := head?_point_append hfraction fun c hc => (hpower c hc).1
      unfold ofText?
      simp only [splitSign_append hsign (head?_whole_append hwhole hfraction hdigit),
        splitDigits_append hwhole hpoint, splitFraction_append hfraction hpower,
        exponent?_of_spellsExponent hexponent]
      rw [if_neg]
      · rfl
      · rw [Bool.and_eq_true, List.isEmpty_iff, List.isEmpty_iff, not_and_or]
        exact hdigit

/-- **The reader accepts the texts of the grammar**, and reads what they spell. -/
theorem ofText?_eq_some_iff {t : Text} {n : Numeral} : ofText? t = some n ↔ Spells t n :=
  ⟨spells_of_ofText?, ofText?_of_spells⟩

/-! ## The characters of a numeral -/

/-- Whether a character can stand in a numeral. -/
def IsPart (c : Char) : Prop := c.isDigit = true ∨ c ∈ ['+', '-', '.', 'e', 'E']

theorem SpellsSign.isPart {t : Text} {negative : Bool} (h : SpellsSign t negative) :
    ∀ c ∈ t, IsPart c := by
  unfold IsPart
  cases h with
  | absent => simp
  | plus => simp
  | minus => simp

theorem isPart_of_append {t u : Text} (ht : ∀ c ∈ t, IsPart c) (hu : ∀ c ∈ u, IsPart c) :
    ∀ c ∈ t ++ u, IsPart c :=
  fun c hc => (List.mem_append.mp hc).elim (ht c) (hu c)

theorem isPart_of_cons {d : Char} {t : Text} (hd : IsPart d) (ht : ∀ c ∈ t, IsPart c) :
    ∀ c ∈ d :: t, IsPart c :=
  List.forall_mem_cons.mpr ⟨hd, ht⟩

/-- **A text that is a numeral** holds digits, signs, a point and the mark of a power of ten, and
nothing else. -/
theorem isPart_of_ofText? {t : Text} {n : Numeral} (h : ofText? t = some n) :
    ∀ c ∈ t, IsPart c := by
  obtain ⟨hsign, hwhole, hfraction, hexponent, -⟩ := ofText?_eq_some_iff.mp h
  refine isPart_of_append hsign.isPart (isPart_of_append (fun c hc => Or.inl (hwhole c hc))
    (isPart_of_append ?_ ?_))
  · cases hfraction with
    | absent => simp
    | present hdigits =>
        exact isPart_of_cons (Or.inr (by decide)) fun c hc => Or.inl (hdigits c hc)
  · cases hexponent with
    | absent => simp
    | present hmark hsign _ hdigits =>
        refine isPart_of_cons ?_ (isPart_of_append hsign.isPart fun c hc => Or.inl (hdigits c hc))
        rcases hmark with rfl | rfl
        · exact Or.inr (by decide)
        · exact Or.inr (by decide)

theorem ofText?_eq_none_of_mem {t : Text} {c : Char} (hc : c ∈ t) (hpart : ¬ IsPart c) :
    ofText? t = none := by
  cases h : ofText? t with
  | none => rfl
  | some n => exact absurd (isPart_of_ofText? h c hc) hpart

/-! ## How a numeral ends

A power of ten that breaks off, a second point or anything behind a numeral makes a text that is no
numeral. -/

theorem count_eq_zero_of_isDigit {digits : Text} (h : ∀ c ∈ digits, c.isDigit = true) :
    digits.count '.' = 0 :=
  List.count_eq_zero_of_not_mem fun hmem => ne_of_isDigit (h '.' hmem) (by decide) rfl

theorem SpellsSign.count_eq_zero {t : Text} {negative : Bool} (h : SpellsSign t negative) :
    t.count '.' = 0 := by
  cases h with
  | absent | plus | minus => rfl

theorem SpellsExponent.count_eq_zero {t : Text} {exponent : Option ℤ}
    (h : SpellsExponent t exponent) : t.count '.' = 0 := by
  cases h with
  | absent => rfl
  | present hmark hsign hne hdigits =>
      rw [List.count_cons, List.count_append, hsign.count_eq_zero,
        count_eq_zero_of_isDigit hdigits]
      rcases hmark with rfl | rfl
      · rfl
      · rfl

/-- **There is one point in a numeral at most.** -/
theorem count_point_le {t : Text} {n : Numeral} (h : Spells t n) : t.count '.' ≤ 1 := by
  obtain ⟨hsign, hwhole, hfraction, hexponent, -⟩ := h
  rw [List.count_append, List.count_append, List.count_append, hsign.count_eq_zero,
    count_eq_zero_of_isDigit hwhole, hexponent.count_eq_zero]
  cases hfraction with
  | absent => decide
  | present hdigits =>
      rw [List.count_cons, count_eq_zero_of_isDigit hdigits]
      decide

/-- Whether a text ends with a digit or with a point, if it has an end. -/
def EndsInPart (t : Text) : Prop := ∀ c ∈ t.getLast?, c.isDigit = true ∨ c = '.'

theorem endsInPart_of_isDigit {digits : Text} (h : ∀ c ∈ digits, c.isDigit = true) :
    EndsInPart digits :=
  fun c hc => Or.inl (h c (List.mem_of_getLast? hc))

theorem EndsInPart.append_of_ne_nil {u : Text} (hu : EndsInPart u) (hne : u ≠ []) (t : Text) :
    EndsInPart (t ++ u) := by
  unfold EndsInPart
  rwa [List.getLast?_append_of_ne_nil t hne]

theorem EndsInPart.append {t u : Text} (ht : EndsInPart t) (hu : EndsInPart u) :
    EndsInPart (t ++ u) := by
  by_cases hne : u = []
  · rwa [hne, List.append_nil]
  · exact hu.append_of_ne_nil hne t

theorem SpellsFraction.endsInPart {t : Text} {fraction : Option Text}
    (h : SpellsFraction t fraction) : EndsInPart t := by
  cases h with
  | absent => exact endsInPart_of_isDigit (by simp)
  | present hdigits =>
      have hpoint : EndsInPart ['.'] := by
        rintro c ⟨⟩
        exact Or.inr rfl
      exact hpoint.append (endsInPart_of_isDigit hdigits)

theorem SpellsExponent.endsInPart {t : Text} {exponent : Option ℤ}
    (h : SpellsExponent t exponent) : EndsInPart t := by
  cases h with
  | absent => exact endsInPart_of_isDigit (by simp)
  | @present mark sign digits negative hmark hsign hne hdigits =>
      exact (endsInPart_of_isDigit hdigits).append_of_ne_nil hne (mark :: sign)

/-- **A numeral ends with a digit or with its point.** -/
theorem endsInPart_of_spells {t : Text} {n : Numeral} (h : Spells t n) : EndsInPart t := by
  obtain ⟨-, hwhole, hfraction, hexponent, hdigit⟩ := h
  refine EndsInPart.append_of_ne_nil
    ((endsInPart_of_isDigit hwhole).append (hfraction.endsInPart.append hexponent.endsInPart)) ?_ _
  rcases hdigit with hne | hne
  · simp [hne]
  · cases hfraction with
    | absent => exact absurd rfl hne
    | present => simp

/-! ## Reading back -/

/-- A numeral that is written without a power of ten, and with digits in front of its point. -/
structure Plain (n : Numeral) : Prop where
  whole_ne_nil : n.whole ≠ []
  whole : ∀ c ∈ n.whole, c.isDigit = true
  fraction : ∀ digits ∈ n.fraction, ∀ c ∈ digits, c.isDigit = true
  exponent : n.exponent = none

theorem spellsSign_sign (negative : Bool) : SpellsSign (sign negative) negative := by
  cases negative with
  | true => exact .minus
  | false => exact .absent

theorem spellsFraction_fractionText {fraction : Option Text}
    (h : ∀ digits ∈ fraction, ∀ c ∈ digits, c.isDigit = true) :
    SpellsFraction (fractionText fraction) fraction := by
  cases fraction with
  | none => exact .absent
  | some digits => exact .present (h digits rfl)

/-- **A plain numeral is read back from its text.** -/
theorem ofText?_text {n : Numeral} (hn : n.Plain) : ofText? n.text = some n := by
  obtain ⟨negative, whole, fraction, exponent⟩ := n
  obtain ⟨hne, hwhole, hfraction, hexponent⟩ := hn
  simp only at hne hwhole hfraction hexponent
  subst hexponent
  have hspells := Spells.parts (spellsSign_sign negative) hwhole
    (spellsFraction_fractionText hfraction) .absent (Or.inl hne)
  apply ofText?_of_spells
  simpa only [text, exponentText, List.append_assoc] using hspells

end QueryOptions.Numeral
