import QueryOptions.Proofs.Literal.Reading
import QueryOptions.Proofs.Success
import QueryOptions.Query.Writing
import QueryOptions.Scalar

/-!
# Limits and flags

A flag is read back from the word for it, and an option that says nothing from a missing value.  The
value of a limit is trimmed, and then it is one of four things (`limit_classified`):

```text
  nothing                             no limit
  an integer from 0 to 2 ^ 64 - 1     the limit
  another integer                     out of range, the trimmed text is quoted
  no integer                          of the wrong type, the trimmed text is quoted
```

An integer is an optional sign and one or more digits, and its value has no bound
(`Numeral.SpellsInteger`).  It is compared with the range before it is made a limit, so nothing is
cut off (`limitOfInt?_eq_some_iff`).
-/

namespace QueryOptions.Scalar

open Text

theorem flag_text (field : Key) (count : Option Bool) :
    flag field (count.map Literal.booleanText) = .ok count := by
  cases count with
  | none => rfl
  | some b => cases b <;> rfl

theorem limitOfInt?_toNat (n : UInt64) : limitOfInt? n.toNat = some n := by
  have hlt : (n.toNat : ℤ) < UInt64.size := Int.ofNat_lt.mpr n.toNat_lt_size
  rw [limitOfInt?, if_pos ⟨Int.natCast_nonneg _, hlt⟩, Int.toNat_natCast, UInt64.ofNat_toNat]

/-! ## What a limit is -/

theorem given?_eq_none_iff {raw : Option Text} :
    given? raw = none ↔ ∀ t ∈ raw, AllBlank t := by
  cases raw with
  | none => simp [given?]
  | some t => simp [given?, trim_eq_nil_iff]

theorem given?_eq_some_iff {raw : Option Text} {s : Text} :
    given? raw = some s ↔ ∃ t ∈ raw, ¬ AllBlank t ∧ t.trim = s := by
  cases raw with
  | none => simp [given?]
  | some t =>
      unfold given?
      rw [Option.map_some, Option.filter_eq_some_iff]
      simp only [Option.mem_some_iff, exists_eq_left', ← trim_eq_nil_iff]
      constructor
      · rintro ⟨h, hne⟩
        cases h
        exact ⟨by simpa using hne, rfl⟩
      · rintro ⟨hne, rfl⟩
        exact ⟨rfl, by simpa using hne⟩

theorem limitOfInt?_eq_some_iff {z : ℤ} {n : UInt64} :
    limitOfInt? z = some n ↔ z = n.toNat := by
  constructor
  · intro h
    unfold limitOfInt? at h
    split at h
    · rename_i hz
      rw [← Option.some.inj h, UInt64.toNat_ofNat_of_lt' (by omega), Int.toNat_of_nonneg hz.1]
    · cases h
  · rintro rfl
    exact limitOfInt?_toNat n

theorem limitOfInt?_eq_none_iff {z : ℤ} :
    limitOfInt? z = none ↔ ¬ (0 ≤ z ∧ z ≤ 2 ^ 64 - 1) := by
  have hsize : z < UInt64.size ↔ z ≤ 2 ^ 64 - 1 := by
    show z < 18446744073709551616 ↔ _
    omega
  unfold limitOfInt?
  split
  · rename_i hz
    exact iff_of_false nofun (not_not.mpr ⟨hz.1, hsize.mp hz.2⟩)
  · rename_i hz
    exact iff_of_true rfl fun h => hz ⟨h.1, hsize.mpr h.2⟩

/-- A text that spells an integer is the limit that the integer is. -/
theorem limitOfText_of_spells {field : Key} {t : Text} {z : ℤ} (h : Numeral.SpellsInteger t z) :
    limitOfText field t = (limitOfInt? z).elim (.error (.range field t)) .ok := by
  obtain ⟨negative, digits, hinteger, rfl⟩ := Numeral.spellsInteger_iff.mp h
  unfold limitOfText
  simp only [hinteger]
  cases limitOfInt? (Numeral.signedInteger negative digits) <;> rfl

theorem limitOfText_of_not_spells {field : Key} {t : Text}
    (h : ¬ ∃ z, Numeral.SpellsInteger t z) : limitOfText field t = .error (.datatype field t) := by
  unfold limitOfText
  cases hinteger : Numeral.integer? t with
  | none => rfl
  | some parts => exact absurd ⟨_, Numeral.spellsInteger_iff.mpr ⟨_, _, hinteger, rfl⟩⟩ h

/-- **A text is a limit** exactly if it spells the integer that the limit is. -/
theorem limitOfText_eq_ok_iff {field : Key} {t : Text} {n : UInt64} :
    limitOfText field t = .ok n ↔ Numeral.SpellsInteger t n.toNat := by
  constructor
  · intro h
    by_cases hspells : ∃ z, Numeral.SpellsInteger t z
    · obtain ⟨z, hz⟩ := hspells
      rw [limitOfText_of_spells hz] at h
      cases hlimit : limitOfInt? z with
      | none =>
          rw [hlimit] at h
          cases h
      | some m =>
          rw [hlimit] at h
          cases h
          exact limitOfInt?_eq_some_iff.mp hlimit ▸ hz
    · rw [limitOfText_of_not_spells hspells] at h
      cases h
  · intro h
    rw [limitOfText_of_spells h, limitOfInt?_toNat]
    rfl

/-- **A text is no limit** because it is no integer or because the integer is out of range. -/
theorem limitOfText_eq_error_iff {field : Key} {t : Text} {e : QueryError} :
    limitOfText field t = .error e ↔
      e = .datatype field t ∧ (¬ ∃ z, Numeral.SpellsInteger t z) ∨
        e = .range field t ∧ ∃ z, Numeral.SpellsInteger t z ∧ ¬ (0 ≤ z ∧ z ≤ 2 ^ 64 - 1) := by
  constructor
  · intro h
    by_cases hspells : ∃ z, Numeral.SpellsInteger t z
    · obtain ⟨z, hz⟩ := hspells
      rw [limitOfText_of_spells hz] at h
      cases hlimit : limitOfInt? z with
      | none =>
          rw [hlimit] at h
          exact Or.inr ⟨(Except.error.inj h).symm, z, hz, limitOfInt?_eq_none_iff.mp hlimit⟩
      | some m =>
          rw [hlimit] at h
          cases h
    · rw [limitOfText_of_not_spells hspells] at h
      exact Or.inl ⟨(Except.error.inj h).symm, hspells⟩
  · rintro (⟨rfl, hspells⟩ | ⟨rfl, z, hz, hrange⟩)
    · exact limitOfText_of_not_spells hspells
    · rw [limitOfText_of_spells hz, limitOfInt?_eq_none_iff.mpr hrange]
      rfl

/-! ## The text of a limit -/

theorem isDigit_limitText (n : UInt64) : ∀ c ∈ Query.limitText n, c.isDigit = true :=
  fun _ hc => Nat.isDigit_of_mem_toDigits (by decide) (by decide) hc

theorem limitText_ne_nil (n : UInt64) : Query.limitText n ≠ [] := Nat.toDigits_ne_nil

theorem spellsInteger_limitText (n : UInt64) :
    Numeral.SpellsInteger (Query.limitText n) n.toNat := by
  have h := Numeral.SpellsInteger.parts .absent (limitText_ne_nil n) (isDigit_limitText n)
  have hvalue : Numeral.signedInteger false (Query.limitText n) = n.toNat :=
    congrArg Nat.cast (Numeral.ofDigits_toDigits n.toNat)
  rwa [List.nil_append, hvalue] at h

/-! ## The value of an option -/

theorem limit_eq_none_iff {field : Key} {raw : Option Text} :
    limit field raw = .ok none ↔ ∀ t ∈ raw, AllBlank t := by
  rw [← given?_eq_none_iff]
  unfold limit
  cases given? raw <;> simp [map_eq_ok]

theorem limit_eq_some_iff {field : Key} {raw : Option Text} {n : UInt64} :
    limit field raw = .ok (some n) ↔ ∃ t ∈ raw, Numeral.SpellsInteger t.trim n.toNat := by
  have hgiven : limit field raw = .ok (some n) ↔
      ∃ s, given? raw = some s ∧ limitOfText field s = .ok n := by
    unfold limit
    cases given? raw <;> simp [map_eq_ok]
  simp only [hgiven, given?_eq_some_iff, limitOfText_eq_ok_iff]
  constructor
  · rintro ⟨-, ⟨t, ht, -, rfl⟩, hspells⟩
    exact ⟨t, ht, hspells⟩
  · rintro ⟨t, ht, hspells⟩
    exact ⟨_, ⟨t, ht, fun hblank => hspells.ne_nil (trim_eq_nil_iff.mpr hblank), rfl⟩, hspells⟩

theorem limit_eq_error_iff {field : Key} {raw : Option Text} {e : QueryError} :
    limit field raw = .error e ↔
      ∃ t ∈ raw, ¬ AllBlank t ∧ limitOfText field t.trim = .error e := by
  have hgiven : limit field raw = .error e ↔
      ∃ s, given? raw = some s ∧ limitOfText field s = .error e := by
    unfold limit
    cases given? raw <;> simp [map_eq_error]
  simp only [hgiven, given?_eq_some_iff]
  constructor
  · rintro ⟨-, ⟨t, ht, hblank, rfl⟩, herror⟩
    exact ⟨t, ht, hblank, herror⟩
  · rintro ⟨t, ht, hblank, herror⟩
    exact ⟨_, ⟨t, ht, hblank, rfl⟩, herror⟩

/-- A limit is read back from its text. -/
theorem limit_text (field : Key) (n : Option UInt64) :
    limit field (n.map Query.limitText) = .ok n := by
  cases n with
  | none => rfl
  | some n =>
      have htrim : (Query.limitText n).trim = Query.limitText n :=
        trim_eq_self_of_no_blank fun c hc => Bare.isBlank_of_isDigit (isDigit_limitText n c hc)
      refine limit_eq_some_iff.mpr ⟨_, rfl, ?_⟩
      rw [htrim]
      exact spellsInteger_limitText n

/-- **What the value of a limit is read as.**  A missing or blank value says nothing; an integer in
range is the limit with its value, whatever its sign and its leading zeros; an integer out of range
and a text that is no integer are refused, with the trimmed text, by an error each.  Every limit is
read back from its decimal digits. -/
theorem limit_classified (field : Key) (raw : Option Text) :
    (limit field raw = .ok none ↔ ∀ t ∈ raw, AllBlank t) ∧
      (∀ n : UInt64, limit field raw = .ok (some n) ↔
        ∃ t ∈ raw, Numeral.SpellsInteger t.trim n.toNat) ∧
      (∀ e, limit field raw = .error e ↔ ∃ t ∈ raw, ¬ AllBlank t ∧
        (e = .datatype field t.trim ∧ (¬ ∃ z, Numeral.SpellsInteger t.trim z) ∨
          e = .range field t.trim ∧
            ∃ z, Numeral.SpellsInteger t.trim z ∧ ¬ (0 ≤ z ∧ z ≤ 2 ^ 64 - 1))) ∧
      ∀ n : UInt64, limit field (some (Nat.toDigits 10 n.toNat)) = .ok (some n) := by
  refine ⟨limit_eq_none_iff, fun n => limit_eq_some_iff, fun e => ?_,
    fun n => limit_text field (some n)⟩
  simp only [limit_eq_error_iff, limitOfText_eq_error_iff]

example : limit .top (some " -000 ".toList) = .ok (some 0) ∧
    limit .top (some "+00018446744073709551615".toList) = .ok (some 18446744073709551615) ∧
    limit .top (some "18446744073709551616".toList) =
      .error (.range .top "18446744073709551616".toList) ∧
    limit .top (some "٣".toList) = .error (.datatype .top "٣".toList) := by decide +kernel

end QueryOptions.Scalar
