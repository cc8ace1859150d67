import Mathlib.Data.List.DropRight
import Mathlib.Data.List.TakeWhile
import QueryOptions.Text.Basic

/-!
# What trimming keeps

`Text.trim` takes away the blanks at both ends of a text and nothing else, so a text is its own
trim exactly when it neither begins nor ends with a blank (`trim_eq_self_iff`).  Every reader of
this library trims what it has cut out, and two consequences carry the round trips: a part that
came out of a reader is not changed by being read again (`trim_trim`), and blanks written around a
part are lost without a trace (`trim_append_blanks`).

A part is *blank* when nothing is left of it, which is when all its characters are blank.
-/

namespace QueryOptions.Text

/-- A property of the characters of a text is decided by looking at these, and not at all the
characters there are. -/
instance (priority := high) decidableForallMem {p : Char → Prop} [DecidablePred p] (t : Text) :
    Decidable (∀ c ∈ t, p c) :=
  List.decidableBAll p t

/-- Whether every character of the text is blank. -/
def AllBlank (t : Text) : Prop := ∀ c ∈ t, isBlank c = true

instance : DecidablePred AllBlank := fun t =>
  inferInstanceAs (Decidable (∀ c ∈ t, isBlank c = true))

theorem allBlank_space : AllBlank [' '] := by decide

theorem allBlank_nil : AllBlank [] := fun _ hc => absurd hc List.not_mem_nil

/-- Whether the text keeps apart what stands on its two sides: it is blank and not empty. -/
structure IsGap (m : Text) : Prop where
  ne_nil : m ≠ []
  blank : AllBlank m

theorem isGap_space : IsGap [' '] := ⟨List.cons_ne_nil _ _, allBlank_space⟩

/-- A character that is not blank is in no blank text. -/
theorem AllBlank.not_mem {m : Text} (hm : AllBlank m) {c : Char} (hc : isBlank c = false) :
    c ∉ m := by
  intro hmem
  have hblank := hm c hmem
  rw [hc] at hblank
  cases hblank

/-! ## The two ends -/

theorem trimEnd_eq_rdropWhile (t : Text) : t.trimEnd = t.rdropWhile isBlank := rfl

theorem trimStart_cons_of_not_blank {c : Char} (hc : isBlank c = false) (t : Text) :
    trimStart (c :: t) = c :: t := by
  simp [trimStart, hc]

theorem trimStart_append_of_blank {l : Text} (hl : AllBlank l) (t : Text) :
    trimStart (l ++ t) = trimStart t :=
  List.dropWhile_append_of_pos hl

theorem trimEnd_append_of_blank {r : Text} (hr : AllBlank r) (t : Text) :
    trimEnd (t ++ r) = trimEnd t := by
  unfold trimEnd
  rw [List.reverse_append, List.dropWhile_append_of_pos]
  intro c hc
  exact hr c (List.mem_reverse.mp hc)

theorem exists_eq_append_trimStart (t : Text) : ∃ l, AllBlank l ∧ t = l ++ t.trimStart :=
  ⟨t.takeWhile isBlank, fun _ hc => List.mem_takeWhile_imp hc,
    List.takeWhile_append_dropWhile.symm⟩

theorem exists_eq_trimEnd_append (t : Text) : ∃ r, AllBlank r ∧ t = t.trimEnd ++ r := by
  refine ⟨t.rtakeWhile isBlank, fun c hc => ?_, (List.rdropWhile_append_rtakeWhile ..).symm⟩
  exact List.mem_takeWhile_imp (List.mem_reverse.mp hc)

theorem trimStart_eq_self_iff {t : Text} :
    t.trimStart = t ↔ ∀ c ∈ t.head?, isBlank c = false := by
  cases t with
  | nil => simp [trimStart]
  | cons c t =>
      unfold trimStart
      rw [List.dropWhile_eq_self_iff]
      simp

theorem head?_trimStart (t : Text) : ∀ c ∈ t.trimStart.head?, isBlank c = false :=
  trimStart_eq_self_iff.mp (List.dropWhile_idempotent isBlank t)

theorem trimEnd_eq_self_iff {t : Text} :
    t.trimEnd = t ↔ ∀ c ∈ t.getLast?, isBlank c = false := by
  rw [trimEnd_eq_rdropWhile, List.rdropWhile_eq_self_iff]
  constructor
  · intro h c hc
    obtain ⟨hne, rfl⟩ := List.mem_getLast?_eq_getLast hc
    simpa using h hne
  · intro h hne
    simpa using h _ (List.getLast?_eq_some_getLast hne)

/-! ## Both ends -/

/-- What trimming takes away is blank, and nothing else is touched. -/
theorem exists_eq_append_trim_append (t : Text) :
    ∃ l r, AllBlank l ∧ AllBlank r ∧ t = l ++ t.trim ++ r := by
  obtain ⟨l, hl, hstart⟩ := exists_eq_append_trimStart t
  obtain ⟨r, hr, hend⟩ := exists_eq_trimEnd_append t.trimStart
  refine ⟨l, r, hl, hr, ?_⟩
  rw [List.append_assoc]
  unfold trim
  rw [← hend]
  exact hstart

theorem mem_of_mem_trim {t : Text} {c : Char} (hc : c ∈ t.trim) : c ∈ t := by
  obtain ⟨l, r, -, -, ht⟩ := exists_eq_append_trim_append t
  rw [ht]
  simp [hc]

theorem mem_trim_of_not_blank {t : Text} {c : Char} (hc : c ∈ t) (hblank : isBlank c = false) :
    c ∈ t.trim := by
  obtain ⟨l, r, hl, hr, ht⟩ := exists_eq_append_trim_append t
  rw [ht, List.mem_append, List.mem_append] at hc
  exact (hc.resolve_right (hr.not_mem hblank)).resolve_left (hl.not_mem hblank)

theorem trim_append_of_blank {r : Text} (hr : AllBlank r) (t : Text) :
    trim (t ++ r) = trim t := by
  obtain ⟨l, hl, hstart⟩ := exists_eq_append_trimStart t
  unfold trim
  cases hcore : t.trimStart with
  | nil =>
      rw [hcore, List.append_nil] at hstart
      rw [hstart, trimStart_append_of_blank hl]
      have hnone : trimStart r = [] := List.dropWhile_eq_nil_iff.mpr hr
      rw [hnone]
  | cons c core =>
      have hc : isBlank c = false := head?_trimStart t c (by rw [hcore]; rfl)
      rw [hstart, hcore, List.append_assoc, trimStart_append_of_blank hl, List.cons_append,
        trimStart_cons_of_not_blank hc, ← List.cons_append, trimEnd_append_of_blank hr]

theorem trim_append_of_blank_left {l : Text} (hl : AllBlank l) (t : Text) :
    trim (l ++ t) = trim t := by
  unfold trim
  rw [trimStart_append_of_blank hl]

/-- Blanks around a text leave no trace in its trim. -/
theorem trim_append_blanks {l r : Text} (hl : AllBlank l) (hr : AllBlank r) (t : Text) :
    trim (l ++ t ++ r) = trim t := by
  rw [trim_append_of_blank hr, trim_append_of_blank_left hl]

/-- Whether a text is another with blanks around it, or without. -/
def Padded (t p : Text) : Prop := ∃ l r, AllBlank l ∧ AllBlank r ∧ p = l ++ (t ++ r)

theorem padded_self (t : Text) : Padded t t :=
  ⟨[], [], allBlank_nil, allBlank_nil, (List.append_nil t).symm⟩

namespace Padded

variable {t p : Text}

theorem trim_eq (h : Padded t p) : p.trim = t.trim := by
  obtain ⟨l, r, hl, hr, rfl⟩ := h
  rw [← List.append_assoc]
  exact trim_append_blanks hl hr t

theorem not_mem (h : Padded t p) {c : Char} (hc : isBlank c = false) (ht : c ∉ t) : c ∉ p := by
  obtain ⟨l, r, hl, hr, rfl⟩ := h
  simp [hl.not_mem hc, hr.not_mem hc, ht]

end Padded

theorem trim_eq_nil_iff {t : Text} : t.trim = [] ↔ AllBlank t := by
  constructor
  · intro h
    obtain ⟨l, r, hl, hr, ht⟩ := exists_eq_append_trim_append t
    rw [h, List.append_nil] at ht
    rw [ht]
    intro c hc
    rcases List.mem_append.mp hc with hc | hc
    · exact hl c hc
    · exact hr c hc
  · intro h
    calc t.trim = trim ([] ++ t) := by rw [List.nil_append]
      _ = trim [] := trim_append_of_blank h []
      _ = [] := rfl

/-- A text that is its own trim has no blank at its start and none at its end, and conversely. -/
theorem trim_eq_self_iff {t : Text} :
    t.trim = t ↔ (∀ c ∈ t.head?, isBlank c = false) ∧ ∀ c ∈ t.getLast?, isBlank c = false := by
  constructor
  · intro h
    have hstart : t.trimStart = t := by
      refine (List.dropWhile_suffix isBlank).eq_of_length_le ?_
      calc t.length = t.trimStart.trimEnd.length := by rw [← trim, h]
        _ ≤ t.trimStart.length := (List.rdropWhile_prefix isBlank (l := t.trimStart)).length_le
    refine ⟨trimStart_eq_self_iff.mp hstart, trimEnd_eq_self_iff.mp ?_⟩
    rw [trim, hstart] at h
    exact h
  · rintro ⟨hhead, hlast⟩
    unfold trim
    rw [trimStart_eq_self_iff.mpr hhead, trimEnd_eq_self_iff.mpr hlast]

/-- Whether a text is trimmed depends on its two ends. -/
theorem trim_append_append {x z : Text} (hx : x ≠ []) (hxtrim : x.trim = x) (hz : z ≠ [])
    (hztrim : z.trim = z) (y : Text) : trim (x ++ (y ++ z)) = x ++ (y ++ z) := by
  refine trim_eq_self_iff.mpr ⟨fun c hc => ?_, fun c hc => ?_⟩
  · rw [List.head?_append_of_ne_nil x hx] at hc
    exact (trim_eq_self_iff.mp hxtrim).1 c hc
  · rw [← List.append_assoc, List.getLast?_append_of_ne_nil _ hz] at hc
    exact (trim_eq_self_iff.mp hztrim).2 c hc

theorem trim_trim (t : Text) : t.trim.trim = t.trim := by
  obtain ⟨l, r, hl, hr, ht⟩ := exists_eq_append_trim_append t
  have h := trim_append_blanks hl hr t.trim
  rw [← ht] at h
  exact h.symm

/-- A text without any blank is its own trim. -/
theorem trim_eq_self_of_no_blank {t : Text} (h : ∀ c ∈ t, isBlank c = false) : t.trim = t :=
  trim_eq_self_iff.mpr ⟨fun c hc => h c (List.mem_of_mem_head? hc),
    fun c hc => h c (List.mem_of_mem_getLast? hc)⟩

end QueryOptions.Text
