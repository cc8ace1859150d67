import Mathlib.Data.List.Forall2
import Mathlib.Tactic.Common

/-!
# Readings that succeed, and readings that fail

A reader returns what it read or an error, and a reading in several steps succeeds when all of them
do and fails when one of them does.  These are the facts about `Except` with which such a reading is
taken into its steps, and a list of readings into the single ones.
-/

namespace QueryOptions

variable {ε α β : Type}

theorem bind_eq_ok {x : Except ε α} {f : α → Except ε β} {b : β} :
    (x >>= f) = .ok b ↔ ∃ a, x = .ok a ∧ f a = .ok b := by
  cases x with
  | error e => simp [bind, Except.bind]
  | ok a => simp [bind, Except.bind]

theorem map_eq_ok {x : Except ε α} {f : α → β} {b : β} :
    x.map f = .ok b ↔ ∃ a, x = .ok a ∧ f a = b := by
  cases x with
  | error e => simp [Except.map]
  | ok a => simp [Except.map]

theorem mapError_eq_ok {ε' : Type} {x : Except ε α} {f : ε → ε'} {a : α} :
    x.mapError f = .ok a ↔ x = .ok a := by
  cases x with
  | error e => simp [Except.mapError]
  | ok b => simp [Except.mapError]

theorem mapError_eq_error {ε' : Type} {x : Except ε α} {f : ε → ε'} {e : ε'} :
    x.mapError f = .error e ↔ ∃ e', x = .error e' ∧ f e' = e := by
  cases x with
  | error e' => simp [Except.mapError]
  | ok b => simp [Except.mapError]

theorem mapM_cons_eq_ok {f : α → Except ε β} {a : α} {as : List α} {bs : List β} :
    (a :: as).mapM f = .ok bs ↔
      ∃ b bs', f a = .ok b ∧ as.mapM f = .ok bs' ∧ b :: bs' = bs := by
  rw [List.mapM_cons, bind_eq_ok]
  constructor
  · rintro ⟨b, hb, h⟩
    obtain ⟨bs', hbs', hpure⟩ := bind_eq_ok.mp h
    exact ⟨b, bs', hb, hbs', Except.ok.inj hpure⟩
  · rintro ⟨b, bs', hb, hbs', rfl⟩
    exact ⟨b, hb, bind_eq_ok.mpr ⟨bs', hbs', rfl⟩⟩

/-- Every result of a list of readings is the result of one of them. -/
theorem exists_of_mem_mapM {f : α → Except ε β} {as : List α} {bs : List β}
    (h : as.mapM f = .ok bs) : ∀ b ∈ bs, ∃ a ∈ as, f a = .ok b := by
  induction as generalizing bs with
  | nil =>
      cases h
      simp
  | cons a as ih =>
      obtain ⟨b, bs', hb, hbs', rfl⟩ := mapM_cons_eq_ok.mp h
      intro b' hb'
      rcases List.mem_cons.mp hb' with rfl | hb'
      · exact ⟨a, List.mem_cons_self, hb⟩
      · obtain ⟨a', ha', hread⟩ := ih hbs' b' hb'
        exact ⟨a', List.mem_cons_of_mem a ha', hread⟩

theorem bind_eq_error {x : Except ε α} {f : α → Except ε β} {e : ε} :
    (x >>= f) = .error e ↔ x = .error e ∨ ∃ a, x = .ok a ∧ f a = .error e := by
  cases x with
  | error e' => simp [bind, Except.bind]
  | ok a => simp [bind, Except.bind]

theorem map_eq_error {x : Except ε α} {f : α → β} {e : ε} :
    x.map f = .error e ↔ x = .error e := by
  cases x with
  | error e' => simp [Except.map]
  | ok a => simp [Except.map]

/-- A list of readings fails with the error of one of them. -/
theorem exists_of_mapM_eq_error {f : α → Except ε β} {as : List α} {e : ε}
    (h : as.mapM f = .error e) : ∃ a ∈ as, f a = .error e := by
  induction as with
  | nil => cases h
  | cons a as ih =>
      rw [List.mapM_cons] at h
      rcases bind_eq_error.mp h with h | ⟨b, -, h⟩
      · exact ⟨a, List.mem_cons_self, h⟩
      · rcases bind_eq_error.mp h with h | ⟨bs, -, h⟩
        · obtain ⟨a', ha', hread⟩ := ih h
          exact ⟨a', List.mem_cons_of_mem a ha', hread⟩
        · cases h

/-- A list of readings succeeds with one result for each, in the same order. -/
theorem mapM_eq_ok_iff {f : α → Except ε β} {as : List α} {bs : List β} :
    as.mapM f = .ok bs ↔ List.Forall₂ (fun a b => f a = .ok b) as bs := by
  induction as generalizing bs with
  | nil =>
      rw [List.forall₂_nil_left_iff]
      exact ⟨fun h => (Except.ok.inj h).symm, fun h => h ▸ rfl⟩
  | cons a as ih =>
      rw [mapM_cons_eq_ok, List.forall₂_cons_left_iff]
      constructor
      · rintro ⟨b, bs', hb, hbs', rfl⟩
        exact ⟨b, bs', hb, ih.mp hbs', rfl⟩
      · rintro ⟨b, bs', hb, hbs', rfl⟩
        exact ⟨b, bs', hb, ih.mpr hbs', rfl⟩

/-- If all ways to write each of a list are read as it, the list is read from all of them. -/
theorem mapM_eq_ok_of_forall₂ {f : α → Except ε β} {R : β → α → Prop} {bs : List β}
    {as : List α} (h : List.Forall₂ R bs as) (hread : ∀ b ∈ bs, ∀ a, R b a → f a = .ok b) :
    as.mapM f = .ok bs := by
  induction h with
  | nil => rfl
  | cons hwritten _ ih =>
      obtain ⟨hfirst, hrest⟩ := List.forall_mem_cons.mp hread
      exact mapM_cons_eq_ok.mpr ⟨_, _, hfirst _ hwritten, ih hrest, rfl⟩

/-- Readings that each return what was written return what was written. -/
theorem mapM_map_eq_ok {f : α → Except ε β} {g : β → α} {bs : List β}
    (h : ∀ b ∈ bs, f (g b) = .ok b) : (bs.map g).mapM f = .ok bs := by
  have hwritten : List.Forall₂ (fun b a => a = g b) bs (bs.map g) := by
    rw [List.forall₂_map_right_iff, List.forall₂_same]
    exact fun b _ => rfl
  refine mapM_eq_ok_of_forall₂ hwritten ?_
  rintro b hb a rfl
  exact h b hb

/-! ## Checks

A check is a reading of which only the error matters. -/

/-- Checks that are made one after the other succeed if each of them does. -/
theorem forM_eq_ok {f : α → Except ε PUnit} {as : List α} :
    forM as f = .ok () ↔ ∀ a ∈ as, f a = .ok () := by
  induction as with
  | nil => exact iff_of_true rfl (by simp)
  | cons a as ih =>
      rw [List.forM_cons, bind_eq_ok, List.forall_mem_cons]
      constructor
      · rintro ⟨⟨⟩, ha, has⟩
        exact ⟨ha, ih.mp has⟩
      · rintro ⟨ha, has⟩
        exact ⟨(), ha, ih.mpr has⟩

/-- Checks that are made one after the other fail with the error of the first that does. -/
theorem forM_eq_error {f : α → Except ε PUnit} {as : List α} {e : ε} :
    forM as f = .error e ↔ ∃ before a after, as = before ++ a :: after ∧
      (∀ b ∈ before, f b = .ok ()) ∧ f a = .error e := by
  induction as with
  | nil => simp [pure, Except.pure]
  | cons a as ih =>
      rw [List.forM_cons, bind_eq_error]
      constructor
      · rintro (ha | ⟨⟨⟩, ha, has⟩)
        · exact ⟨[], a, as, rfl, by simp, ha⟩
        · obtain ⟨before, b, after, rfl, hbefore, hb⟩ := ih.mp has
          exact ⟨a :: before, b, after, rfl, List.forall_mem_cons.mpr ⟨ha, hbefore⟩, hb⟩
      · rintro ⟨before, b, after, hsplit, hbefore, hb⟩
        cases before with
        | nil =>
            cases hsplit
            exact Or.inl hb
        | cons c before =>
            cases hsplit
            obtain ⟨hc, hbefore⟩ := List.forall_mem_cons.mp hbefore
            exact Or.inr ⟨(), hc, ih.mpr ⟨before, b, after, rfl, hbefore, hb⟩⟩

/-- A reading in two steps is a row of two checks, if what fails in the second step is the same
whatever the first has read. -/
theorem map_bind_eq {x : Except ε α} {f : α → Except ε β} {check : Except ε Unit}
    (h : ∀ a, (f a).map (fun _ => ()) = check) :
    (x >>= f).map (fun _ => ()) = x.map (fun _ => ()) >>= fun _ => check := by
  cases x with
  | error e => rfl
  | ok a => exact h a

/-- Readings without their results are checks. -/
theorem map_mapM_eq_forM (f : α → Except ε β) (as : List α) :
    (as.mapM f).map (fun _ => ()) = forM as fun a => (f a).map fun _ => () := by
  induction as with
  | nil => rfl
  | cons a as ih =>
      rw [List.mapM_cons, List.forM_cons, ← ih]
      cases f a with
      | error e => rfl
      | ok b => cases as.mapM f <;> rfl

/-- A list of readings succeeds if each of them does. -/
theorem exists_mapM_eq_ok_iff {f : α → Except ε β} {as : List α} :
    (∃ bs, as.mapM f = .ok bs) ↔ ∀ a ∈ as, ∃ b, f a = .ok b := by
  have hchecks : (as.mapM f).map (fun _ => ()) = .ok () ↔
      ∀ a ∈ as, (f a).map (fun _ => ()) = .ok () := by
    rw [map_mapM_eq_forM, forM_eq_ok]
  simpa only [map_eq_ok, and_true] using hchecks

/-- A list of readings fails with the error of the first that does. -/
theorem mapM_eq_error_iff {f : α → Except ε β} {as : List α} {e : ε} :
    as.mapM f = .error e ↔ ∃ before a after, as = before ++ a :: after ∧
      (∀ a' ∈ before, ∃ b, f a' = .ok b) ∧ f a = .error e := by
  rw [← map_eq_error (f := fun _ => ()), map_mapM_eq_forM, forM_eq_error]
  simp only [map_eq_error, map_eq_ok, and_true]

end QueryOptions
