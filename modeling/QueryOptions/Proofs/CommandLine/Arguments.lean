import QueryOptions.CommandLine.Arguments
import QueryOptions.Proofs.Success

/-!
# What the arguments spell

The reader of the arguments keeps the options read so far, and only to refuse an option that is
given twice does it look at them.  So the option for plain keys can be added to arguments that do
not have it, and the same command is read with the same other options (`readFrom_noPrefixOption`).

Every step of the reader is taken twice side by side, once with the options as they are and once
with keys read plainly.  The induction is on the arguments; it goes back and forth between an option
and its value, as the reader does.  What it needs at every step is that the option for plain keys
has not been read yet, and this is known from the end of the reading: no step takes an option back.
-/

namespace QueryOptions.CommandLine

/-! ## One step -/

namespace Options

/-- The options, with keys read plainly. -/
def plainly (o : Options) : Options := { o with noPrefix := true }

variable {o o' : Options}

theorem setFlag_plainly {flag : Flag} (h : o.setFlag flag = .ok o') (hplain : o'.noPrefix = false) :
    o.noPrefix = false ∧ o.plainly.setFlag flag = .ok o'.plainly := by
  cases flag with
  | noPrefix =>
      -- the option for plain keys itself is ruled out
      unfold setFlag at h
      simp only at h
      split at h
      · cases h
      · cases h
        cases hplain
  | verbose =>
      unfold setFlag at h ⊢
      simp only at h ⊢
      split at h
      · cases h
      · rename_i hverbose
        cases h
        exact ⟨hplain, if_neg hverbose⟩
  | version | help => cases h

theorem set_plainly {value : Text} {setting : Setting} (h : o.set value setting = .ok o')
    (hplain : o'.noPrefix = false) :
    o.noPrefix = false ∧ o.plainly.set value setting = .ok o'.plainly := by
  cases setting with
  | format =>
      unfold set at h ⊢
      simp only at h ⊢
      split at h
      · rename_i format hnone hformat
        cases h
        have hplainNone : o.plainly.format = none := hnone
        rw [hplainNone, hformat]
        exact ⟨hplain, rfl⟩
      · cases h
  | config =>
      unfold set at h ⊢
      simp only at h ⊢
      split at h
      · cases h
      · rename_i hconfig
        cases h
        exact ⟨hplain, if_neg hconfig⟩

theorem setAddress_plainly {address : Text} (h : o.setAddress address = .ok o')
    (hplain : o'.noPrefix = false) :
    o.noPrefix = false ∧ o.plainly.setAddress address = .ok o'.plainly := by
  unfold setAddress at h ⊢
  split at h
  · cases h
  · rename_i haddress
    cases h
    exact ⟨hplain, if_neg haddress⟩

/-- After a step no value is waited for, however keys are read. -/
theorem map_plainly {step step' : Except Halt Options} {setting : Option Setting}
    (hstep : ∀ {o₁}, step = .ok o₁ → o₁.noPrefix = false →
      o.noPrefix = false ∧ step' = .ok o₁.plainly)
    (h : step.map (fun o => (o, none)) = .ok (o', setting)) (hplain : o'.noPrefix = false) :
    o.noPrefix = false ∧ step'.map (fun o => (o, none)) = .ok (o'.plainly, setting) := by
  obtain ⟨o₁, ho₁, heq⟩ := map_eq_ok.mp h
  cases heq
  obtain ⟨hno, hread⟩ := hstep ho₁ hplain
  exact ⟨hno, map_eq_ok.mpr ⟨_, hread, rfl⟩⟩

theorem long_plainly {argument : Text} {waiting : Option Setting}
    (h : o.long argument = .ok (o', waiting)) (hplain : o'.noPrefix = false) :
    o.noPrefix = false ∧ o.plainly.long argument = .ok (o'.plainly, waiting) := by
  unfold long at h ⊢
  simp only at h ⊢
  split at h
  · exact map_plainly setFlag_plainly h hplain
  · cases h
    exact ⟨hplain, rfl⟩
  · exact map_plainly set_plainly h hplain
  · cases h

theorem short_plainly {letters : Text} {waiting : Option Setting}
    (h : o.short letters = .ok (o', waiting)) (hplain : o'.noPrefix = false) :
    o.noPrefix = false ∧ o.plainly.short letters = .ok (o'.plainly, waiting) := by
  induction letters generalizing o with
  | nil =>
      cases h
      exact ⟨hplain, rfl⟩
  | cons c rest ih =>
      unfold short at h ⊢
      generalize OptionName.ofShort? c = name at h ⊢
      split at h
      · obtain ⟨o₁, hflag, hrest⟩ := bind_eq_ok.mp h
        obtain ⟨hno₁, hread⟩ := ih hrest
        obtain ⟨hno, hset⟩ := setFlag_plainly hflag hno₁
        exact ⟨hno, bind_eq_ok.mpr ⟨_, hset, hread⟩⟩
      · cases h
        exact ⟨hplain, rfl⟩
      · exact map_plainly set_plainly h hplain
      · exact map_plainly set_plainly h hplain
      · cases h

/-- An argument that begins with a hyphen is a name or a row of letters. -/
theorem option_plainly {letters : Text} {waiting : Option Setting}
    (h : (if letters.head? = some '-' then o.long (letters.drop 1) else o.short letters) =
      .ok (o', waiting)) (hplain : o'.noPrefix = false) :
    o.noPrefix = false ∧
      (if letters.head? = some '-' then o.plainly.long (letters.drop 1)
        else o.plainly.short letters) = .ok (o'.plainly, waiting) := by
  split_ifs at h ⊢
  · exact long_plainly h hplain
  · exact short_plainly h hplain

end Options

/-! ## All arguments -/

/-- The invocation, with keys read plainly. -/
def Invocation.plainly (i : Invocation) : Invocation := { i with options := i.options.plainly }

theorem readOperands_plainly {arguments : List Text} {o : Options} {i : Invocation}
    (h : readOperands o arguments = .ok i) (hplain : i.options.noPrefix = false) :
    o.noPrefix = false ∧ readOperands o.plainly arguments = .ok i.plainly := by
  induction arguments generalizing o with
  | nil =>
      cases h
      exact ⟨hplain, rfl⟩
  | cons argument rest ih =>
      obtain ⟨o₁, haddress, hrest⟩ := bind_eq_ok.mp h
      obtain ⟨hno₁, hread⟩ := ih hrest
      obtain ⟨hno, hset⟩ := Options.setAddress_plainly haddress hno₁
      exact ⟨hno, bind_eq_ok.mpr ⟨_, hset, hread⟩⟩

mutual

theorem readFrom_plainly {i : Invocation} (hplain : i.options.noPrefix = false) :
    ∀ (arguments : List Text) {o : Options}, readFrom o arguments = .ok i →
      o.noPrefix = false ∧ readFrom o.plainly arguments = .ok i.plainly
  | [], o, h => by
      unfold readFrom at h ⊢
      cases h
      exact ⟨hplain, rfl⟩
  | argument :: rest, o, h => by
      unfold readFrom at h ⊢
      split at h
      · -- nothing is an option any more
        rename_i hend
        rw [if_pos hend]
        exact readOperands_plainly h hplain
      · rename_i hend
        rw [if_neg hend]
        split at h
        · -- the rest belongs to a command
          rename_i command hcommand
          obtain ⟨c, hc, rfl⟩ := map_eq_ok.mp h
          exact ⟨hplain, map_eq_ok.mpr ⟨c, hc, rfl⟩⟩
        · split at h
          · rename_i hoption
            rw [if_pos hoption]
            simp only at h ⊢
            split at h
            · cases h
            · rename_i o₁ hstep
              obtain ⟨hno₁, hread⟩ := readFrom_plainly hplain rest h
              obtain ⟨hno, hset⟩ := Options.option_plainly hstep hno₁
              rw [hset]
              exact ⟨hno, hread⟩
            · -- the next argument is the value of an option
              rename_i o₁ setting hstep
              obtain ⟨hno₁, hread⟩ := readValue_plainly hplain rest h
              obtain ⟨hno, hset⟩ := Options.option_plainly hstep hno₁
              rw [hset]
              exact ⟨hno, hread⟩
          · rename_i hoption
            rw [if_neg hoption]
            split at h
            · cases h
            · rename_i o₁ haddress
              obtain ⟨hno₁, hread⟩ := readFrom_plainly hplain rest h
              obtain ⟨hno, hset⟩ := Options.setAddress_plainly haddress hno₁
              rw [hset]
              exact ⟨hno, hread⟩

theorem readValue_plainly {i : Invocation} (hplain : i.options.noPrefix = false) :
    ∀ (arguments : List Text) {o : Options} {setting : Setting},
      readValue o setting arguments = .ok i →
        o.noPrefix = false ∧ readValue o.plainly setting arguments = .ok i.plainly
  | [], o, setting, h => by
      unfold readValue at h
      cases h
  | value :: rest, o, setting, h => by
      unfold readValue at h ⊢
      split at h
      · cases h
      · rename_i hoption
        rw [if_neg hoption]
        split at h
        · cases h
        · rename_i o₁ hvalue
          obtain ⟨hno₁, hread⟩ := readFrom_plainly hplain rest h
          obtain ⟨hno, hset⟩ := Options.set_plainly hvalue hno₁
          rw [hset]
          exact ⟨hno, hread⟩

end

/-! ## The option for plain keys -/

/-- The option for plain keys. -/
def noPrefixOption : Text := "--no-prefix".toList

/-- **The option for plain keys can be put in front of all other arguments**, if it is not among
them already, and it changes nothing else. -/
theorem readFrom_noPrefixOption {arguments : List Text} {i : Invocation}
    (h : readFrom {} arguments = .ok i) (hplain : i.options.noPrefix = false) :
    readFrom {} (noPrefixOption :: arguments) = .ok i.plainly :=
  (readFrom_plainly hplain arguments h).2

/-! ## The environment -/

/-- The invocation, with the configuration in the given file unless the arguments name one. -/
def Invocation.withVariable (i : Invocation) (configVariable : Option Text) : Invocation :=
  { i with options := { i.options with config := i.options.config.or configVariable } }

/-- The environment may name the configuration, but not by an empty path. -/
theorem read_eq_ok_iff {configVariable : Option Text} {arguments : List Text} {j : Invocation} :
    read configVariable arguments = .ok j ↔
      ∃ i, readFrom {} arguments = .ok i ∧
        (i.options.config = none → configVariable ≠ some []) ∧
        i.withVariable configVariable = j := by
  unfold read
  rw [bind_eq_ok]
  refine exists_congr fun i => and_congr_right fun _ => ?_
  obtain ⟨command, address, noPrefix, verbose, format, config⟩ := i
  cases config with
  | some path => simp [Invocation.withVariable, pure, Except.pure]
  | none =>
      cases configVariable with
      | none => simp [Invocation.withVariable, pure, Except.pure]
      | some path =>
          cases path with
          | nil => simp [Options.set, bind, Except.bind]
          | cons c path =>
              simp [Invocation.withVariable, Options.set, bind, Except.bind, pure, Except.pure]

end QueryOptions.CommandLine
