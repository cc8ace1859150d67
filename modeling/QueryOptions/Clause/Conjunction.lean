import QueryOptions.Text.Basic

/-!
# Taking a conjunction apart

A filter is a row of clauses with the word `and` between them.  The word counts only between
blanks or at an end of the text, so `sand` and `android` stay whole; and it does not count inside
quotes, where `'Rock and Roll'` is one value.

Quotes are the difficulty, since an apostrophe is also an ordinary character, as in `O'Brien`, and
nothing is escaped.  An apostrophe opens a quote only where a token can start, which is at the
start of the text and after a blank, an opening parenthesis or a comma.  The quote ends at the
first apostrophe after which a token can end, which is before a blank, a closing parenthesis or a
comma, and at the end of the text.  An apostrophe for which there is no such end opens nothing, so
a quote that someone forgot to close never hides the clauses after it.

Reading goes by tokens: a quoted run, a separating word, or one character.  Written one after the
other the tokens are the text again, and the clauses are what lies between the separators.
-/

namespace QueryOptions.Conjunction

/-- Whether a token can start after this character, or at the start of the text. -/
def opensAfter : Option Char → Bool
  | none => true
  | some c => isBlank c || c == '(' || c == ','

/-- Whether a quote can end in front of this text. -/
def closesBefore : Text → Bool
  | [] => true
  | c :: _ => isBlank c || c == ')' || c == ','

/-- Whether the word may start after this character, or at the start of the text. -/
def blankAfter : Option Char → Bool
  | none => true
  | some c => isBlank c

/-- Whether the word may end in front of this text. -/
def blankBefore : Text → Bool
  | [] => true
  | c :: _ => isBlank c

/-- Of the text after an opening apostrophe: the run up to and with its closing apostrophe, and
what follows it. -/
def close? : Text → Option (Text × Text)
  | [] => none
  | c :: rest =>
    if c = '\'' ∧ closesBefore rest = true then some ([c], rest)
    else (close? rest).map fun (run, rest) => (c :: run, rest)

/-- What follows the word `and` at the start of the text, if the word ends there. -/
def afterWord? : Text → Option Text
  | 'a' :: 'n' :: 'd' :: rest => if blankBefore rest then some rest else none
  | _ => none

/-- A piece of a filter. -/
inductive Token where
  /-- A quoted run, with its two apostrophes. -/
  | quote (run : Text)
  /-- The separating word. -/
  | separator
  /-- Any other character. -/
  | plain (c : Char)
  deriving DecidableEq, Repr

/-- The characters of a token. -/
def Token.text : Token → Text
  | .quote run => run
  | .separator => "and".toList
  | .plain c => [c]

theorem length_of_close? {t run rest : Text} (h : close? t = some (run, rest)) :
    run.length + rest.length = t.length ∧ 0 < run.length := by
  induction t generalizing run rest with
  | nil => simp [close?] at h
  | cons c t ih =>
    unfold close? at h
    split at h
    · simp only [Option.some.injEq, Prod.mk.injEq] at h
      obtain ⟨rfl, rfl⟩ := h
      simp [Nat.add_comm]
    · obtain ⟨⟨run', rest'⟩, h', heq⟩ := Option.map_eq_some_iff.1 h
      simp only [Prod.mk.injEq] at heq
      obtain ⟨rfl, rfl⟩ := heq
      have := ih h'
      simp only [List.length_cons]
      omega

theorem length_of_afterWord? {t rest : Text} (h : afterWord? t = some rest) :
    rest.length + 3 = t.length := by
  unfold afterWord? at h
  split at h
  · split at h
    · simp only [Option.some.injEq] at h
      simp [h]
    · simp at h
  · simp at h

/-- The quoted run at the front of the text, given the character before it. -/
def quote? (before : Option Char) : Text → Option (Text × Text)
  | [] => none
  | c :: rest =>
    if c = '\'' ∧ opensAfter before = true then
      (close? rest).map fun (run, rest) => (c :: run, rest)
    else none

/-- What follows the separating word at the front of the text, given the character before it. -/
def separator? (before : Option Char) (t : Text) : Option Text :=
  if blankAfter before then afterWord? t else none

theorem length_of_quote? {before : Option Char} {t run rest : Text}
    (h : quote? before t = some (run, rest)) : rest.length < t.length := by
  unfold quote? at h
  split at h
  · simp at h
  · split at h
    · obtain ⟨⟨run', rest'⟩, h', heq⟩ := Option.map_eq_some_iff.1 h
      simp only [Prod.mk.injEq] at heq
      obtain ⟨rfl, rfl⟩ := heq
      have := length_of_close? h'
      simp only [List.length_cons]
      omega
    · simp at h

theorem length_of_separator? {before : Option Char} {t rest : Text}
    (h : separator? before t = some rest) : rest.length < t.length := by
  unfold separator? at h
  split at h
  · have := length_of_afterWord? h
    omega
  · simp at h

/-- The tokens of a text, given the character before it. -/
def tokens (before : Option Char) (t : Text) : List Token :=
  match t with
  | [] => []
  | c :: rest =>
    match _hq : quote? before (c :: rest) with
    | some (run, rest') => .quote run :: tokens (some '\'') rest'
    | none =>
      match _hs : separator? before (c :: rest) with
      | some rest' => .separator :: tokens (some 'd') rest'
      | none => .plain c :: tokens (some c) rest
termination_by t.length
decreasing_by
  · exact length_of_quote? _hq
  · exact length_of_separator? _hs
  · exact Nat.lt_succ_self _

/-- What lies between the separators of a row of tokens. -/
def between (ts : List Token) : List Text :=
  (ts.splitOnP (· == .separator)).map fun part => part.flatMap Token.text

/-- The clauses of a conjunction, trimmed, without the blank ones. -/
def clauses (t : Text) : List Text := Text.trimAll (between (tokens none t))

end QueryOptions.Conjunction
