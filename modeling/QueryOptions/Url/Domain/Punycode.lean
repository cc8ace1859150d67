import QueryOptions.Text.Basic

/-!
# Labels in ASCII

Any text can be written in letters and digits.  The ASCII characters of the text come first, then a
hyphen, and then numbers, each of which inserts one more character: it counts, from the last
insertion on, all the ways to insert a character, place by place and character by character.

A number is written in digits of base 36, the least first.  What a digit may be worth before it is
taken as the last depends on its place and on a bias, which follows the size of the numbers.
-/

namespace QueryOptions.Punycode

/-- The value of a digit, a small letter or a decimal digit. -/
def digit? (c : Char) : Option Nat :=
  if c.isLower then some (c.toNat - 'a'.toNat)
  else if c.isDigit then some (c.toNat - '0'.toNat + 26)
  else none

/-- The least digit at a place that is not the last. -/
def threshold (place bias : Nat) : Nat := max 1 (min 26 (place - bias))

/-- The number at the front of a text, and what is behind it.  The digit in front is at the given
place, and its unit is the given weight. -/
def number? (bias place weight : Nat) : Text → Option (Nat × Text)
  | [] => none
  | c :: rest =>
    (digit? c).bind fun d =>
      let least := threshold place bias
      if d < least then some (d * weight, rest)
      else
        (number? bias (place + 36) (weight * (36 - least)) rest).map fun (n, rest) =>
          (d * weight + n, rest)

/-- A number takes at least one digit. -/
theorem length_lt_of_number_eq {bias place weight n : Nat} {t rest : Text}
    (h : number? bias place weight t = some (n, rest)) : rest.length < t.length := by
  induction t generalizing place weight n with
  | nil => simp [number?] at h
  | cons c t ih =>
    simp only [number?, Option.bind_eq_some_iff] at h
    obtain ⟨d, -, h⟩ := h
    split at h
    · simp only [Option.some.injEq, Prod.mk.injEq] at h
      simp [h.2]
    · simp only [Option.map_eq_some_iff, Prod.mk.injEq, Prod.exists] at h
      obtain ⟨m, rest', hm, -, rfl⟩ := h
      exact Nat.lt_succ_of_lt (ih hm)

/-- The bias that suits numbers of the given size. -/
def biasOfSize (size : Nat) : Nat :=
  if 455 < size then 36 + biasOfSize (size / 35) else 36 * size / (size + 38)
termination_by size
decreasing_by omega

/-- The bias after a number that has made the text as long as given.  The first number is far
greater than the others. -/
def nextBias (number length : Nat) (isFirst : Bool) : Nat :=
  let size := if isFirst then number / 700 else number / 2
  biasOfSize (size + size / length)

/-- Inserts the characters that the numbers stand for.  `code` is the character of the last
insertion and `next` the place behind it. -/
def insertAll (text : Text) (code next bias : Nat) (t : Text) : Option Text :=
  if t.isEmpty then some text
  else
    match _h : number? bias 36 1 t with
    | none => none
    | some (number, rest) =>
      let length := text.length + 1
      let code := code + (next + number) / length
      let place := (next + number) % length
      if code.isValidChar then
        insertAll (text.insertIdx place (Char.ofNat code)) code (place + 1)
          (nextBias number length (next == 0)) rest
      else none
termination_by t.length
decreasing_by exact length_lt_of_number_eq _h

/-- The ASCII characters in front of the last hyphen, and the numbers behind it.  A hyphen with
nothing in front of it separates nothing. -/
def split (t : Text) : Text × Text :=
  let behind := (t.reverse.takeWhile (· != '-')).reverse
  let front := (t.take (t.length - behind.length)).dropLast
  if front.isEmpty then ([], t) else (front, behind)

/-- The text that a text of small letters, digits and other ASCII characters stands for. -/
def decode? (t : Text) : Option Text :=
  let (front, numbers) := split t
  if front.all (·.toNat < 128) then insertAll front 128 0 72 numbers else none

end QueryOptions.Punycode
