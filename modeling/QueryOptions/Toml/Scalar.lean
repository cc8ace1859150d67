import QueryOptions.Number.Binary64
import QueryOptions.Text.Hex

/-!
# Numbers, dates and truth values in TOML

A value without marks and brackets is one word.  It is read by what kinds of word there are:
truth values, dates and times, integers in four bases, and numbers with a point or a power of ten.
Between two digits there may be an underscore.
-/

namespace QueryOptions.Toml

/-- A value that is one word. -/
inductive Scalar where
  | boolean (value : Bool)
  | integer (value : Int)
  | float (value : Binary64)
  /-- A date, a time, or both, as it is written. -/
  | moment (text : Text)
  deriving DecidableEq

namespace Scalar

/-! ## Numbers -/

/-- The digits of a row of digits with single underscores between some of them. -/
def digits? (isDigit : Char → Bool) (t : Text) : Option Text :=
  let groups := t.splitOn '_'
  if groups.all fun g => !g.isEmpty && g.all isDigit then some groups.flatten else none

/-- The digits of a decimal integer, which has no zero in front of other digits. -/
def decimalDigits? (t : Text) : Option Text :=
  if t.head? = some '0' && t != ['0'] then none else digits? Char.isDigit t

/-- An integer that fits in 64 bits. -/
def ofInt? (n : Int) : Option Scalar := if Binary64.isWord n then some (integer n) else none

/-- An integer in a base whose digits are told by `isDigit`. -/
def inBase? (base : Nat) (isDigit : Char → Bool) (t : Text) : Option Scalar := do
  let digits ← digits? isDigit t
  let value ← digits.foldlM (fun n c => (hexValue c).map (n * base + ·)) 0
  ofInt? value

/-- An integer.  In another base than ten it has no sign. -/
def integer? : Text → Option Scalar
  | '0' :: 'x' :: rest => inBase? 16 (fun c => (hexValue c).isSome) rest
  | '0' :: 'o' :: rest => inBase? 8 (fun c => '0' ≤ c && c ≤ '7') rest
  | '0' :: 'b' :: rest => inBase? 2 (fun c => c == '0' || c == '1') rest
  | t => do
    let (negative, rest) := Numeral.splitSign t
    ofInt? (Numeral.signedInteger negative (← decimalDigits? rest))

/-- Digits and underscores at the front, and what follows them. -/
def splitGroups (t : Text) : Text × Text :=
  (t.takeWhile fun c => c.isDigit || c == '_', t.dropWhile fun c => c.isDigit || c == '_')

/-- A power of ten, or nothing. -/
def exponent? : Text → Option (Option Int)
  | [] => some none
  | c :: rest =>
    if c = 'e' ∨ c = 'E' then do
      let (negative, rest) := Numeral.splitSign rest
      return some (Numeral.signedInteger negative (← digits? Char.isDigit rest))
    else none

/-- A number with a point or a power of ten.  One that is beyond every double is refused unless it
is negative. -/
def decimal? (t : Text) : Option Scalar := do
  let (negative, rest) := Numeral.splitSign t
  let (whole, rest) := splitGroups rest
  let whole ← decimalDigits? whole
  let (fraction, rest) ← match rest with
    | '.' :: rest => do
      let (fraction, rest) := splitGroups rest
      pure (some (← digits? Char.isDigit fraction), rest)
    | rest => pure (none, rest)
  let exponent ← exponent? rest
  if fraction.isNone && exponent.isNone then none
  let x := Binary64.ofNumeral ⟨negative, whole, fraction, exponent⟩
  if x.isFinite || negative then some (float x) else none

/-- An infinity, or what is no number. -/
def special? (t : Text) : Option Scalar :=
  let (negative, name) := Numeral.splitSign t
  if name = "inf".toList then some (float (.signed negative .infinity))
  else if name = "nan".toList then some (float .nan)
  else none

/-! ## Dates and times -/

/-- The number that exactly `n` digits denote. -/
def fixed? (n : Nat) (t : Text) : Option Nat :=
  if t.length = n ∧ t.all Char.isDigit = true then some (Numeral.ofDigits t) else none

/-- Whether a year has a 29th of February. -/
def isLeapYear (year : Nat) : Bool := year % 4 == 0 && (year % 100 != 0 || year % 400 == 0)

/-- The number of days in a month. -/
def daysIn (year month : Nat) : Nat :=
  if month = 2 then if isLeapYear year then 29 else 28
  else if month = 4 ∨ month = 6 ∨ month = 9 ∨ month = 11 then 30
  else 31

/-- Whether a text is a date: year, month and day with hyphens between. -/
def isDate (t : Text) : Bool :=
  match (t.splitOn '-').map fun part => (part.length, fixed? part.length part) with
  | [(4, some year), (2, some month), (2, some day)] =>
    1 ≤ month && month ≤ 12 && 1 ≤ day && day ≤ daysIn year month
  | _ => false

/-- Whether a text is two digits that denote a number up to `limit`. -/
def isPart (limit : Nat) (t : Text) : Bool :=
  match fixed? 2 t with
  | some n => n ≤ limit
  | none => false

/-- Whether a text is seconds, with or without a fraction; a leap second is among them. -/
def isSeconds (t : Text) : Bool :=
  isPart 60 (t.take 2) &&
    (match t.drop 2 with
     | [] => true
     | '.' :: fraction => !fraction.isEmpty && fraction.all Char.isDigit
     | _ => false)

/-- Whether a text is a time: hour, minute and second with colons between. -/
def isTime (t : Text) : Bool :=
  match t.splitOn ':' with
  | [hour, minute, second] => isPart 23 hour && isPart 59 minute && isSeconds second
  | _ => false

/-- Whether a text is the distance of a clock from that of Greenwich. -/
def isOffset : Text → Bool
  | [c] => c == 'Z' || c == 'z'
  | c :: rest =>
    (c == '+' || c == '-') &&
      (match rest.splitOn ':' with
       | [hour, minute] => isPart 23 hour && isPart 59 minute
       | _ => false)
  | [] => false

/-- Whether a text is a time, with or without the place that it is meant for. -/
def isTimeAnywhere (t : Text) : Bool :=
  let isLocal (c : Char) := c.isDigit || c == ':' || c == '.'
  let offset := t.dropWhile isLocal
  isTime (t.takeWhile isLocal) && (offset.isEmpty || isOffset offset)

/-- Whether a text is a date, a time, or a date with a time behind a letter `T`. -/
def isMoment (t : Text) : Bool :=
  isDate t || isTime t ||
    (match t.drop 10 with
     | c :: time => (c == 'T' || c == 't') && isDate (t.take 10) && isTimeAnywhere time
     | [] => false)

/-! ## Words -/

/-- The value that a word is. -/
def ofWord? (t : Text) : Option Scalar :=
  if t = "true".toList then some (boolean true)
  else if t = "false".toList then some (boolean false)
  else if isMoment t then some (moment t)
  else (integer? t).or ((decimal? t).or (special? t))

/-- Whether a character may stand in a word. -/
def isWordChar (c : Char) : Bool :=
  c.isAlphanum || c == '_' || c == '+' || c == '-' || c == '.' || c == ':'

/-- The value at the front, and what follows it.  A date may be followed by a space and a time. -/
def read? (t : Text) : Option (Scalar × Text) := do
  let word := t.takeWhile isWordChar
  let rest := t.dropWhile isWordChar
  let next := (rest.drop 1).takeWhile isWordChar
  if isDate word && rest.head? == some ' ' && isTimeAnywhere next then
    return (moment (word ++ ' ' :: next), (rest.drop 1).dropWhile isWordChar)
  return (← ofWord? word, rest)

end Scalar

end QueryOptions.Toml
