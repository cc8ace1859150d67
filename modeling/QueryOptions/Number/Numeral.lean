import QueryOptions.Text.Basic

/-!
# Decimal numerals

A numeral is an optional sign, digits with an optional point among them, and an optional power of
ten: `42`, `-4.20`, `.5`, `5.`, `1e3`, `+2.5E-3`.  There must be a digit beside the point, and the
digits are the ten of ASCII.  `Numeral.ofText?` reads a text that is a numeral from end to end.

The exact value of a numeral is a whole number, its `coefficient`, times a power of ten, its
`scale`; `Decimal` holds the two.
-/

namespace QueryOptions

/-- The number `coefficient · 10 ^ scale`. -/
structure Decimal where
  coefficient : Nat
  scale : Int
  deriving DecidableEq, Repr

/-- What a numeral is made of. -/
structure Numeral where
  /-- Whether it begins with a minus sign. -/
  negative : Bool
  /-- The digits in front of the point. -/
  whole : Text
  /-- The digits behind the point, if there is a point. -/
  fraction : Option Text
  /-- The power of ten, if one is written. -/
  exponent : Option Int
  deriving DecidableEq, Repr

namespace Numeral

/-- The number that a row of digits denotes. -/
def ofDigits (digits : Text) : Nat := Nat.ofDigitChars 10 digits 0

/-- Whether there is a minus sign in front, and what follows the sign if there is one. -/
def splitSign : Text → Bool × Text
  | '-' :: rest => (true, rest)
  | '+' :: rest => (false, rest)
  | rest => (false, rest)

/-- The digits at the front, and what follows them. -/
def splitDigits (t : Text) : Text × Text := (t.takeWhile Char.isDigit, t.dropWhile Char.isDigit)

/-- An integer with an optional sign, from end to end. -/
def integer? (t : Text) : Option (Bool × Text) :=
  let (negative, digits) := splitSign t
  if digits.isEmpty || !digits.all Char.isDigit then none else some (negative, digits)

/-- The integer with the given sign and digits. -/
def signedInteger (negative : Bool) (digits : Text) : Int :=
  if negative then -(ofDigits digits : Int) else ofDigits digits

/-- The end of a numeral: nothing, or a power of ten. -/
def exponent? : Text → Option (Option Int)
  | [] => some none
  | c :: rest =>
    if c = 'e' ∨ c = 'E' then
      (integer? rest).map fun (negative, digits) => some (signedInteger negative digits)
    else none

/-- A point and the digits behind it, if there is a point, and what follows. -/
def splitFraction : Text → Option Text × Text
  | '.' :: rest => let (digits, rest) := splitDigits rest; (some digits, rest)
  | rest => (none, rest)

/-- The numeral that the text is. -/
def ofText? (t : Text) : Option Numeral :=
  let (negative, rest) := splitSign t
  let (whole, rest) := splitDigits rest
  let (fraction, rest) := splitFraction rest
  if whole.isEmpty && (fraction.getD []).isEmpty then none
  else (exponent? rest).map fun exponent => ⟨negative, whole, fraction, exponent⟩

/-- A minus sign if there is to be one. -/
def sign (negative : Bool) : Text := if negative then ['-'] else []

/-- An integer in decimal digits. -/
def integerText (n : Int) : Text := sign (n < 0) ++ Nat.toDigits 10 n.natAbs

/-- A power of ten, with a sign in any case. -/
def exponentText : Option Int → Text
  | none => []
  | some e => 'e' :: (if e < 0 then '-' else '+') :: Nat.toDigits 10 e.natAbs

/-- The point and the digits behind it. -/
def fractionText : Option Text → Text
  | none => []
  | some digits => '.' :: digits

/-- The numeral written out. -/
def text (n : Numeral) : Text :=
  sign n.negative ++ n.whole ++ fractionText n.fraction ++ exponentText n.exponent

/-- The absolute value, exactly. -/
def decimal (n : Numeral) : Decimal where
  coefficient := ofDigits (n.whole ++ n.fraction.getD [])
  scale := n.exponent.getD 0 - (n.fraction.getD []).length

/-- The integer that is spelled without a point and without a power of ten. -/
def plainInteger? (n : Numeral) : Option Int :=
  if n.fraction.isNone && n.exponent.isNone then some (signedInteger n.negative n.whole) else none

end Numeral

end QueryOptions
