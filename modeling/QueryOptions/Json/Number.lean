import QueryOptions.Json.Value
import QueryOptions.Number.Layout

/-!
# What a JSON number means

A number without a point and without a power of ten is an integer if it fits in 64 bits, with or
without a sign; negative zero is not an integer.

As a double a number is computed, and the result is not always the nearest double.  The digits are
gathered into a significand for as long as it fits in 64 bits; of the digits after that those in
front of the point count as zeros and those behind it do not count.  The significand is rounded to
a double and multiplied with or divided by a power of ten, which is rounded itself, and the result
is rounded once more.  A result beyond every double is refused.
-/

namespace QueryOptions.Json

/-- The integer that a number is, if it fits in 64 bits. -/
def integer? (n : Numeral) : Option Int := do
  let z ← n.plainInteger?
  if n.negative && z == 0 then none
  else if -Binary64.wordBound ≤ z ∧ z < UInt64.size then some z
  else none

/-- The significand after as many of the digits as it has room for, and the digits after these. -/
def gather (significand : Nat) : Text → Nat × Text
  | [] => (significand, [])
  | c :: rest =>
    let next := significand * 10 + (c.toNat - '0'.toNat)
    if next < UInt64.size then gather next rest else (significand, c :: rest)

/-- The significand and the power of ten that a number is computed from. -/
def parts (n : Numeral) : Nat × Int :=
  let fraction := n.fraction.getD []
  let (significand, zeros) := gather 0 n.whole
  let (significand, dropped) := gather significand fraction
  (significand, zeros.length - (fraction.length - dropped.length : Nat) + n.exponent.getD 0)

/-- The double nearest to a power of ten. -/
def powerOfTen (n : Nat) : Magnitude := .ofDecimal ⟨1, n⟩

/-- Divides by a power of ten, by 10³⁰⁸ at a time. -/
def divide (m : Magnitude) (n : Nat) : Magnitude :=
  if n ≤ 308 then m.div (powerOfTen n)
  else if m = .zero then m
  else divide (m.div (powerOfTen 308)) (n - 308)
termination_by n

/-- The double that a significand and a power of ten give, if it is finite. -/
def scaled? (significand : Nat) (exponent : Int) : Option Magnitude :=
  let m := Magnitude.nearest significand 1
  if exponent < 0 then some (divide m exponent.natAbs)
  else if exponent ≤ 308 then
    let product := m.mul (powerOfTen exponent.toNat)
    if product.isFinite then some product else none
  else if m = .zero then some m
  else none

/-- The double that a number is, if it is not refused. -/
def double? (n : Numeral) : Option Binary64 :=
  let (significand, exponent) := parts n
  (scaled? significand exponent).map (.signed n.negative)

/-- An integer as a JSON number. -/
def ofInt (n : Int) : Json := .number ⟨n < 0, Nat.toDigits 10 n.natAbs, none, none⟩

/-- A double as a JSON number; what is no finite number is null. -/
def ofBinary64 : Binary64 → Json
  | .nan => null
  | .signed negative m => if m.isFinite then .number (FloatLayout.json.numeral negative m) else null

end QueryOptions.Json
