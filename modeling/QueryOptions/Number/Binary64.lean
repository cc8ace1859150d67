import QueryOptions.Number.Numeral

/-!
# Double-precision numbers

A literal that is no integer is the double nearest to what is written, ties to even, as IEEE 754
has it.  The numbers here are the values themselves rather than a machine type: a sign and a
magnitude, or no number at all.

Magnitudes are numbered: code 0 is zero, code 1 the least positive double, and so on upward in the
order of their values, up to the code of infinity.  In units of the least positive double every
magnitude is a whole number, `Magnitude.units`, which is strictly increasing in the code; so
rounding is a search between two neighbouring codes by exact comparison of whole numbers.  An even
code has an even significand, and infinity carries the number that would follow the largest
double; with these two facts ties to even and overflow need no cases of their own.
-/

namespace QueryOptions

/-- The number of codes in a binade, 2⁵². -/
def binade : Nat := Nat.pow 2 52

/-- The code of infinity: 2046 binades, and as many codes again below the first. -/
def infinityCode : Nat := 2047 * binade

/-- The absolute value of a double, infinity included. -/
structure Magnitude where
  /-- The position in ascending order. -/
  code : Nat
  code_le : code ≤ infinityCode
  deriving DecidableEq

namespace Magnitude

/-- Zero. -/
def zero : Magnitude := ⟨0, Nat.zero_le _⟩

/-- Infinity. -/
def infinity : Magnitude := ⟨infinityCode, Nat.le_refl _⟩

/-- The magnitude with the given code, or infinity when there is none. -/
def ofCode (code : Nat) : Magnitude := ⟨min code infinityCode, Nat.min_le_right _ _⟩

/-- The number of the least positive double, 2 to the power of this, negated. -/
def unitExponent : Nat := 1074

/-- The number of units in one. -/
def unitsOfOne : Nat := Nat.pow 2 unitExponent

/-- The value that belongs to a code, in units of the least positive double.  In the first two
binades the values are a unit apart, and from there on the distance doubles with every binade. -/
def unitsOfCode (code : Nat) : Nat :=
  if code < binade then code else (binade + code % binade) * Nat.pow 2 (code / binade - 1)

/-- The value in units of the least positive double. -/
def units (m : Magnitude) : Nat := unitsOfCode m.code

/-- The greatest code whose value is not above `units`: the 53 leading binary digits are kept. -/
def codeBelow (units : Nat) : Nat :=
  let shift := units.log2 - 52
  shift * binade + units / Nat.pow 2 shift

/-- The one of the neighbours `low` and `low + 1` that is nearer to a value, given how the value
compares with their middle; in the middle, the one with the even code. -/
def ofNeighbours (low : Nat) : Ordering → Magnitude
  | .lt => ofCode low
  | .gt => ofCode (low + 1)
  | .eq => ofCode (low + low % 2)

/-- The magnitude nearest to `scaled / den` units. -/
def nearestUnits (scaled den : Nat) : Magnitude :=
  let low := codeBelow (scaled / den)
  let middle := (unitsOfCode low + unitsOfCode (low + 1)) * den
  ofNeighbours low (compare (2 * scaled) middle)

/-- The magnitude nearest to `num / den`. -/
def nearest (num den : Nat) : Magnitude := nearestUnits (num * unitsOfOne) den

/-- The magnitude nearest to a decimal number.  A number with more than 310 digits in front of the
point is beyond every double, and one with more than 330 zeros behind the point is nearest to zero,
so no power of ten need be formed for these. -/
def ofDecimal (d : Decimal) : Magnitude :=
  let position := ((Nat.toDigits 10 d.coefficient).length : Int) + d.scale
  if d.coefficient = 0 ∨ position < -330 then zero
  else if 310 < position then infinity
  else if 0 ≤ d.scale then nearest (d.coefficient * Nat.pow 10 d.scale.toNat) 1
  else nearest d.coefficient (Nat.pow 10 (-d.scale).toNat)

/-- Whether the magnitude is a number. -/
def isFinite (m : Magnitude) : Bool := m.code < infinityCode

/-- The magnitude as a whole number, if it is one. -/
def whole? (m : Magnitude) : Option Nat :=
  if m.isFinite && m.units % unitsOfOne == 0 then some (m.units / unitsOfOne) else none

/-- The rounded product. -/
def mul (a b : Magnitude) : Magnitude := nearest (a.units * b.units) (unitsOfOne * unitsOfOne)

/-- The rounded quotient. -/
def div (a b : Magnitude) : Magnitude := nearest a.units b.units

end Magnitude

/-- A double. -/
inductive Binary64 where
  /-- No number. -/
  | nan
  /-- A finite number or an infinity; zero has two signs. -/
  | signed (negative : Bool) (magnitude : Magnitude)
  deriving DecidableEq

namespace Binary64

/-- Whether the double is a number other than an infinity. -/
def isFinite : Binary64 → Bool
  | nan => false
  | signed _ m => m.isFinite

/-- The double nearest to an integer. -/
def ofInt (n : Int) : Binary64 := signed (n < 0) (Magnitude.nearest n.natAbs 1)

/-- The double nearest to a numeral, which may be an infinity. -/
def ofNumeral (n : Numeral) : Binary64 := signed n.negative (Magnitude.ofDecimal n.decimal)

/-- The least integer that is too great for an integer literal, 2⁶³. -/
def wordBound : Int := 9223372036854775808

/-- Whether an integer is one of the 2⁶⁴ that an integer literal can hold. -/
def isWord (n : Int) : Bool := -wordBound ≤ n && n < wordBound

/-- The double as an integer that an integer literal can hold, if it is one. -/
def toInt64? : Binary64 → Option Int64
  | nan => none
  | signed negative m =>
    match m.whole? with
    | none => none
    | some n =>
      let z : Int := if negative then -(n : Int) else n
      if isWord z then some (Int64.ofInt z) else none

/-- The double that a text names: a numeral, an infinity, or no number.  The names may be written
in any case. -/
def ofText? (t : Text) : Option Binary64 :=
  match Numeral.ofText? t with
  | some n => some (ofNumeral n)
  | none =>
    let (negative, name) := Numeral.splitSign t
    let name := name.map Char.toLower
    if name = "nan".toList then some nan
    else if name = "inf".toList ∨ name = "infinity".toList then
      some (signed negative Magnitude.infinity)
    else none

end Binary64

end QueryOptions
