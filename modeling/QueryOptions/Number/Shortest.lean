import QueryOptions.Number.Binary64

/-!
# The fewest digits that read back

A double is written with the fewest digits from which it can be read again, and of the decimals
with so few digits with the one nearest to it.  Between two that are equally near the format that
is written decides.

A magnitude is a decimal number with finitely many digits, `Magnitude.exact`.  Cutting it after
its first `n` digits gives one neighbour on the grid of `n`-digit numbers, the next grid point the
other; if any grid point reads back, one of the two does.  Reading back is tried by reading, with
the reader that every literal goes through.
-/

namespace QueryOptions

namespace Magnitude

/-- The magnitude as a decimal, digit for digit. -/
def exact (m : Magnitude) : Decimal := ⟨m.units * Nat.pow 5 unitExponent, -unitExponent⟩

end Magnitude

namespace Decimal

/-- The decimal without the zeros at the end of its coefficient. -/
def normalize (d : Decimal) : Decimal :=
  let digits := (Nat.toDigits 10 d.coefficient).reverse
  let zeros := (digits.takeWhile (· == '0')).length
  if d.coefficient = 0 then ⟨0, 0⟩ else ⟨d.coefficient / Nat.pow 10 zeros, d.scale + zeros⟩

end Decimal

namespace Magnitude

/-- Which of two equally near neighbours to write: given the coefficient of the smaller one, tells
whether the larger one is taken. -/
abbrev TieRule := Nat → Bool

/-- The nearest decimal that reads back among those that keep all but the last `cut` digits of
`all`, which is the magnitude digit for digit. -/
def withoutLast? (takeUpper : TieRule) (m : Magnitude) (all : Decimal) (cut : Nat) :
    Option Decimal :=
  let unit := Nat.pow 10 cut
  let low := all.coefficient / unit
  let lower := Decimal.normalize ⟨low, all.scale + cut⟩
  let upper := Decimal.normalize ⟨low + 1, all.scale + cut⟩
  let upperIsNearer :=
    match compare (2 * all.coefficient) ((2 * low + 1) * unit) with
    | .lt => false
    | .gt => true
    | .eq => takeUpper low
  match decide (ofDecimal lower = m), decide (ofDecimal upper = m) with
  | true, true => some (if upperIsNearer then upper else lower)
  | true, false => some lower
  | false, true => some upper
  | false, false => none

/-- The nearest of the shortest decimals that read back.  Seventeen digits always suffice. -/
def shortest (takeUpper : TieRule) (m : Magnitude) : Decimal :=
  let all := m.exact
  let length := (Nat.toDigits 10 all.coefficient).length
  let tried := (List.range' 1 17).findSome? fun n => withoutLast? takeUpper m all (length - n)
  tried.getD all.normalize

end Magnitude

end QueryOptions
