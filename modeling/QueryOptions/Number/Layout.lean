import QueryOptions.Number.Shortest

/-!
# How a double is written

The digits of a double are settled by `Magnitude.shortest`; a `FloatLayout` settles the rest:
which numbers are written out with zeros and which with a power of ten, whether a whole number
keeps a point, and which of two equally near decimals is taken.  There are two layouts, that of
query texts and that of JSON texts.  Both write a minus sign in front of a negative zero.
-/

namespace QueryOptions

/-- The decisions that a format makes about doubles. -/
structure FloatLayout where
  /-- Whether a number is written without a power of ten, given the exponent of its first digit. -/
  positional : Int → Bool
  /-- Whether a whole number is written with a point and a zero behind it. -/
  keepsPoint : Bool
  /-- Which of two equally near decimals is taken. -/
  takeUpper : Magnitude.TieRule

namespace FloatLayout

/-- In a query every digit is written out, and a tie goes up. -/
def query : FloatLayout := ⟨fun _ => true, false, fun _ => true⟩

/-- In JSON a number below 10¹⁶ and not below 10⁻⁵ is written out, with a point even if it is
whole, and a tie goes to the even digit. -/
def json : FloatLayout := ⟨fun e => -5 ≤ e && e < 16, true, fun low => low % 2 == 1⟩

/-- A row of zeros. -/
def zeros (n : Int) : Text := List.replicate n.toNat '0'

/-- What is behind the point of a whole number. -/
def wholeFraction (layout : FloatLayout) : Option Text :=
  if layout.keepsPoint then some ['0'] else none

/-- The digits with the point behind the first `position` of them, and zeros where there are no
digits. -/
def writtenOut (layout : FloatLayout) (negative : Bool) (digits : Text) (position : Int) :
    Numeral :=
  if position ≤ 0 then ⟨negative, ['0'], some (zeros (-position) ++ digits), none⟩
  else if position < digits.length then
    ⟨negative, digits.take position.toNat, some (digits.drop position.toNat), none⟩
  else ⟨negative, digits ++ zeros (position - digits.length), layout.wholeFraction, none⟩

/-- One digit in front of the point, the others behind it, and a power of ten. -/
def scientific (negative : Bool) (digits : Text) (exponent : Int) : Numeral :=
  let others := digits.drop 1
  ⟨negative, digits.take 1, if others.isEmpty then none else some others, some exponent⟩

/-- The numeral for a finite magnitude with a sign. -/
def numeral (layout : FloatLayout) (negative : Bool) (m : Magnitude) : Numeral :=
  let d := m.shortest layout.takeUpper
  let digits := Nat.toDigits 10 d.coefficient
  let position := (digits.length : Int) + d.scale
  if m = .zero then ⟨negative, ['0'], layout.wholeFraction, none⟩
  else if layout.positional (position - 1) then layout.writtenOut negative digits position
  else scientific negative digits (position - 1)

end FloatLayout

/-- A double as it is written in a query. -/
def Binary64.queryText : Binary64 → Text
  | .nan => "NaN".toList
  | .signed negative m =>
    if m.isFinite then (FloatLayout.query.numeral negative m).text
    else Numeral.sign negative ++ "inf".toList

end QueryOptions
