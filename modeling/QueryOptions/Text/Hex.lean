import QueryOptions.Text.Basic

/-!
# Hexadecimal digits

Digits are read in either letter case.
-/

namespace QueryOptions

/-- The value of a hexadecimal digit. -/
def hexValue (c : Char) : Option Nat :=
  if '0' ≤ c ∧ c ≤ '9' then some (c.toNat - '0'.toNat)
  else if 'a' ≤ c ∧ c ≤ 'f' then some (c.toNat - 'a'.toNat + 10)
  else if 'A' ≤ c ∧ c ≤ 'F' then some (c.toNat - 'A'.toNat + 10)
  else none

/-- The digit of a number below sixteen, in a small letter from ten on. -/
def smallHexDigit (n : Nat) : Char := Nat.digitChar n

/-- The digit of a number below sixteen, in a capital letter from ten on. -/
def capitalHexDigit (n : Nat) : Char := (Nat.digitChar n).toUpper

/-- The number that a row of hexadecimal digits denotes, if all of them are digits. -/
def ofHexDigits? (digits : Text) : Option Nat :=
  digits.foldlM (fun n c => (hexValue c).map (n * 16 + ·)) 0

end QueryOptions
