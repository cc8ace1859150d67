import QueryOptions.Literal.Basic

/-!
# Reading a literal

Every text is some literal.  A numeral is an integer if it is one without loss and a double
otherwise; `true` and `false` are truth values; of anything else the apostrophes are taken out,
all of them, and what is left is a string, or null if nothing is left.

The numeral comes first, so a text that holds an apostrophe is never a number: quoting is how a
query says that `'42'` is a string.
-/

namespace QueryOptions

namespace Literal

/-- The literal that a numeral is.  Digits alone are taken exactly as long as the integer fits;
everything else goes through the nearest double, and a numeral beyond every double is no number. -/
def ofNumeral? (n : Numeral) : Option Literal :=
  match n.plainInteger?.filter Binary64.isWord with
  | some z => some (integer (Int64.ofInt z))
  | none =>
    let x := Binary64.ofNumeral n
    if x.isFinite then some ((x.toInt64?.map integer).getD (float x)) else none

/-- The number that a text is from end to end. -/
def number? (t : Text) : Option Literal := (Numeral.ofText? t).bind ofNumeral?

/-- The text without its apostrophes. -/
def unquoted (t : Text) : Text := t.filter (· != '\'')

/-- A string or null, by what is left between the apostrophes. -/
def ofUnquoted : Text → Literal
  | [] => null
  | s => string s

/-- The literal that a text without outer blanks is. -/
def ofTrimmed (t : Text) : Literal :=
  match number? t with
  | some l => l
  | none =>
    if t = "true".toList then boolean true
    else if t = "false".toList then boolean false
    else ofUnquoted (unquoted t)

/-- The literal that a text is. -/
def ofText (raw : Text) : Literal := ofTrimmed raw.trim

end Literal

namespace Operand

/-- The text without one opening parenthesis at its start. -/
def dropOpening : Text → Text
  | '(' :: rest => rest
  | t => t

/-- The text without one closing parenthesis at its end. -/
def dropClosing (t : Text) : Text :=
  if t.getLast? = some ')' then t.dropLast else t

/-- The pieces of a list: what lies between commas, once the blanks around the list and one
parenthesis on either side are gone.  There is always at least one piece. -/
def pieces (raw : Text) : List Text := (dropClosing (dropOpening raw.trim)).splitOn ','

/-- The literals of a list, one for each piece.  A list inside a list is not recognized. -/
def literals (raw : Text) : List Literal := (pieces raw).map Literal.ofText

/-- The operand that a text is for the given operator. -/
def ofText (operator : Operator) (raw : Text) : Operand :=
  if operator.takesList then .list (literals raw) else .single (.ofText raw)

end Operand

end QueryOptions
