import QueryOptions.Number.Layout
import QueryOptions.Operator

/-!
# Literals and the text of a literal

What a condition compares with is one literal, or a list of them.  The text of a literal is the
one that a query holds: strings stand in apostrophes and nothing in them is escaped, and null is a
pair of apostrophes with nothing between.
-/

namespace QueryOptions

/-- A typed constant. -/
inductive Literal where
  | integer (value : Int64)
  | float (value : Binary64)
  | boolean (value : Bool)
  | string (value : Text)
  | null
  deriving DecidableEq

namespace Literal

/-- The name of the literal's type. -/
def typeName : Literal → Text
  | integer _ => "integer".toList
  | float _ => "float".toList
  | boolean _ => "boolean".toList
  | string _ => "string".toList
  | null => "null".toList

/-- Whether the literal is null. -/
def isNull (l : Literal) : Bool := l == null

/-- The integer that the literal is. -/
def asInteger? : Literal → Option Int64
  | integer n => some n
  | _ => none

/-- The literal as a double: an integer counts as the double nearest to it. -/
def asFloat? : Literal → Option Binary64
  | integer n => some (.ofInt n.toInt)
  | float x => some x
  | _ => none

/-- The truth value that the literal is. -/
def asBoolean? : Literal → Option Bool
  | boolean b => some b
  | _ => none

/-- The string that the literal is. -/
def asString? : Literal → Option Text
  | string s => some s
  | _ => none

/-- The word for a truth value. -/
def booleanText (b : Bool) : Text := if b then "true".toList else "false".toList

/-- The literal as a query holds it. -/
def text : Literal → Text
  | integer n => Numeral.integerText n.toInt
  | float x => x.queryText
  | boolean b => booleanText b
  | string s => quoted s
  | null => quoted []

end Literal

/-- What a condition compares with. -/
inductive Operand where
  /-- One literal. -/
  | single (literal : Literal)
  /-- A list of literals, for membership. -/
  | list (literals : List Literal)
  deriving DecidableEq

/-- The operand as a query holds it: a list stands in parentheses, with commas between. -/
def Operand.text : Operand → Text
  | .single l => l.text
  | .list ls => '(' :: (Text.join ", ".toList (ls.map Literal.text) ++ [')'])

end QueryOptions
