import QueryOptions.Number.Numeral
import QueryOptions.Text.Hex

/-!
# JSON values and their text

A JSON value is kept as it is written: numbers as numerals, objects as rows of fields that may
repeat a name.  What a number or a repeated field means is for those who read the value to say.

A string may name half of a surrogate pair in an escape, and then it is no text; such a string has
no characters here, and is refused only where someone asks for them.

A value is written in one of two layouts, on one line without blanks or over many lines.
-/

namespace QueryOptions

/-- A JSON value. -/
inductive Json where
  | null
  | boolean (value : Bool)
  | number (value : Numeral)
  /-- A string, unless its escapes spell no text. -/
  | string (value : Option Text)
  | array (items : List Json)
  | object (fields : List (Option Text × Json))

namespace Json

/-! ## Strings -/

/-- A character between quotation marks: the two marks with a meaning and the control characters
below the space are escaped, and nothing else is. -/
def escape (c : Char) : Text :=
  if c = '"' then "\\\"".toList
  else if c = '\\' then "\\\\".toList
  else if c = '\n' then "\\n".toList
  else if c = '\r' then "\\r".toList
  else if c = '\t' then "\\t".toList
  else if c.toNat = 8 then "\\b".toList
  else if c.toNat = 12 then "\\f".toList
  else if c.toNat < 0x20 then
    "\\u00".toList ++ [smallHexDigit (c.toNat / 16), smallHexDigit (c.toNat % 16)]
  else [c]

/-- A text between quotation marks. -/
def stringText (t : Text) : Text := '"' :: (t.flatMap escape ++ ['"'])

/-! ## Values -/

/-- Where a value is written. -/
inductive Layout where
  /-- On one line without blanks. -/
  | compact
  /-- Over many lines, two more blanks at the start of a line for each open bracket. -/
  | pretty

/-- What stands in front of an item that is inside `depth` brackets. -/
def Layout.lineStart (layout : Layout) (depth : Nat) : Text :=
  match layout with
  | .compact => []
  | .pretty => '\n' :: List.replicate (2 * depth) ' '

/-- What stands between a name and its value. -/
def Layout.colon : Layout → Text
  | .compact => [':']
  | .pretty => [':', ' ']

mutual

/-- A value that stands inside `depth` brackets. -/
def write (layout : Layout) (depth : Nat) : Json → Text
  | null => "null".toList
  | boolean b => if b then "true".toList else "false".toList
  | number n => n.text
  | string s => stringText (s.getD [])
  | array [] => ['[', ']']
  | array (item :: items) =>
    '[' :: (layout.lineStart (depth + 1) ++ write layout (depth + 1) item ++
      writeItems layout (depth + 1) items ++ layout.lineStart depth ++ [']'])
  | object [] => ['{', '}']
  | object ((name, value) :: fields) =>
    '{' :: (layout.lineStart (depth + 1) ++ stringText (name.getD []) ++ layout.colon ++
      write layout (depth + 1) value ++ writeFields layout (depth + 1) fields ++
      layout.lineStart depth ++ ['}'])

/-- The items of an array after the first. -/
def writeItems (layout : Layout) (depth : Nat) : List Json → Text
  | [] => []
  | item :: items =>
    ',' :: (layout.lineStart depth ++ write layout depth item ++ writeItems layout depth items)

/-- The fields of an object after the first. -/
def writeFields (layout : Layout) (depth : Nat) : List (Option Text × Json) → Text
  | [] => []
  | (name, value) :: fields =>
    ',' :: (layout.lineStart depth ++ stringText (name.getD []) ++ layout.colon ++
      write layout depth value ++ writeFields layout depth fields)

end

/-- The text of a value. -/
def text (layout : Layout) (v : Json) : Text := v.write layout 0

end Json

end QueryOptions
