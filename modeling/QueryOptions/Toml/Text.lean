import QueryOptions.Text.Collect
import QueryOptions.Text.Hex

/-!
# Blanks, comments and strings in TOML

Only the space and the tab are blank within a line.  A line ends in a line feed, with or without a
carriage return before it.  Control characters other than the tab may stand neither in a comment
nor in a string.

There are four kinds of string: with or without escapes, on one line or over many.  Each of the
readers is given the text behind the opening mark, and gives the characters of the string and the
text behind the closing mark.
-/

namespace QueryOptions.Toml

/-! ## Blanks and comments -/

/-- Whether a character is blank within a line. -/
def isBlank (c : Char) : Bool := c == ' ' || c == '\t'

/-- The text behind the blanks at its front. -/
def skipBlanks (t : Text) : Text := t.dropWhile isBlank

/-- Whether a character may stand in a comment or in a string. -/
def isPrintable (c : Char) : Bool := c == '\t' || (0x20 ≤ c.toNat && c.toNat != 0x7F)

/-- What follows the end of a line at the front. -/
def newline? : Text → Option Text
  | '\n' :: rest => some rest
  | '\r' :: '\n' :: rest => some rest
  | _ => none

/-- What follows a comment at the front, if there is one. -/
def skipComment : Text → Text
  | '#' :: rest => rest.dropWhile isPrintable
  | t => t

/-- What follows the rest of a line on which there is nothing more but a comment. -/
def lineEnd? (t : Text) : Option Text :=
  match skipComment (skipBlanks t) with
  | [] => some []
  | t => newline? t

/-- What follows blanks, comments and ends of lines. -/
def skipLines? (t : Text) : Option Text :=
  let step (t : Text) : Option (Progress Unit) :=
    let rest := skipComment (skipBlanks t)
    match newline? rest with
    | some rest => some (.go [] rest)
    | none => if rest.length < (skipBlanks t).length then none else some (.stop [] rest)
  (collect step t).map Prod.snd

/-! ## Strings -/

/-- The character with the number that `n` hexadecimal digits denote. -/
def codePoint? (n : Nat) (t : Text) : Option (Char × Text) := do
  let digits := t.take n
  let value ← ofHexDigits? digits
  if digits.length = n ∧ value.isValidChar then some (Char.ofNat value, t.drop n) else none

/-- The character that is named behind a backslash. -/
def escape? : Text → Option (Char × Text)
  | 'b' :: rest => some (Char.ofNat 8, rest)
  | 't' :: rest => some ('\t', rest)
  | 'n' :: rest => some ('\n', rest)
  | 'f' :: rest => some (Char.ofNat 12, rest)
  | 'r' :: rest => some ('\r', rest)
  | '"' :: rest => some ('"', rest)
  | '\\' :: rest => some ('\\', rest)
  | 'u' :: rest => codePoint? 4 rest
  | 'U' :: rest => codePoint? 8 rest
  | _ => none

/-- One character of a string. -/
def character? (escapes : Bool) : Text → Option (Progress Char)
  | [] => none
  | c :: rest =>
    if escapes && c == '\\' then (escape? rest).map fun (c, rest) => .go [c] rest
    else if isPrintable c then some (.go [c] rest)
    else none

/-- A string on one line. -/
def lineString? (mark : Char) (escapes : Bool) : Text → Option (Text × Text) :=
  collect fun t =>
    match t with
    | [] => none
    | c :: rest => if c = mark then some (.stop [] rest) else character? escapes (c :: rest)

/-- What follows a backslash at the end of a line: the blanks and line ends after it do not
count. -/
def continued? : Text → Option Text
  | '\\' :: rest =>
    (newline? (skipBlanks rest)).map (·.dropWhile fun c => isBlank c || c == '\n' || c == '\r')
  | _ => none

/-- One step of a string over many lines.  Three marks end it, and one or two in front of these
belong to it. -/
def manyLinesStep (mark : Char) (escapes : Bool) (t : Text) : Option (Progress Char) :=
  let marks := (t.takeWhile (· == mark)).length
  if 3 ≤ marks then
    some (.stop (List.replicate (min marks 5 - 3) mark) (t.drop (min marks 5)))
  else if 0 < marks then some (.go (List.replicate marks mark) (t.drop marks))
  else
    match newline? t with
    | some rest => some (.go ['\n'] rest)
    | none =>
      match if escapes then continued? t else none with
      | some rest => some (.go [] rest)
      | none => character? escapes t

/-- A string over many lines; a line end right behind the opening marks does not count. -/
def manyLinesString? (mark : Char) (escapes : Bool) (t : Text) : Option (Text × Text) :=
  collect (manyLinesStep mark escapes) ((newline? t).getD t)

/-- A string of any kind. -/
def string? : Text → Option (Text × Text)
  | '"' :: '"' :: '"' :: rest => manyLinesString? '"' true rest
  | '"' :: rest => lineString? '"' true rest
  | '\'' :: '\'' :: '\'' :: rest => manyLinesString? '\'' false rest
  | '\'' :: rest => lineString? '\'' false rest
  | _ => none

/-! ## Keys -/

/-- Whether a character may stand in a key without marks. -/
def isKeyChar (c : Char) : Bool := c.isAlphanum || c == '_' || c == '-'

/-- One part of a key. -/
def keyPart? (t : Text) : Option (Text × Text) :=
  match t with
  | '"' :: rest => lineString? '"' true rest
  | '\'' :: rest => lineString? '\'' false rest
  | t =>
    let part := t.takeWhile isKeyChar
    if part.isEmpty then none else some (part, t.dropWhile isKeyChar)

/-- The number of parts from which on a key is refused, and of brackets from which on a value is. -/
def depthLimit : Nat := 80

/-- A key, its parts with points between, and what follows the blanks behind it. -/
def key? (t : Text) : Option (List Text × Text) := do
  let step (t : Text) : Option (Progress Text) := do
    let (part, rest) ← keyPart? (skipBlanks t)
    match skipBlanks rest with
    | '.' :: rest => return .go [part] rest
    | rest => return .stop [part] rest
  let (parts, rest) ← collect step t
  if parts.length < depthLimit then some (parts, rest) else none

end QueryOptions.Toml
