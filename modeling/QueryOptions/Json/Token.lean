import QueryOptions.Json.Value

/-!
# JSON tokens

A JSON text falls into tokens, with blanks between them that do not count.  Which tokens may
follow which is not decided here; so `01` is two numbers, and the reader of values refuses it.
-/

namespace QueryOptions.Json

/-- The least part of a JSON text that means something. -/
inductive Token where
  | openArray
  | closeArray
  | openObject
  | closeObject
  | comma
  | colon
  | null
  | boolean (value : Bool)
  | number (value : Numeral)
  | string (value : Option Text)
  deriving DecidableEq

/-- The four characters that may stand between tokens. -/
def isSpace (c : Char) : Bool := c == ' ' || c == '\n' || c == '\t' || c == '\r'

/-! ## Strings -/

/-- A piece of a string: a character, or the sixteen bits that an escape names. -/
inductive Piece where
  | character (c : Char)
  | unit (n : Nat)

/-- The character that a letter after a backslash names. -/
def unescape : Char → Option Char
  | '"' => some '"'
  | '\\' => some '\\'
  | '/' => some '/'
  | 'b' => some (Char.ofNat 8)
  | 'f' => some (Char.ofNat 12)
  | 'n' => some '\n'
  | 'r' => some '\r'
  | 't' => some '\t'
  | _ => none

/-- The pieces of a string up to its closing quotation mark, and what follows the mark. -/
def pieces : Text → Option (List Piece × Text)
  | [] => none
  | '"' :: rest => some ([], rest)
  | '\\' :: 'u' :: a :: b :: c :: d :: rest => do
    let n ← ofHexDigits? [a, b, c, d]
    let (ps, rest) ← pieces rest
    return (.unit n :: ps, rest)
  | '\\' :: c :: rest => do
    let c ← unescape c
    let (ps, rest) ← pieces rest
    return (.character c :: ps, rest)
  | c :: rest => do
    if c.toNat < 0x20 then none
    let (ps, rest) ← pieces rest
    return (.character c :: ps, rest)

/-- Whether sixteen bits are the first half of a surrogate pair. -/
def isHighHalf (n : Nat) : Bool := 0xD800 ≤ n && n < 0xDC00

/-- Whether sixteen bits are the second half of a surrogate pair. -/
def isLowHalf (n : Nat) : Bool := 0xDC00 ≤ n && n < 0xE000

/-- The text that pieces make, unless half of a surrogate pair is on its own. -/
def assemble : List Piece → Option Text
  | [] => some []
  | .character c :: ps => (assemble ps).map (c :: ·)
  | .unit n :: ps =>
    if isHighHalf n then
      match ps with
      | .unit m :: ps =>
        if isLowHalf m then
          (assemble ps).map (Char.ofNat (0x10000 + (n - 0xD800) * 0x400 + (m - 0xDC00)) :: ·)
        else none
      | _ => none
    else if isLowHalf n then none
    else (assemble ps).map (Char.ofNat n :: ·)

/-! ## Numbers -/

/-- The whole part of a number, which has no zero in front of other digits. -/
def wholePart : Text → Option (Text × Text)
  | '0' :: rest => some (['0'], rest)
  | rest =>
    let (digits, rest) := Numeral.splitDigits rest
    if digits.isEmpty then none else some (digits, rest)

/-- The point and the digits behind it, of which there is at least one. -/
def fractionPart : Text → Option (Option Text × Text)
  | '.' :: rest =>
    let (digits, rest) := Numeral.splitDigits rest
    if digits.isEmpty then none else some (some digits, rest)
  | rest => some (none, rest)

/-- The power of ten, which has at least one digit. -/
def exponentPart : Text → Option (Option Int × Text)
  | [] => some (none, [])
  | c :: rest =>
    if c = 'e' ∨ c = 'E' then
      let (negative, rest) := Numeral.splitSign rest
      let (digits, rest) := Numeral.splitDigits rest
      if digits.isEmpty then none else some (some (Numeral.signedInteger negative digits), rest)
    else some (none, c :: rest)

/-- The number at the front, and what follows it. -/
def number? (t : Text) : Option (Numeral × Text) := do
  let (negative, rest) := if t.head? = some '-' then (true, t.drop 1) else (false, t)
  let (whole, rest) ← wholePart rest
  let (fraction, rest) ← fractionPart rest
  let (exponent, rest) ← exponentPart rest
  return (⟨negative, whole, fraction, exponent⟩, rest)

/-! ## Tokens -/

/-- The token at the front of a text that begins with no space, and what follows it. -/
def token? (t : Text) : Option (Token × Text) :=
  match t with
  | '[' :: rest => some (.openArray, rest)
  | ']' :: rest => some (.closeArray, rest)
  | '\x7b' :: rest => some (.openObject, rest)
  | '\x7d' :: rest => some (.closeObject, rest)
  | ',' :: rest => some (.comma, rest)
  | ':' :: rest => some (.colon, rest)
  | '"' :: rest => (pieces rest).map fun (ps, rest) => (.string (assemble ps), rest)
  | 'n' :: 'u' :: 'l' :: 'l' :: rest => some (.null, rest)
  | 't' :: 'r' :: 'u' :: 'e' :: rest => some (.boolean true, rest)
  | 'f' :: 'a' :: 'l' :: 's' :: 'e' :: rest => some (.boolean false, rest)
  | t => (number? t).map fun (n, rest) => (.number n, rest)

/-- The tokens of a text, read with at most `fuel` steps. -/
def tokensWithin : Nat → Text → Option (List Token)
  | 0, _ => none
  | _ + 1, [] => some []
  | fuel + 1, c :: rest =>
    if isSpace c then tokensWithin fuel rest
    else do
      let (token, rest) ← token? (c :: rest)
      let tokens ← tokensWithin fuel rest
      return token :: tokens

/-- The tokens of a text, unless some part of it is none.  A step takes a character at least, so
there are steps enough. -/
def tokens? (t : Text) : Option (List Token) := tokensWithin (t.length + 1) t

end QueryOptions.Json
