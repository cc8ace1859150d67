import QueryOptions.Error
import QueryOptions.Text.Hex

/-!
# Form-encoded pairs

A query is a row of segments with `&` between them.  A segment holds a key and, after its first
`=`, a value; both are written in bytes, where `+` stands for a space and `%` with two hexadecimal
digits for any byte.  A `%` without two digits stands for itself.

Writing escapes more than reading needs: of ASCII only letters, digits and `* - . _` are written
as they are.  So what is written holds neither `&` nor `=` except where they separate.
-/

namespace QueryOptions.Form

/-! ## Components -/

/-- The bytes in which `%` escapes are resolved and every other character is itself. -/
def percentBytes : Text → List UInt8
  | [] => []
  | c :: rest =>
    if c = '%' then
      match rest with
      | h :: l :: tail =>
        match hexValue h, hexValue l with
        | some high, some low => UInt8.ofNat (high * 16 + low) :: percentBytes tail
        | _, _ => 0x25 :: percentBytes (h :: l :: tail)
      | short => 0x25 :: Utf8.encode short
    else Utf8.encodeChar c ++ percentBytes rest

/-- The component with every `+` read as a space. -/
def spaced (component : Text) : Text := component.map fun c => if c = '+' then ' ' else c

/-- The text that a key or a value spells. -/
def decode (component : Text) : Except QueryError Text :=
  (Utf8.decode (percentBytes (spaced component))).mapError (.undecodable component)

/-- A byte as `%` and two digits. -/
def escape (b : UInt8) : Text :=
  ['%', capitalHexDigit (b.toNat / 16), capitalHexDigit (b.toNat % 16)]

/-- Whether a byte is the code of a character that is written as it is. -/
def isPlain (b : UInt8) : Bool :=
  (0x30 ≤ b && b ≤ 0x39) || (0x41 ≤ b && b ≤ 0x5A) || (0x61 ≤ b && b ≤ 0x7A) ||
    b == 0x2A || b == 0x2D || b == 0x2E || b == 0x5F

/-- One byte of a component. -/
def encodeByte (b : UInt8) : Text :=
  if b == 0x20 then ['+'] else if isPlain b then [Char.ofNat b.toNat] else escape b

/-- The component that spells a text. -/
def encode (t : Text) : Text := (Utf8.encode t).flatMap encodeByte

/-! ## Rows of pairs -/

/-- Decoded keys with their values, in the order of the query. -/
abbrev Pairs := List (Text × Text)

/-- The segments of a query that are not empty. -/
def segments (query : Text) : List Text := (query.splitOn '&').filter (!·.isEmpty)

/-- The undecoded key of a segment: all of it, if there is no `=`. -/
def rawKey (segment : Text) : Text := segment.takeWhile (· != '=')

/-- The undecoded value of a segment: nothing, if there is no `=`. -/
def rawValue (segment : Text) : Text := (segment.dropWhile (· != '=')).drop 1

/-- Decodes the key of a segment, and then its value. -/
def decodeSegment (segment : Text) : Except QueryError (Text × Text) := do
  let key ← decode (rawKey segment)
  let value ← decode (rawValue segment)
  return (key, value)

/-- The pairs of a query.  The first component that spells no text is the error, whatever its
key. -/
def decodePairs (query : Text) : Except QueryError Pairs := (segments query).mapM decodeSegment

/-- The last value that is given for a key. -/
def Pairs.value? (pairs : Pairs) (key : Text) : Option Text :=
  ((pairs.filter (·.1 == key)).map Prod.snd).getLast?

/-- Each key once, with its last value, in ascending order of the keys. -/
def Pairs.table (pairs : Pairs) : Pairs :=
  let keys := (pairs.map Prod.fst).eraseDups
  let rows := keys.filterMap fun key => (pairs.value? key).map fun value => (key, value)
  rows.mergeSort fun a b => !Text.precedes b.1 a.1

/-- A key and its value as a segment. -/
def encodeSegment (pair : Text × Text) : Text := encode pair.1 ++ '=' :: encode pair.2

/-- The query that spells the pairs. -/
def encodePairs (pairs : Pairs) : Text := Text.join ['&'] (pairs.map encodeSegment)

end QueryOptions.Form
