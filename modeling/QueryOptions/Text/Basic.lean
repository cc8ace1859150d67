/-!
# Texts, blanks, and the two ways a text falls into parts

A query option is read in the same few motions whatever it says: the blanks at its two ends do
not count, a list falls apart at a separator, a clause falls apart at its blanks.  All three use
one notion of a blank character, `isBlank`, and this is what makes the readers agree: a part that
`items` has trimmed begins with a word that `words` finds.

A text is a list of characters, so that every reader is a recursion on it.
-/

namespace QueryOptions

/-- A text: its characters in order. -/
abbrev Text := List Char

/-- The characters that separate words: the whitespace of the Unicode standard.  The zero-width
space, the byte-order mark and the four information separators are not among them. -/
def isBlank (c : Char) : Bool :=
  let n := c.toNat
  (9 ≤ n && n ≤ 13) || n == 0x20 || n == 0x85 || n == 0xA0 || n == 0x1680 ||
    (0x2000 ≤ n && n ≤ 0x200A) || n == 0x2028 || n == 0x2029 || n == 0x202F || n == 0x205F ||
    n == 0x3000

namespace Text

/-- Without the blanks at the start. -/
def trimStart (t : Text) : Text := t.dropWhile isBlank

/-- Without the blanks at the end. -/
def trimEnd (t : Text) : Text := (t.reverse.dropWhile isBlank).reverse

/-- Without the blanks at either end. -/
def trim (t : Text) : Text := trimEnd (trimStart t)

/-- The maximal runs of characters that are not blank. -/
def words (t : Text) : List Text := (t.splitOnP isBlank).filter (!·.isEmpty)

/-- The parts that are left of `parts` once each is trimmed and the blank ones are dropped. -/
def trimAll (parts : List Text) : List Text := (parts.map trim).filter (!·.isEmpty)

/-- The parts of a separated list, trimmed, without the blank ones. -/
def items (separator : Char) (t : Text) : List Text := trimAll (t.splitOn separator)

/-- The parts written one after the other with `separator` between them. -/
def join (separator : Text) (parts : List Text) : Text := separator.intercalate parts

/-- Whether a text comes before another: its character is the lesser one where they first differ, or
it is a proper beginning of the other. -/
def precedes (a b : Text) : Bool := List.lex a b fun c d => c.toNat < d.toNat

/-- The text with its ASCII capitals made small. -/
def lower (t : Text) : Text := t.map Char.toLower

end Text

end QueryOptions
