import QueryOptions.Text.Hex

/-!
# Tables of characters

Most of what a domain may hold is settled character by character, in tables that run over the
whole repertoire.  A table is written as words of hexadecimal numbers, and there are two kinds:

```text
a set of characters     5D0-5EA 7FA              all of the first span, and one more
a table of texts        C0>41.300,41.301         C0 has the text 41 300, C1 the text 41 301
```

What the tables of a module are for stands in that module; here is how they are read and asked.
A word that is not written like this counts for nothing.
-/

namespace QueryOptions.Domain

/-- Consecutive characters, by the numbers of the first and the last. -/
structure Span where
  first : Nat
  last : Nat

/-- Whether a character is one of the span. -/
def Span.contains (s : Span) (c : Char) : Bool := s.first ≤ c.toNat && c.toNat ≤ s.last

/-- The span that a word writes: two numbers with a hyphen, or one. -/
def Span.read? (word : Text) : Option Span :=
  match word.splitOn '-' with
  | [a] => (ofHexDigits? a).map fun n => ⟨n, n⟩
  | [a, b] => (ofHexDigits? a).bind fun first => (ofHexDigits? b).map fun last => ⟨first, last⟩
  | _ => none

/-- A set of characters, as spans. -/
structure CharSet where
  spans : List Span

/-- Whether a character is in the set. -/
def CharSet.contains (s : CharSet) (c : Char) : Bool := s.spans.any (·.contains c)

/-- The set that the words write. -/
def CharSet.ofWords (words : String) : CharSet :=
  ⟨(Text.words words.toList).filterMap Span.read?⟩

/-- Texts that belong to consecutive characters, and the number of the first of these. -/
structure Listing where
  first : Nat
  texts : List Text

/-- The text of a character. -/
def Listing.text? (l : Listing) (c : Char) : Option Text :=
  if l.first ≤ c.toNat then l.texts[c.toNat - l.first]? else none

/-- The character that has a text. -/
def Listing.char? (l : Listing) (t : Text) : Option Char :=
  (l.texts.idxOf? t).map fun i => Char.ofNat (l.first + i)

/-- The text that numbers with points between them write. -/
def readText? (t : Text) : Option Text :=
  (t.splitOn '.').mapM fun number => (ofHexDigits? number).map Char.ofNat

/-- The listing that a word writes. -/
def Listing.read? (word : Text) : Option Listing :=
  match word.splitOn '>' with
  | [first, texts] =>
    (ofHexDigits? first).bind fun first =>
      ((texts.splitOn ',').mapM readText?).map fun texts => ⟨first, texts⟩
  | _ => none

/-- The listings that the words write. -/
def Listing.ofWords (words : String) : List Listing :=
  (Text.words words.toList).filterMap Listing.read?

end QueryOptions.Domain
