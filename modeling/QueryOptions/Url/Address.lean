import QueryOptions.Url.Authority

/-!
# URLs and their queries

Of a URL only the query is wanted, but a text that is no URL is refused.  A URL begins with a
scheme and a colon; blanks and control characters around it, and tabs and line ends anywhere, do
not count.  The query is what stands between the first `?` and the fragment, whatever that is.

The query is handed on the way the standard normalizes it: characters beyond ASCII, and some within
it, are percent-encoded.  An escape that is there already stays as it is, so decoding the normalized
query and decoding the query as written give the same.
-/

namespace QueryOptions.Url

/-- Whether a character is dropped at the ends of a URL. -/
def isOuter (c : Char) : Bool := c.toNat ≤ 0x20

/-- Whether a character is dropped anywhere in a URL. -/
def isSkipped (c : Char) : Bool := c == '\t' || c == '\n' || c == '\r'

/-- The URL without the characters that do not count. -/
def clean (t : Text) : Text :=
  (((t.dropWhile isOuter).reverse.dropWhile isOuter).reverse).filter (!isSkipped ·)

/-- Whether a character can stand in a scheme. -/
def isSchemeChar (c : Char) : Bool := c.isAlphanum || c == '+' || c == '-' || c == '.'

/-- The scheme, in small letters, and what follows its colon. -/
def splitScheme? (t : Text) : Option (Text × Text) :=
  let scheme := t.takeWhile isSchemeChar
  match scheme, t.dropWhile isSchemeChar with
  | first :: _, ':' :: rest => if first.isAlpha then some (scheme.map Char.toLower, rest) else none
  | _, _ => none

/-- Whether a character ends the part of a URL in front of the query. -/
def endsBody (c : Char) : Bool := c == '?' || c == '#'

/-- What stands in front of the query and the fragment. -/
def body (t : Text) : Text := t.takeWhile (!endsBody ·)

/-- The query as it is written, if there is one. -/
def rawQuery? (t : Text) : Option Text :=
  match t.dropWhile (!endsBody ·) with
  | '?' :: rest => some (rest.takeWhile (· != '#'))
  | _ => none

/-- Whether a URL of the family may have the given text behind its colon and in front of its
query. -/
def isBody (family : Family) (followed : Bool) (t : Text) : Bool :=
  match family with
  | .hosted => isAuthority .hosted followed (t.dropWhile (isSlash .hosted))
  | .file => isFile t
  | .other =>
    match t with
    | '/' :: '/' :: rest => isAuthority .other followed rest
    | _ => true

/-- Whether a character of a query is percent-encoded. -/
def isEncoded (family : Family) (c : Char) : Bool :=
  c.toNat ≤ 0x20 || 0x7F ≤ c.toNat || c == '"' || c == '#' || c == '<' || c == '>' ||
    (family.isSpecial && c == '\'')

/-- The query as the standard normalizes it. -/
def normalizeQuery (family : Family) (t : Text) : Text :=
  t.flatMap fun c => if isEncoded family c then (Utf8.encodeChar c).flatMap Form.escape else [c]

/-- The query of a URL without the characters that do not count, or nothing if there is no query;
`none` if the text is no URL. -/
def cleanQuery? (t : Text) : Option (Option Text) :=
  match splitScheme? t with
  | none => none
  | some (scheme, rest) =>
    let family := Family.ofScheme scheme
    let front := body rest
    if isBody family (front.length < rest.length) front then
      some ((rawQuery? rest).map (normalizeQuery family))
    else none

/-- The query of a URL, or nothing if it has none.  A text that is no URL is the error. -/
def query (address : Text) : Except QueryError (Option Text) :=
  match cleanQuery? (clean address) with
  | some q => .ok q
  | none => .error (.notUrl address)

end QueryOptions.Url
