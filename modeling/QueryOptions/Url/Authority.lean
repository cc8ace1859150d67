import QueryOptions.Url.Host

/-!
# What stands between the slashes and the path

After two slashes come a user, a host and the number of a service, as in `me@example.com:8080`.
Only the host must be there, and not even the host in a scheme that is not well known.  What is
asked here is whether a URL may go on like this.

The text given is what stands in front of the query and the fragment; `followed` tells whether
there is any of these.  It matters in one place: a bare `@` may be the end of the URL, but nothing
may follow it.
-/

namespace QueryOptions.Url

/-- The families of schemes that differ in what follows the colon. -/
inductive Family where
  /-- Well known, with a host that must be there. -/
  | hosted
  /-- Well known, with a host that may be missing. -/
  | file
  /-- Any other scheme. -/
  | other
  deriving DecidableEq

/-- The family of a scheme. -/
def Family.ofScheme (scheme : Text) : Family :=
  if scheme = "file".toList then .file
  else if ["http".toList, "https".toList, "ws".toList, "wss".toList, "ftp".toList].contains scheme
    then .hosted
  else .other

/-- Whether the scheme is a well-known one. -/
def Family.isSpecial : Family → Bool
  | .other => false
  | _ => true

/-- The characters that count as slashes in a family of schemes. -/
def isSlash (family : Family) (c : Char) : Bool := c == '/' || (family.isSpecial && c == '\\')

/-- Whether the text behind the colon of a host is a number of sixteen bits, which may be missing,
and only a path follows. -/
def isServiceNumber (t : Text) : Bool :=
  let digits := t.takeWhile Char.isDigit
  let rest := t.dropWhile Char.isDigit
  Nat.ofDigitChars 10 digits 0 < UInt16.size &&
    (match rest with
     | [] => true
     | c :: _ => c == '/' || c == '\\')

/-- The host at the front, up to the colon behind it or the path, and the rest.  A colon in brackets
is part of the host. -/
def splitHost (family : Family) (inBrackets : Bool) : Text → Text × Text
  | [] => ([], [])
  | c :: rest =>
    if (c == ':' && !inBrackets) || isSlash family c then ([], c :: rest)
    else
      let inBrackets := c == '[' || (inBrackets && c != ']')
      let (host, after) := splitHost family inBrackets rest
      (c :: host, after)

/-- Whether a host, with what follows it, is in order.  A host may be empty only in a scheme that
is not well known, and then there may be neither a colon nor a user. -/
def isHostAndNumber (family : Family) (hasUser : Bool) (t : Text) : Bool :=
  let (host, after) := splitHost family false t
  let number :=
    match after with
    | ':' :: number => some number
    | _ => none
  if host.isEmpty then !family.isSpecial && number.isNone && !hasUser
  else
    (if family.isSpecial then Host.isSpecial host else Host.isOpaque host) &&
      (number.map isServiceNumber).getD true

/-- The user in front of the last `@`, if there is an `@`, and what is behind it. -/
def splitUser (family : Family) (t : Text) : Option Text × Text :=
  let authority := t.takeWhile (!isSlash family ·)
  if authority.contains '@' then
    let user := (authority.reverse.dropWhile (· != '@')).drop 1 |>.reverse
    (some user, t.drop (user.length + 1))
  else (none, t)

/-- Whether a URL may go on with the text behind its slashes. -/
def isAuthority (family : Family) (followed : Bool) (t : Text) : Bool :=
  match splitUser family t with
  | (none, rest) => isHostAndNumber family false rest
  | (some [], rest) =>
    let endsHere :=
      match rest with
      | [] => followed
      | c :: _ => isSlash family c
    !endsHere && isHostAndNumber family false rest
  | (some user, rest) => isHostAndNumber family (user != [':']) rest

/-- Whether a text is the letter of a drive. -/
def isDrive : Text → Bool
  | [c, d] => c.isAlpha && (d == ':' || d == '|')
  | _ => false

/-- Whether a file URL may go on with the text behind its colon.  After two slashes there may be a
host. -/
def isFile : Text → Bool
  | a :: b :: rest =>
    if isSlash .file a && isSlash .file b then
      let host := rest.takeWhile (!isSlash .file ·)
      host.isEmpty || isDrive host || Host.isSpecial host
    else true
  | _ => true

end QueryOptions.Url
