import QueryOptions.Form
import QueryOptions.Url.Domain
import QueryOptions.Url.Ipv4
import QueryOptions.Url.Ipv6

/-!
# Hosts

A host in brackets is an address of 128 bits.  In the schemes that everyone knows any other host
is a domain, percent-encoded or not, or an address of 32 bits; in all other schemes it may be
anything without the characters that would end it.
-/

namespace QueryOptions.Host

/-- What is between the brackets of a host that begins with one, if it ends with one. -/
def bracketed? (host : Text) : Option Text :=
  if host.getLast? = some ']' then some (host.drop 1).dropLast else none

/-- Whether a host in brackets is an address. -/
def isBracketedAddress (host : Text) : Bool :=
  match bracketed? host with
  | some inner => Ipv6.isAddress inner
  | none => false

/-- Whether a text is a domain, or an address if it looks like one. -/
def isDomain (host : Text) : Bool :=
  match (Utf8.decode (Form.percentBytes host)).toOption.bind Domain.normalize? with
  | none => false
  | some domain => !domain.isEmpty && (!Ipv4.endsInNumber domain || Ipv4.isAddress domain)

/-- Whether a text is a host in one of the well-known schemes. -/
def isSpecial (host : Text) : Bool :=
  if host.head? = some '[' then isBracketedAddress host else isDomain host

/-- The characters that a host of no well-known scheme may not hold. -/
def isForbidden (c : Char) : Bool :=
  c.toNat == 0 || "\t\n\r #/:<>?@[\\]^|".toList.contains c

/-- Whether a text is a host in any other scheme; it may be empty. -/
def isOpaque (host : Text) : Bool :=
  if host.head? = some '[' then isBracketedAddress host else !host.any isForbidden

end QueryOptions.Host
