import QueryOptions.Url.Domain.Bidi
import QueryOptions.Url.Domain.Joiner
import QueryOptions.Url.Domain.Mapping
import QueryOptions.Url.Domain.NormalForm
import QueryOptions.Url.Domain.Punycode

/-!
# Labels

A label stands for the characters that it is made of, or, if it begins with `xn--`, for the text
that the rest of it writes in ASCII.  Such a label must be needed: the text is not ASCII alone, and
it is in the form in which it would be if it stood in the domain itself.
-/

namespace QueryOptions.Domain

/-- The characters that no domain may hold. -/
def isForbidden (c : Char) : Bool :=
  c.toNat ≤ 0x20 || c.toNat == 0x7F || "%#/:<>?@[\\]^|".toList.contains c

namespace Label

/-- The most characters that a label outside ASCII may have. -/
def maxLength : Nat := 1000

/-- The most characters that may follow `xn--`. -/
def maxWritten : Nat := 2000

/-- Whether a text is as a label has it once capitals and the like are gone. -/
def isNormal (t : Text) : Bool :=
  map? t == some t && composed t == t && t.all fun c => c != '.' && !isForbidden c

/-- The characters that a label stands for. -/
def characters? (label : Text) : Option Text :=
  match label with
  | 'x' :: 'n' :: '-' :: '-' :: written =>
    if written.getLast? = none ∨ written.getLast? = some '-' ∨ maxWritten < written.length then none
    else (Punycode.decode? written).filter isNormal
  | _ =>
    if label.all (·.toNat < 128) || label.length ≤ maxLength then some label else none

/-- Whether the characters may stand together in a label. -/
def isWellFormed (t : Text) : Bool :=
  t.all (·.toNat < 128) || (!(t.head?.any isMark) && joinersFit [] t)

end Label

end QueryOptions.Domain
