import QueryOptions.Error
import QueryOptions.Number.Numeral

/-!
# Limits and flags

The count, top and skip options carry one word.  A blank value says nothing, just as a missing
one does, and this is told apart from the values zero and false.

A limit is an integer in decimal digits with an optional sign.  An integer that is negative or
that takes more than 64 bits is refused with another error than a text that is no integer.
-/

namespace QueryOptions.Scalar

/-- The text of an option that is given and not blank, without its outer blanks. -/
def given? (raw : Option Text) : Option Text := (raw.map Text.trim).filter (!·.isEmpty)

/-- The limit that an integer is, if it is one. -/
def limitOfInt? (n : Int) : Option UInt64 :=
  if 0 ≤ n ∧ n < UInt64.size then some (UInt64.ofNat n.toNat) else none

/-- The limit that a text is. -/
def limitOfText (field : Key) (t : Text) : Except QueryError UInt64 :=
  match Numeral.integer? t with
  | none => .error (.datatype field t)
  | some (negative, digits) =>
    match limitOfInt? (Numeral.signedInteger negative digits) with
    | none => .error (.range field t)
    | some limit => .ok limit

/-- The value of a top or skip option. -/
def limit (field : Key) (raw : Option Text) : Except QueryError (Option UInt64) :=
  match given? raw with
  | none => .ok none
  | some t => (limitOfText field t).map some

/-- The truth value that a text is. -/
def flagOfText (field : Key) (t : Text) : Except QueryError Bool :=
  if t = "1".toList ∨ t = "true".toList then .ok true
  else if t = "0".toList ∨ t = "false".toList then .ok false
  else .error (.datatype field t)

/-- The value of a count option. -/
def flag (field : Key) (raw : Option Text) : Except QueryError (Option Bool) :=
  match given? raw with
  | none => .ok none
  | some t => (flagOfText field t).map some

end QueryOptions.Scalar
