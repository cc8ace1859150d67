import QueryOptions.Text.Hex

/-!
# Internet addresses of 128 bits

Such an address is eight groups of one to four hexadecimal digits with colons between.  Two colons
in a row stand for the groups that are missing, at most once; and the last two groups may be
written as four decimal numbers.
-/

namespace QueryOptions.Ipv6

/-- Whether a text is a byte in decimal without a zero in front. -/
def isByte (t : Text) : Bool :=
  t.all Char.isDigit && (t == ['0'] || (!t.isEmpty && t.head? != some '0' && t.length ≤ 3)) &&
    Nat.ofDigitChars 10 t 0 ≤ 255

/-- Whether a text is four bytes in decimal. -/
def isDotted (t : Text) : Bool :=
  let parts := t.splitOn '.'
  parts.length == 4 && parts.all isByte

/-- Whether a row of groups can end after `n` of them. -/
def isComplete (n : Nat) (shortened : Bool) : Bool := shortened || n == 8

/-- Whether the text goes on with groups until there are eight, `n` groups having been read.  Two
colons count as one group. -/
def groups (n : Nat) (shortened : Bool) (t : Text) : Bool :=
  match t with
  | [] => isComplete n shortened
  | c :: rest =>
    if n = 8 then false
    else if c = ':' then !shortened && groups (n + 1) true rest
    else
      let digits := ((c :: rest).take 4).takeWhile fun c => (hexValue c).isSome
      match _h : (c :: rest).drop digits.length with
      | [] => isComplete (n + 1) shortened
      | d :: after =>
        if d = ':' then !after.isEmpty && groups (n + 1) shortened after
        else
          d == '.' && !digits.isEmpty && n ≤ 6 && isDotted (c :: rest) &&
            isComplete (n + 2) shortened
termination_by t.length
decreasing_by
  · simp
  · have := congrArg List.length _h
    simp only [List.length_drop, List.length_cons] at this ⊢
    omega

/-- Whether a text is such an address.  A colon at the start has to be one of two. -/
def isAddress : Text → Bool
  | ':' :: ':' :: rest => groups 1 true rest
  | ':' :: _ => false
  | t => 2 ≤ t.length && groups 0 false t

end QueryOptions.Ipv6
