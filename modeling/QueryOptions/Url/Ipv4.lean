import QueryOptions.Text.Hex

/-!
# Internet addresses of 32 bits

The host of a URL is such an address as soon as its last label looks like a number, and then the
whole of it has to be one.  There may be one to four numbers with points between, in decimal, in
octal after a zero, or in hexadecimal after `0x`; the last number fills the bytes that the others
leave over.
-/

namespace QueryOptions.Ipv4

/-- The number that the digits denote in a base, if all of them are digits of it. -/
def inBase? (base : Nat) (digits : Text) : Option Nat :=
  digits.foldlM (fun n c => ((hexValue c).filter (· < base)).map (n * base + ·)) 0

/-- The number that a label is.  Nothing after `0x` is zero. -/
def number? : Text → Option Nat
  | [] => none
  | '0' :: 'x' :: digits => inBase? 16 digits
  | '0' :: 'X' :: digits => inBase? 16 digits
  | '0' :: d :: digits => inBase? 8 (d :: digits)
  | digits => inBase? 10 digits

/-- The labels of a host, without an empty one at the end. -/
def labels (host : Text) : List Text :=
  let all := host.splitOn '.'
  if all.getLast? = some [] then all.dropLast else all

/-- Whether the last label looks like a number. -/
def endsInNumber (host : Text) : Bool :=
  match (labels host).getLast? with
  | none => false
  | some label => (!label.isEmpty && label.all Char.isDigit) || (number? label).isSome

/-- Whether the numbers make an address: those in front are bytes, the last is what is left. -/
def fits (numbers : List Nat) : Bool :=
  match numbers.getLast? with
  | none => false
  | some last =>
    let front := numbers.dropLast
    front.length ≤ 3 && front.all (· ≤ 255) && last < Nat.pow 256 (4 - front.length)

/-- Whether a host is such an address. -/
def isAddress (host : Text) : Bool :=
  match (labels host).mapM number? with
  | none => false
  | some numbers => fits numbers

end QueryOptions.Ipv4
