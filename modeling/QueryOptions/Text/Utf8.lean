import QueryOptions.Text.Basic

/-!
# Texts as bytes

A percent-encoded query spells bytes, and the bytes have to spell a text.  `encode` writes a text
in UTF-8, `decode` reads it back and says of bytes that are no text where the first fault lies.

A fault is located the way the standard cuts ill-formed sequences: the bytes in front of it are
whole characters, and its length is that of the longest start of a character found there.  When
the bytes stop in the middle of a character there is no length, since more bytes could mend it.
-/

namespace QueryOptions.Utf8

/-- Where a byte sequence stops being a text. -/
structure Fault where
  /-- The number of bytes in front of the fault, all of them whole characters. -/
  index : Nat
  /-- The number of bytes that belong to no character, or `none` when the bytes end too early. -/
  length : Option Nat
  deriving DecidableEq, Repr

/-- The fault in words. -/
def Fault.message : Fault → Text
  | ⟨index, some length⟩ =>
    "invalid utf-8 sequence of ".toList ++ Nat.toDigits 10 length ++ " bytes from index ".toList ++
      Nat.toDigits 10 index
  | ⟨index, none⟩ => "incomplete utf-8 byte sequence from index ".toList ++ Nat.toDigits 10 index

/-- The one to four bytes of a character. -/
def encodeChar (c : Char) : List UInt8 :=
  let n := c.toNat
  if n < 0x80 then [UInt8.ofNat n]
  else if n < 0x800 then [UInt8.ofNat (0xC0 + n / 0x40), UInt8.ofNat (0x80 + n % 0x40)]
  else if n < 0x10000 then
    [UInt8.ofNat (0xE0 + n / 0x1000), UInt8.ofNat (0x80 + n / 0x40 % 0x40),
      UInt8.ofNat (0x80 + n % 0x40)]
  else
    [UInt8.ofNat (0xF0 + n / 0x40000), UInt8.ofNat (0x80 + n / 0x1000 % 0x40),
      UInt8.ofNat (0x80 + n / 0x40 % 0x40), UInt8.ofNat (0x80 + n % 0x40)]

/-- The bytes of a text. -/
def encode (t : Text) : List UInt8 := t.flatMap encodeChar

/-- Whether a byte carries the six low bits of a character begun before it. -/
def isTail (b : UInt8) : Bool := 0x80 ≤ b && b ≤ 0xBF

/-- Whether `b` may follow the first byte `lead` of three or four.  The bounds leave out the
overlong spellings, the surrogates and what lies beyond the last character. -/
def isSecond (lead b : UInt8) : Bool :=
  isTail b &&
    (if lead == 0xE0 then 0xA0 ≤ b
     else if lead == 0xED then b ≤ 0x9F
     else if lead == 0xF0 then 0x90 ≤ b
     else if lead == 0xF4 then b ≤ 0x8F
     else true)

/-- The six bits that a tail byte carries. -/
def tailBits (b : UInt8) : Nat := b.toNat - 0x80

/-- The character at the front, and the bytes after it; otherwise how many bytes are at fault. -/
def front : List UInt8 → Except (Option Nat) (Char × List UInt8)
  | [] => .error none
  | a :: r =>
    if a < 0x80 then .ok (Char.ofNat a.toNat, r)
    else if a < 0xC2 || 0xF4 < a then .error (some 1)
    else if a < 0xE0 then two a r
    else if a < 0xF0 then three a r
    else four a r
where
  two (a : UInt8) : List UInt8 → Except (Option Nat) (Char × List UInt8)
    | [] => .error none
    | b :: r =>
      if isTail b then .ok (Char.ofNat ((a.toNat - 0xC0) * 0x40 + tailBits b), r)
      else .error (some 1)
  three (a : UInt8) : List UInt8 → Except (Option Nat) (Char × List UInt8)
    | [] => .error none
    | [b] => if isSecond a b then .error none else .error (some 1)
    | b :: c :: r =>
      if !isSecond a b then .error (some 1)
      else if !isTail c then .error (some 2)
      else .ok (Char.ofNat (((a.toNat - 0xE0) * 0x40 + tailBits b) * 0x40 + tailBits c), r)
  four (a : UInt8) : List UInt8 → Except (Option Nat) (Char × List UInt8)
    | [] => .error none
    | [b] => if isSecond a b then .error none else .error (some 1)
    | [b, c] =>
      if !isSecond a b then .error (some 1)
      else if isTail c then .error none else .error (some 2)
    | b :: c :: d :: r =>
      if !isSecond a b then .error (some 1)
      else if !isTail c then .error (some 2)
      else if !isTail d then .error (some 3)
      else
        .ok (Char.ofNat
          ((((a.toNat - 0xF0) * 0x40 + tailBits b) * 0x40 + tailBits c) * 0x40 + tailBits d), r)

/-- A character takes at least one byte, so reading on ends. -/
theorem length_lt_of_front {bs r : List UInt8} {c : Char} (h : front bs = .ok (c, r)) :
    r.length < bs.length := by
  cases bs with
  | nil => simp [front] at h
  | cons a bs =>
    suffices h : r.length ≤ bs.length by simpa using Nat.lt_succ_of_le h
    simp only [front] at h
    split at h
    · injection h with h
      injection h with _ h
      simp [h]
    · split at h
      · simp at h
      · unfold front.two front.three front.four at h
        grind

/-- Reads the bytes from number `index` on. -/
def decodeFrom (index : Nat) (bs : List UInt8) : Except Fault Text :=
  match bs with
  | [] => .ok []
  | b :: rest =>
    match _h : front (b :: rest) with
    | .error length => .error ⟨index, length⟩
    | .ok (c, r) => (decodeFrom (index + ((b :: rest).length - r.length)) r).map (c :: ·)
termination_by bs.length
decreasing_by exact length_lt_of_front _h

/-- The text that the bytes spell, or the first fault in them. -/
def decode (bs : List UInt8) : Except Fault Text := decodeFrom 0 bs

end QueryOptions.Utf8
