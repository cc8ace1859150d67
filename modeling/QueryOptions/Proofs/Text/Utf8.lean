import QueryOptions.Text.Utf8

/-!
# Reading back the bytes of a text

`Utf8.decode` inverts `Utf8.encode` (`decode_encode`).  The work is in one character at a time:
`front` gives back the character whose bytes `encodeChar` has put in front, whatever follows.  The
cases are those of `encodeChar`, by the number of bytes,

```text
below 0x80        one byte, the number itself
below 0x800       two bytes, the first 0xC2 to 0xDF
below 0x10000     three bytes, the first 0xE0 to 0xEF
from there on     four bytes, the first 0xF0 to 0xF4
```

and in each case the bounds of a character's number, which leaves out the surrogates, are what
`isSecond` checks.
-/

namespace QueryOptions.Utf8

/-! ## Bytes as numbers -/

theorem toNat_ofNat_byte {n : Nat} (hn : n < 256) : (UInt8.ofNat n).toNat = n :=
  UInt8.toNat_ofNat_of_lt' hn

theorem isTail_tail (n : Nat) : isTail (UInt8.ofNat (0x80 + n % 0x40)) = true := by
  have hn : 0x80 + n % 0x40 < 256 := by omega
  simp only [isTail, Bool.and_eq_true, decide_eq_true_eq, UInt8.le_iff_toNat_le,
    toNat_ofNat_byte hn]
  constructor
  · show 128 ≤ _
    omega
  · show _ ≤ 191
    omega

theorem tailBits_tail (n : Nat) : tailBits (UInt8.ofNat (0x80 + n % 0x40)) = n % 0x40 := by
  have hn : 0x80 + n % 0x40 < 256 := by omega
  have hbyte := toNat_ofNat_byte hn
  unfold tailBits
  omega

/-- The comparisons of a first byte are those of its number. -/
theorem byte_lt_iff {n : Nat} (hn : n < 256) (b : UInt8) : UInt8.ofNat n < b ↔ n < b.toNat := by
  rw [UInt8.lt_iff_toNat_lt, toNat_ofNat_byte hn]

theorem lt_byte_iff {n : Nat} (hn : n < 256) (b : UInt8) : b < UInt8.ofNat n ↔ b.toNat < n := by
  rw [UInt8.lt_iff_toNat_lt, toNat_ofNat_byte hn]

theorem byte_beq_iff {n : Nat} (hn : n < 256) (b : UInt8) :
    (UInt8.ofNat n == b) = decide (n = b.toNat) := by
  rw [Bool.eq_iff_iff, beq_iff_eq, decide_eq_true_eq]
  constructor
  · intro h
    rw [← h, toNat_ofNat_byte hn]
  · intro h
    rw [h, UInt8.ofNat_toNat]

/-- The second byte of a character's three or four is one that may stand there, if the number
that the first two bytes carry is within the bounds. -/
theorem isSecond_tail {lead n : Nat} (hlead : lead < 256)
    (hE0 : lead = 0xE0 → 0x20 ≤ n % 0x40) (hED : lead = 0xED → n % 0x40 < 0x20)
    (hF0 : lead = 0xF0 → 0x10 ≤ n % 0x40) (hF4 : lead = 0xF4 → n % 0x40 < 0x10) :
    isSecond (UInt8.ofNat lead) (UInt8.ofNat (0x80 + n % 0x40)) = true := by
  have hn : 0x80 + n % 0x40 < 256 := by omega
  unfold isSecond
  rw [isTail_tail, Bool.true_and]
  simp only [byte_beq_iff hlead, UInt8.le_iff_toNat_le, toNat_ofNat_byte hn, decide_eq_true_eq]
  split
  · rename_i h
    have := hE0 h
    exact decide_eq_true (show 160 ≤ _ by omega)
  · split
    · rename_i h
      have := hED h
      exact decide_eq_true (show _ ≤ 159 by omega)
    · split
      · rename_i h
        have := hF0 h
        exact decide_eq_true (show 144 ≤ _ by omega)
      · split
        · rename_i h
          have := hF4 h
          exact decide_eq_true (show _ ≤ 143 by omega)
        · rfl

/-! ## One character

One lemma for each number of bytes, on the numbers that the bytes are made of. -/

theorem toNat_lt_of_valid (c : Char) :
    c.toNat < 0xD800 ∨ (0xDFFF < c.toNat ∧ c.toNat < 0x110000) := c.valid

theorem toNat_ofNat_of_valid {n : Nat} (h : n.isValidChar) : (Char.ofNat n).toNat = n := by
  rw [Char.ofNat, dif_pos h]
  rfl

theorem front_two {lead n : Nat} (hlow : 0xC2 ≤ lead) (hhigh : lead < 0xE0) (rest : List UInt8) :
    front (UInt8.ofNat lead :: UInt8.ofNat (0x80 + n % 0x40) :: rest) =
      .ok (Char.ofNat ((lead - 0xC0) * 0x40 + n % 0x40), rest) := by
  have hlead : lead < 256 := by omega
  simp only [front, front.two, byte_lt_iff hlead, lt_byte_iff hlead, UInt8.reduceToNat,
    Bool.or_eq_true, decide_eq_true_eq, isTail_tail, tailBits_tail, toNat_ofNat_byte hlead]
  rw [if_neg (by omega), if_neg (by omega), if_pos hhigh, if_pos trivial]

theorem front_three {lead m n : Nat} (hlow : 0xE0 ≤ lead) (hhigh : lead < 0xF0)
    (hsecond : isSecond (UInt8.ofNat lead) (UInt8.ofNat (0x80 + m % 0x40)) = true)
    (rest : List UInt8) :
    front (UInt8.ofNat lead :: UInt8.ofNat (0x80 + m % 0x40) :: UInt8.ofNat (0x80 + n % 0x40) ::
        rest) =
      .ok (Char.ofNat (((lead - 0xE0) * 0x40 + m % 0x40) * 0x40 + n % 0x40), rest) := by
  have hlead : lead < 256 := by omega
  simp only [front, front.three, byte_lt_iff hlead, lt_byte_iff hlead, UInt8.reduceToNat,
    Bool.or_eq_true, decide_eq_true_eq, hsecond, isTail_tail, tailBits_tail,
    toNat_ofNat_byte hlead, Bool.not_true, Bool.false_eq_true, if_false]
  rw [if_neg (by omega), if_neg (by omega), if_neg (by omega), if_pos hhigh]

theorem front_four {lead l m n : Nat} (hlow : 0xF0 ≤ lead) (hhigh : lead < 0xF5)
    (hsecond : isSecond (UInt8.ofNat lead) (UInt8.ofNat (0x80 + l % 0x40)) = true)
    (rest : List UInt8) :
    front (UInt8.ofNat lead :: UInt8.ofNat (0x80 + l % 0x40) :: UInt8.ofNat (0x80 + m % 0x40) ::
        UInt8.ofNat (0x80 + n % 0x40) :: rest) =
      .ok (Char.ofNat ((((lead - 0xF0) * 0x40 + l % 0x40) * 0x40 + m % 0x40) * 0x40 + n % 0x40),
        rest) := by
  have hlead : lead < 256 := by omega
  simp only [front, front.four, byte_lt_iff hlead, lt_byte_iff hlead, UInt8.reduceToNat,
    Bool.or_eq_true, decide_eq_true_eq, hsecond, isTail_tail, tailBits_tail,
    toNat_ofNat_byte hlead, Bool.not_true, Bool.false_eq_true, if_false]
  rw [if_neg (by omega), if_neg (by omega), if_neg (by omega), if_neg (by omega)]

/-- The bytes of a character are read back as that character, whatever follows. -/
theorem front_encodeChar_append (c : Char) (rest : List UInt8) :
    front (encodeChar c ++ rest) = .ok (c, rest) := by
  have hvalid := toNat_lt_of_valid c
  have hback : Char.ofNat c.toNat = c := Char.ofNat_toNat c
  unfold encodeChar
  generalize c.toNat = n at hvalid hback
  subst hback
  simp only
  split
  · rename_i h
    have hbyte : n < 256 := by omega
    simp only [List.cons_append, List.nil_append, front, byte_lt_iff hbyte, UInt8.reduceToNat,
      if_pos h, toNat_ofNat_byte hbyte]
  · split
    · simp only [List.cons_append, List.nil_append]
      rw [front_two (by omega) (by omega)]
      congr 3
      omega
    · split
      · simp only [List.cons_append, List.nil_append]
        rw [front_three (by omega) (by omega)
          (isSecond_tail (by omega) (by omega) (by omega) (by omega) (by omega))]
        congr 3
        omega
      · simp only [List.cons_append, List.nil_append]
        rw [front_four (by omega) (by omega)
          (isSecond_tail (by omega) (by omega) (by omega) (by omega) (by omega))]
        congr 3
        omega

/-! ## All of a text -/

theorem encodeChar_ne_nil (c : Char) : encodeChar c ≠ [] := by
  unfold encodeChar
  simp only
  split
  · simp
  · split
    · simp
    · split <;> simp

theorem decodeFrom_of_front {bs rest : List UInt8} {c : Char} (h : front bs = .ok (c, rest))
    (index : Nat) :
    decodeFrom index bs =
      (decodeFrom (index + (bs.length - rest.length)) rest).map (c :: ·) := by
  cases bs with
  | nil => cases h
  | cons b bs =>
      rw [decodeFrom]
      split
      · rename_i herror
        rw [h] at herror
        cases herror
      · rename_i hok
        rw [h] at hok
        cases hok
        rfl

theorem decodeFrom_of_front_error {b : UInt8} {bs : List UInt8} {length : Option Nat}
    (h : front (b :: bs) = .error length) (index : Nat) :
    decodeFrom index (b :: bs) = .error ⟨index, length⟩ := by
  rw [decodeFrom]
  split
  · rename_i herror
    rw [h] at herror
    cases herror
    rfl
  · rename_i hok
    rw [h] at hok
    cases hok

theorem decodeFrom_encode (t : Text) (index : Nat) : decodeFrom index (encode t) = .ok t := by
  induction t generalizing index with
  | nil =>
      show decodeFrom index [] = _
      rw [decodeFrom]
  | cons c t ih =>
      show decodeFrom index (encodeChar c ++ encode t) = _
      rw [decodeFrom_of_front (front_encodeChar_append c (encode t)), ih]
      rfl

/-- **A text is read back from its bytes.** -/
theorem decode_encode (t : Text) : decode (encode t) = .ok t := decodeFrom_encode t 0

end QueryOptions.Utf8
