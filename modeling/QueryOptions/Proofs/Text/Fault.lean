import Mathlib.Order.Bounds.Basic
import Mathlib.Tactic.Common
import QueryOptions.Proofs.Text.Utf8

/-!
# Where bytes stop being a text

Bytes are a text if they are the bytes of some characters (`IsText`).  `Utf8.decode` accepts these
and no others, and of other bytes it says how far they are a text: the index of a fault is the
length of the longest beginning that is one (`decode_eq_error_iff`).

Two facts about the character at the front carry this.

* What `front` reads is the character whose bytes are there (`eq_append_of_front`), which is
  `front_encodeChar_append` read the other way: an overlong spelling, a surrogate or a number
  beyond the last character is never read.
* So where `front` reads nothing no character stands, and no longer beginning can be a text, since
  all texts with the same bytes in front agree on the characters there
  (`exists_of_encode_eq_append`).
-/

namespace QueryOptions.Utf8

/-- Whether the bytes are those of a text, each character in the encoding of the core library. -/
def IsText (bs : List UInt8) : Prop := ∃ t : Text, bs = t.flatMap String.utf8EncodeChar

/-! ## Characters and bytes -/

theorem encodeChar_eq_utf8EncodeChar (c : Char) : encodeChar c = String.utf8EncodeChar c := by
  have hvalid := toNat_lt_of_valid c
  have hsame : c.val.toNat = c.toNat := rfl
  unfold encodeChar String.utf8EncodeChar
  rw [hsame]
  generalize c.toNat = n at hvalid
  have htail : ∀ k, 0x80 + k % 0x40 = k % 0x40 + 0x80 := fun k => Nat.add_comm ..
  simp only [htail]
  by_cases hone : n < 0x80
  · rw [if_pos hone, if_pos (by omega)]
  by_cases htwo : n < 0x800
  · have hlead : 0xC0 + n / 0x40 = n / 0x40 % 0x20 + 0xC0 := by omega
    rw [if_neg hone, if_pos htwo, if_neg (by omega), if_pos (by omega), hlead]
  by_cases hthree : n < 0x10000
  · have hlead : 0xE0 + n / 0x1000 = n / 0x1000 % 0x10 + 0xE0 := by omega
    rw [if_neg hone, if_neg htwo, if_pos hthree, if_neg (by omega), if_neg (by omega),
      if_pos (by omega), hlead]
  · have hlead : 0xF0 + n / 0x40000 = n / 0x40000 % 0x08 + 0xF0 := by omega
    rw [if_neg hone, if_neg htwo, if_neg hthree, if_neg (by omega), if_neg (by omega),
      if_neg (by omega), hlead]

theorem isText_iff {bs : List UInt8} : IsText bs ↔ ∃ t, bs = encode t := by
  unfold IsText encode
  rw [funext encodeChar_eq_utf8EncodeChar]

theorem isTail_iff {b : UInt8} : isTail b = true ↔ 0x80 ≤ b.toNat ∧ b.toNat ≤ 0xBF := by
  simp [isTail, UInt8.le_iff_toNat_le]

theorem eq_ofNat_iff {n : ℕ} (hn : n < 256) {b : UInt8} : UInt8.ofNat n = b ↔ n = b.toNat := by
  rw [← UInt8.toNat_inj, toNat_ofNat_byte hn]

/-- The bounds on a second byte, as numbers. -/
theorem bounds_of_isSecond {lead b : UInt8} (h : isSecond lead b = true) :
    (0x80 ≤ b.toNat ∧ b.toNat ≤ 0xBF) ∧ (lead.toNat = 0xE0 → 0xA0 ≤ b.toNat) ∧
      (lead.toNat = 0xED → b.toNat ≤ 0x9F) ∧ (lead.toNat = 0xF0 → 0x90 ≤ b.toNat) ∧
        (lead.toNat = 0xF4 → b.toNat ≤ 0x8F) := by
  obtain ⟨htail, hlead⟩ := Bool.and_eq_true_iff.mp h
  simp only [beq_iff_eq, ← UInt8.toNat_inj, UInt8.reduceToNat] at hlead
  refine ⟨isTail_iff.mp htail, ?_⟩
  split_ifs at hlead <;> simp_all [UInt8.le_iff_toNat_le]

theorem encodeChar_one {a : UInt8} (ha : a.toNat < 0x80) :
    encodeChar (Char.ofNat a.toNat) = [a] := by
  have hnat := toNat_ofNat_of_valid (n := a.toNat) (Or.inl (by omega))
  simp only [encodeChar, hnat, if_pos ha, UInt8.ofNat_toNat]

theorem encodeChar_two {a b : UInt8} (ha : 0xC2 ≤ a.toNat) (ha' : a.toNat < 0xE0)
    (hb : isTail b = true) :
    encodeChar (Char.ofNat ((a.toNat - 0xC0) * 0x40 + tailBits b)) = [a, b] := by
  have hbounds := isTail_iff.mp hb
  unfold tailBits
  have hnat := toNat_ofNat_of_valid (n := (a.toNat - 0xC0) * 0x40 + (b.toNat - 0x80))
    (Or.inl (by omega))
  simp only [encodeChar, hnat]
  rw [if_neg (by omega), if_pos (by omega), List.cons_eq_cons, List.cons_eq_cons,
    eq_ofNat_iff (by omega), eq_ofNat_iff (by omega)]
  exact ⟨by omega, by omega, rfl⟩

theorem encodeChar_three {a b c : UInt8} (ha : 0xE0 ≤ a.toNat) (ha' : a.toNat < 0xF0)
    (hb : isSecond a b = true) (hc : isTail c = true) :
    encodeChar (Char.ofNat (((a.toNat - 0xE0) * 0x40 + tailBits b) * 0x40 + tailBits c)) =
      [a, b, c] := by
  have hsecond := bounds_of_isSecond hb
  have hthird := isTail_iff.mp hc
  unfold tailBits
  have hnat := toNat_ofNat_of_valid
    (n := ((a.toNat - 0xE0) * 0x40 + (b.toNat - 0x80)) * 0x40 + (c.toNat - 0x80)) (by
      unfold Nat.isValidChar
      omega)
  simp only [encodeChar, hnat]
  rw [if_neg (by omega), if_neg (by omega), if_pos (by omega), List.cons_eq_cons,
    List.cons_eq_cons, List.cons_eq_cons, eq_ofNat_iff (by omega), eq_ofNat_iff (by omega),
    eq_ofNat_iff (by omega)]
  exact ⟨by omega, by omega, by omega, rfl⟩

theorem encodeChar_four {a b c d : UInt8} (ha : 0xF0 ≤ a.toNat) (ha' : a.toNat ≤ 0xF4)
    (hb : isSecond a b = true) (hc : isTail c = true) (hd : isTail d = true) :
    encodeChar (Char.ofNat
        ((((a.toNat - 0xF0) * 0x40 + tailBits b) * 0x40 + tailBits c) * 0x40 + tailBits d)) =
      [a, b, c, d] := by
  have hsecond := bounds_of_isSecond hb
  have hthird := isTail_iff.mp hc
  have hfourth := isTail_iff.mp hd
  unfold tailBits
  have hnat := toNat_ofNat_of_valid
    (n := (((a.toNat - 0xF0) * 0x40 + (b.toNat - 0x80)) * 0x40 + (c.toNat - 0x80)) * 0x40 +
      (d.toNat - 0x80)) (by
        unfold Nat.isValidChar
        omega)
  simp only [encodeChar, hnat]
  rw [if_neg (by omega), if_neg (by omega), if_neg (by omega), List.cons_eq_cons,
    List.cons_eq_cons, List.cons_eq_cons, List.cons_eq_cons, eq_ofNat_iff (by omega),
    eq_ofNat_iff (by omega), eq_ofNat_iff (by omega), eq_ofNat_iff (by omega)]
  exact ⟨by omega, by omega, by omega, by omega, rfl⟩

theorem eq_append_of_two {a : UInt8} {bs rest : List UInt8} {c : Char} (ha : 0xC2 ≤ a.toNat)
    (ha' : a.toNat < 0xE0) (h : front.two a bs = .ok (c, rest)) :
    a :: bs = encodeChar c ++ rest := by
  unfold front.two at h
  split at h
  · cases h
  · split at h
    · rename_i hb
      obtain ⟨rfl, rfl⟩ := Prod.mk.inj (Except.ok.inj h)
      rw [encodeChar_two ha ha' hb]
      rfl
    · cases h

theorem eq_append_of_three {a : UInt8} {bs rest : List UInt8} {c : Char} (ha : 0xE0 ≤ a.toNat)
    (ha' : a.toNat < 0xF0) (h : front.three a bs = .ok (c, rest)) :
    a :: bs = encodeChar c ++ rest := by
  unfold front.three at h
  split at h
  · cases h
  · split at h <;> cases h
  · split_ifs at h with hb hc
    obtain ⟨rfl, rfl⟩ := Prod.mk.inj (Except.ok.inj h)
    rw [encodeChar_three ha ha' (by simpa using hb) (by simpa using hc)]
    rfl

theorem eq_append_of_four {a : UInt8} {bs rest : List UInt8} {c : Char} (ha : 0xF0 ≤ a.toNat)
    (ha' : a.toNat ≤ 0xF4) (h : front.four a bs = .ok (c, rest)) :
    a :: bs = encodeChar c ++ rest := by
  unfold front.four at h
  split at h
  · cases h
  · split at h <;> cases h
  · split_ifs at h
  · split_ifs at h with hb hc hd
    obtain ⟨rfl, rfl⟩ := Prod.mk.inj (Except.ok.inj h)
    rw [encodeChar_four ha ha' (by simpa using hb) (by simpa using hc) (by simpa using hd)]
    rfl

/-- **What is read at the front** is the character whose bytes stand there. -/
theorem eq_append_of_front {bs rest : List UInt8} {c : Char} (h : front bs = .ok (c, rest)) :
    bs = encodeChar c ++ rest := by
  cases bs with
  | nil => cases h
  | cons a bs =>
      simp only [front, UInt8.lt_iff_toNat_lt, UInt8.reduceToNat, Bool.or_eq_true,
        decide_eq_true_eq] at h
      split at h
      · rename_i hone
        cases h
        rw [encodeChar_one hone]
        rfl
      · split at h
        · cases h
        · rename_i hlead
          rw [not_or, not_lt, not_lt] at hlead
          split at h
          · rename_i htwo
            exact eq_append_of_two hlead.1 htwo h
          · split at h
            · rename_i hthree
              exact eq_append_of_three (by omega) hthree h
            · exact eq_append_of_four (by omega) hlead.2 h

/-! ## Beginnings -/

/-- Bytes in front of which nothing is read begin with no character. -/
theorem ne_append_of_front_error {bs : List UInt8} {length : Option ℕ}
    (h : front bs = .error length) (c : Char) (rest : List UInt8) :
    bs ≠ encodeChar c ++ rest := by
  rintro rfl
  rw [front_encodeChar_append] at h
  cases h

/-- What is behind the bytes of a text is a text if the whole is one. -/
theorem exists_of_encode_eq_append {t u : Text} {bs : List UInt8}
    (h : encode u = encode t ++ bs) : ∃ v, bs = encode v := by
  induction t generalizing u with
  | nil => exact ⟨u, h.symm⟩
  | cons c t ih =>
      have hfront : front (encode u) = .ok (c, encode t ++ bs) := by
        rw [h]
        show front ((encodeChar c ++ encode t) ++ bs) = _
        rw [List.append_assoc, front_encodeChar_append]
      cases u with
      | nil => cases hfront
      | cons d u =>
          have hfront' : front (encode (d :: u)) = .ok (d, encode u) :=
            front_encodeChar_append d (encode u)
          rw [hfront'] at hfront
          exact ih (Prod.mk.inj (Except.ok.inj hfront)).2

/-- Where a text is followed by bytes in front of which nothing is read, no longer beginning is a
text. -/
theorem length_le_of_isText_take {t : Text} {rest : List UInt8} {length : Option ℕ}
    (hrest : front rest = .error length) {n : ℕ} (hn : n ≤ (encode t ++ rest).length)
    (htake : IsText ((encode t ++ rest).take n)) : n ≤ (encode t).length := by
  obtain ⟨u, hu⟩ := isText_iff.mp htake
  by_contra hlong
  rw [List.take_append, List.take_of_length_le (by omega)] at hu
  -- what is behind the text would be a text that is not empty
  obtain ⟨v, hv⟩ := exists_of_encode_eq_append hu.symm
  have hsplit := List.take_append_drop (n - (encode t).length) rest
  rw [hv] at hsplit
  cases v with
  | nil =>
      have hlength := congrArg List.length hv
      rw [List.length_take] at hlength
      rw [List.length_append] at hn
      change _ = 0 at hlength
      omega
  | cons c v =>
      refine ne_append_of_front_error hrest c (encode v ++ rest.drop (n - (encode t).length)) ?_
      rw [← List.append_assoc]
      exact hsplit.symm

/-! ## Decoding -/

/-- Reading ends at the end of the bytes or in front of bytes that begin with no character. -/
theorem decodeFrom_cases (index : ℕ) (bs : List UInt8) :
    (∃ t, bs = encode t ∧ decodeFrom index bs = .ok t) ∨
      ∃ t rest length, bs = encode t ++ rest ∧ front rest = .error length ∧
        decodeFrom index bs = .error ⟨index + (encode t).length, length⟩ := by
  -- a character takes one byte or more, so the induction is on the number of bytes
  induction hn : bs.length using Nat.strong_induction_on generalizing bs index with
  | _ n ih =>
      cases bs with
      | nil => exact Or.inl ⟨[], rfl, by rw [decodeFrom]⟩
      | cons b bs =>
          cases hfront : front (b :: bs) with
          | error length =>
              exact Or.inr ⟨[], b :: bs, length, rfl, hfront,
                decodeFrom_of_front_error hfront index⟩
          | ok found =>
              obtain ⟨c, rest⟩ := found
              have hlt := length_lt_of_front hfront
              have hbytes := eq_append_of_front hfront
              have hlength : (b :: bs).length - rest.length = (encodeChar c).length := by
                rw [hbytes, List.length_append, Nat.add_sub_cancel]
              rw [decodeFrom_of_front hfront, hlength, hbytes]
              rcases ih rest.length (by omega) (index + (encodeChar c).length) rest rfl with
                ⟨t, hrest, hread⟩ | ⟨t, rest', length, hrest, herror, hread⟩
              · refine Or.inl ⟨c :: t, by rw [hrest]; rfl, ?_⟩
                rw [hread]
                rfl
              · refine Or.inr ⟨c :: t, rest', length, ?_, herror, ?_⟩
                · rw [hrest, ← List.append_assoc]
                  rfl
                · rw [hread]
                  show Except.error _ = Except.error _
                  congr 2
                  show _ = index + (encodeChar c ++ encode t).length
                  rw [List.length_append, Nat.add_assoc]

/-- **The bytes that are read** are those of a text. -/
theorem exists_decode_eq_ok_iff {bs : List UInt8} : (∃ t, decode bs = .ok t) ↔ IsText bs := by
  rw [isText_iff]
  constructor
  · rintro ⟨t, ht⟩
    rcases decodeFrom_cases 0 bs with ⟨u, hu, -⟩ | ⟨u, rest, length, -, -, herror⟩
    · exact ⟨u, hu⟩
    · cases ht.symm.trans herror
  · rintro ⟨t, rfl⟩
    exact ⟨t, decode_encode t⟩

/-- **The index of a fault** is the length of the longest beginning that is a text. -/
theorem isGreatest_of_decode_eq_error {bs : List UInt8} {fault : Fault}
    (h : decode bs = .error fault) :
    IsGreatest {n | n ≤ bs.length ∧ IsText (bs.take n)} fault.index := by
  rcases decodeFrom_cases 0 bs with ⟨t, -, hread⟩ | ⟨t, rest, length, rfl, hrest, herror⟩
  · cases h.symm.trans hread
  · have hfault := Except.error.inj (h.symm.trans herror)
    have hindex : fault.index = (encode t).length := by rw [hfault, Nat.zero_add]
    rw [hindex]
    refine ⟨⟨?_, isText_iff.mpr ⟨t, ?_⟩⟩, fun n hn => length_le_of_isText_take hrest hn.1 hn.2⟩
    · rw [List.length_append]
      exact Nat.le_add_right _ _
    · exact List.take_left

theorem decode_eq_error_iff {bs : List UInt8} {index : ℕ} :
    (∃ length, decode bs = .error ⟨index, length⟩) ↔
      ¬ IsText bs ∧ IsGreatest {n | n ≤ bs.length ∧ IsText (bs.take n)} index := by
  constructor
  · rintro ⟨length, h⟩
    refine ⟨fun htext => ?_, isGreatest_of_decode_eq_error h⟩
    obtain ⟨t, ht⟩ := exists_decode_eq_ok_iff.mpr htext
    cases ht.symm.trans h
  · rintro ⟨htext, hindex⟩
    cases h : decode bs with
    | ok t => exact absurd (exists_decode_eq_ok_iff.mp ⟨t, h⟩) htext
    | error fault =>
        obtain ⟨index', length⟩ := fault
        exact ⟨length, by rw [hindex.unique (isGreatest_of_decode_eq_error h)]⟩

end QueryOptions.Utf8
