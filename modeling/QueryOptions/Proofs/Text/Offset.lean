import QueryOptions.Proofs.Success
import QueryOptions.Proofs.Text.Utf8

/-!
# Byte offsets

A place in a text can be given as a number of bytes.  Not every number is a place: a character takes
up to four bytes, and between them a text cannot be cut (`cut`).  Where it can be cut is settled by
the characters in front, `cut_eq_ok_iff`:

```text
cut t n = .ok (front, back)     ↔     t = front ++ back  and  front takes n bytes
```

A byte below 0x80 is a character of its own, and all the bytes of other characters are above.  So
who looks at single bytes and finds one of these is at a place where the text can be cut
(`exists_of_byteAt?_ascii`), even when it got there by counting bytes.
-/

namespace QueryOptions.Text

/-! ## The size of a text -/

/-- The number of bytes of a text. -/
def size (t : Text) : ℕ := (Utf8.encode t).length

@[simp] theorem size_nil : size [] = 0 := rfl

@[simp] theorem size_append (t u : Text) : size (t ++ u) = size t + size u := by
  unfold size Utf8.encode
  rw [List.flatMap_append, List.length_append]

theorem size_cons (c : Char) (t : Text) : size (c :: t) = size [c] + size t :=
  size_append [c] t

theorem size_singleton (c : Char) : size [c] = (Utf8.encodeChar c).length := by
  simp [size, Utf8.encode]

theorem size_singleton_pos (c : Char) : 0 < size [c] := by
  rw [size_singleton]
  exact List.length_pos_of_ne_nil (Utf8.encodeChar_ne_nil c)

theorem size_lt_size_append_cons (front : Text) (c : Char) (back : Text) :
    size front < size (front ++ c :: back) := by
  have := size_singleton_pos c
  rw [size_append, size_cons]
  omega

/-- The offset of a position: what the characters in front of it take. -/
def offset (t : Text) (i : ℕ) : ℕ := size (t.take i)

theorem exists_append_of_getElem? {t : Text} {i : ℕ} {c : Char} (h : t[i]? = some c) :
    ∃ front back, t = front ++ c :: back ∧ front.length = i := by
  obtain ⟨hi, hchar⟩ := List.getElem?_eq_some_iff.mp h
  refine ⟨t.take i, t.drop (i + 1), ?_, List.length_take_of_le (Nat.le_of_lt hi)⟩
  rw [← hchar, ← List.drop_eq_getElem_cons, List.take_append_drop]

theorem offset_length_append (front back : Text) :
    offset (front ++ back) front.length = size front := by
  rw [offset, List.take_left]

/-- Of two beginnings of a text the one with fewer bytes begins the other. -/
theorem exists_append_of_size_le {t u v w : Text} (h : t ++ u = v ++ w) (hle : size t ≤ size v) :
    ∃ m, v = t ++ m ∧ u = m ++ w := by
  rcases List.append_eq_append_iff.mp h with ⟨m, rfl, rfl⟩ | ⟨m, rfl, rfl⟩
  · exact ⟨m, rfl, rfl⟩
  · cases m with
    | nil => exact ⟨[], by simp, by simp⟩
    | cons c m =>
        have hpos := size_singleton_pos c
        rw [size_append, size_cons] at hle
        omega

/-! ## Cutting -/

/-- An offset at which a text cannot be cut. -/
structure Misplaced where
  /-- The offset in question. -/
  offset : ℕ
  deriving DecidableEq, Repr

/-- The text in front of a byte offset and the text from there on, if there is a character's end. -/
def cut? : Text → ℕ → Option (Text × Text)
  | t, 0 => some ([], t)
  | [], _ + 1 => none
  | c :: t, n + 1 =>
    if size [c] ≤ n + 1 then
      (cut? t (n + 1 - size [c])).map fun (front, back) => (c :: front, back)
    else none

/-- Cuts a text at a byte offset. -/
def cut (t : Text) (n : ℕ) : Except Misplaced (Text × Text) :=
  match cut? t n with
  | some parts => .ok parts
  | none => .error ⟨n⟩

/-- What stands between two byte offsets. -/
def slice (t : Text) (start stop : ℕ) : Except Misplaced Text := do
  let (front, _) ← cut t stop
  let (_, piece) ← cut front start
  return piece

/-- Whether a text can be cut at a byte offset. -/
def IsBoundary (t : Text) (n : ℕ) : Prop := ∃ front back, t = front ++ back ∧ size front = n

theorem isBoundary_append (front back : Text) : IsBoundary (front ++ back) (size front) :=
  ⟨front, back, rfl, rfl⟩

theorem IsBoundary.le_size {t : Text} {n : ℕ} (h : IsBoundary t n) : n ≤ size t := by
  obtain ⟨front, back, rfl, rfl⟩ := h
  rw [size_append]
  exact Nat.le_add_right ..

theorem cut?_append (front back : Text) :
    cut? (front ++ back) (size front) = some (front, back) := by
  induction front with
  | nil => cases back <;> rfl
  | cons c front ih =>
      have hpos := size_singleton_pos c
      obtain ⟨n, hn⟩ : ∃ n, size (c :: front) = n + 1 := ⟨size (c :: front) - 1, by
        rw [size_cons]
        omega⟩
      have hrest : n + 1 - size [c] = size front := by
        rw [← hn, size_cons, Nat.add_sub_cancel_left]
      rw [size_cons] at hn
      rw [size_cons, hn, List.cons_append, cut?, if_pos (by omega), hrest, ih]
      rfl

theorem cut_append (front back : Text) : cut (front ++ back) (size front) = .ok (front, back) := by
  rw [cut, cut?_append]

theorem of_cut?_eq_some {t front back : Text} {n : ℕ} (h : cut? t n = some (front, back)) :
    t = front ++ back ∧ size front = n := by
  fun_induction cut? t n generalizing front with
  | case1 t =>
      cases h
      exact ⟨rfl, rfl⟩
  | case2 n => cases h
  | case3 c t n hle ih =>
      obtain ⟨⟨front', back'⟩, hcut, heq⟩ := Option.map_eq_some_iff.mp h
      cases heq
      obtain ⟨rfl, hsize⟩ := ih hcut
      refine ⟨rfl, ?_⟩
      rw [size_cons, hsize]
      omega
  | case4 c t n hle => cases h

/-- **Where a text can be cut.** -/
theorem cut_eq_ok_iff {t front back : Text} {n : ℕ} :
    cut t n = .ok (front, back) ↔ t = front ++ back ∧ size front = n := by
  constructor
  · intro h
    unfold cut at h
    split at h
    · rename_i hcut
      cases h
      exact of_cut?_eq_some hcut
    · cases h
  · rintro ⟨rfl, rfl⟩
    exact cut_append front back

theorem slice_append (front middle back : Text) :
    slice (front ++ middle ++ back) (size front) (size (front ++ middle)) = .ok middle := by
  unfold slice
  rw [cut_append]
  show (cut (front ++ middle) (size front) >>= fun parts => .ok parts.2) = _
  rw [cut_append]
  rfl

/-! ## Single bytes -/

/-- The byte at an offset. -/
def byteAt? (t : Text) (n : ℕ) : Option UInt8 := (Utf8.encode t)[n]?

/-- The byte of a character below 0x80. -/
def asciiByte (c : Char) : UInt8 := UInt8.ofNat c.toNat

theorem byteAt?_isSome {t : Text} {n : ℕ} (h : n < size t) : ∃ b, byteAt? t n = some b :=
  ⟨_, List.getElem?_eq_getElem h⟩

/-- The bytes of a character stand behind those of the characters in front of it. -/
theorem byteAt?_append {front back : Text} {c : Char} {k : ℕ} (hk : k < size [c]) :
    byteAt? (front ++ c :: back) (size front + k) = (Utf8.encodeChar c)[k]? := by
  rw [size_singleton] at hk
  unfold byteAt? size Utf8.encode
  rw [List.flatMap_append, List.flatMap_cons, List.getElem?_append_right (Nat.le_add_right ..),
    Nat.add_sub_cancel_left, List.getElem?_append_left hk]

theorem le_toNat_ofNat {m : ℕ} (h : 0x80 ≤ m) (hm : m < 256) : 0x80 ≤ (UInt8.ofNat m).toNat := by
  rwa [Utf8.toNat_ofNat_byte hm]

theorem encodeChar_of_ascii {c : Char} (hc : c.toNat < 0x80) :
    Utf8.encodeChar c = [asciiByte c] := if_pos hc

/-- Every byte of any other character is above. -/
theorem le_of_mem_encodeChar {c : Char} (hc : 0x80 ≤ c.toNat) :
    ∀ b ∈ Utf8.encodeChar c, 0x80 ≤ b.toNat := by
  have hvalid := Utf8.toNat_lt_of_valid c
  unfold Utf8.encodeChar
  generalize c.toNat = n at hc hvalid
  simp only
  rw [if_neg (by omega)]
  split
  · simp only [List.forall_mem_cons]
    exact ⟨le_toNat_ofNat (by omega) (by omega), le_toNat_ofNat (by omega) (by omega), by simp⟩
  · split
    · simp only [List.forall_mem_cons]
      exact ⟨le_toNat_ofNat (by omega) (by omega), le_toNat_ofNat (by omega) (by omega),
        le_toNat_ofNat (by omega) (by omega), by simp⟩
    · simp only [List.forall_mem_cons]
      exact ⟨le_toNat_ofNat (by omega) (by omega), le_toNat_ofNat (by omega) (by omega),
        le_toNat_ofNat (by omega) (by omega), le_toNat_ofNat (by omega) (by omega), by simp⟩

theorem toNat_asciiByte {c : Char} (hc : c.toNat < 0x80) : (asciiByte c).toNat = c.toNat :=
  Utf8.toNat_ofNat_byte (by omega)

/-- **A byte below 0x80 is a character**, wherever it is found. -/
theorem exists_of_byteAt?_ascii {t : Text} {n : ℕ} {b : UInt8} (h : byteAt? t n = some b)
    (hb : b.toNat < 0x80) :
    ∃ front c back, t = front ++ c :: back ∧ size front = n ∧ c.toNat = b.toNat := by
  induction t generalizing n with
  | nil => simp [byteAt?, Utf8.encode] at h
  | cons c t ih =>
      rcases Nat.lt_or_ge n (size [c]) with hlt | hge
      · -- in the first character, which must be the byte
        have hbyte : byteAt? ([] ++ c :: t) (size [] + n) = _ := byteAt?_append hlt
        rw [size_nil, Nat.zero_add, List.nil_append, h] at hbyte
        have hmem := List.mem_of_getElem? hbyte.symm
        have hc : c.toNat < 0x80 := by
          by_contra habove
          have := le_of_mem_encodeChar (Nat.not_lt.mp habove) b hmem
          omega
        rw [encodeChar_of_ascii hc, List.mem_singleton] at hmem
        rw [size_singleton, encodeChar_of_ascii hc, List.length_singleton, Nat.lt_one_iff] at hlt
        exact ⟨[], c, t, rfl, hlt.symm, by rw [hmem, toNat_asciiByte hc]⟩
      · obtain ⟨k, rfl⟩ := Nat.exists_eq_add_of_le hge
        have hrest : byteAt? t k = some b := by
          rw [← h]
          unfold byteAt? Utf8.encode
          rw [List.flatMap_cons, size_singleton, List.getElem?_append_right (Nat.le_add_right ..),
            Nat.add_sub_cancel_left]
        obtain ⟨front, d, back, rfl, hsize, hd⟩ := ih hrest
        exact ⟨c :: front, d, back, rfl, by rw [size_cons, hsize], hd⟩

/-- The byte of a character below 0x80 is found where the character stands and nowhere else. -/
theorem byteAt?_eq_asciiByte_iff {t : Text} {n : ℕ} {c : Char} (hc : c.toNat < 0x80) :
    byteAt? t n = some (asciiByte c) ↔ ∃ front back, t = front ++ c :: back ∧ size front = n := by
  constructor
  · intro h
    have hbyte := toNat_asciiByte hc
    obtain ⟨front, d, back, ht, hsize, hd⟩ := exists_of_byteAt?_ascii h (by omega)
    obtain rfl : d = c := Char.toNat_inj.mp (hd.trans hbyte)
    exact ⟨front, back, ht, hsize⟩
  · rintro ⟨front, back, rfl, rfl⟩
    rw [← Nat.add_zero (size front), byteAt?_append (size_singleton_pos c),
      encodeChar_of_ascii hc]
    rfl

theorem byteAt?_eq_asciiByte_iff_getElem? {t : Text} {n : ℕ} {c : Char} (hc : c.toNat < 0x80) :
    byteAt? t n = some (asciiByte c) ↔ ∃ i, t[i]? = some c ∧ offset t i = n := by
  rw [byteAt?_eq_asciiByte_iff hc]
  constructor
  · rintro ⟨front, back, rfl, rfl⟩
    exact ⟨front.length, by simp, offset_length_append ..⟩
  · rintro ⟨i, hchar, rfl⟩
    obtain ⟨front, back, rfl, rfl⟩ := exists_append_of_getElem? hchar
    exact ⟨front, back, rfl, (offset_length_append ..).symm⟩

/-- So the byte in front of a text says what its first character is, if one asks for such. -/
theorem byteAt?_size_eq_asciiByte_iff {front back : Text} {c d : Char} (hd : d.toNat < 0x80) :
    byteAt? (front ++ c :: back) (size front) = some (asciiByte d) ↔ c = d := by
  rw [byteAt?_eq_asciiByte_iff hd]
  constructor
  · rintro ⟨front', back', htext, hsize⟩
    have hcut := cut_append front' (d :: back')
    rw [← htext, hsize, cut_append, Except.ok.injEq, Prod.mk.injEq] at hcut
    exact (List.cons.inj hcut.2).1
  · rintro rfl
    exact ⟨front, back, rfl, rfl⟩

end QueryOptions.Text
