import QueryOptions.Form
import QueryOptions.Proofs.Text.Parts
import QueryOptions.Proofs.Text.Utf8

/-!
# Reading back form-encoded pairs

`Form.decodePairs` inverts `Form.encodePairs` for all pairs of texts (`decodePairs_encodePairs`).
Three layers are undone, the last one written first:

* **Segments.**  A component that was written holds neither `&` nor `=` (`not_mem_encode`), so the
  row falls apart just where it was joined and a segment at the sign that was put into it.
* **Bytes.**  A byte is written as itself, as `+` or as an escape, and each is read as one byte
  whatever follows (`percentBytes_encodeByte`).  A literal plus sign is always escaped, which is
  why reading every `+` as a space first does no harm.
* **Characters.**  The bytes are those of a text, which `Utf8.decode_encode` reads back.
-/

namespace QueryOptions.Form

/-! ## One byte -/

theorem hexValue_capitalHexDigit : ∀ n < 16, hexValue (capitalHexDigit n) = some n := by decide

/-- No digit is one of the signs that mean something in a query. -/
theorem capitalHexDigit_not_mem :
    ∀ n < 16, capitalHexDigit n ∉ ['&', '=', '+', '#', '\''] := by decide

/-- No escape holds one of these signs. -/
theorem not_mem_escape {s : Char} (hs : s ∈ ['&', '=', '+', '#', '\'']) (b : UInt8) :
    s ∉ escape b := by
  have hb : b.toNat < 256 := UInt8.toNat_lt b
  have hpercent : '%' ∉ ['&', '=', '+', '#', '\''] := by decide
  intro h
  simp only [escape, List.mem_cons, List.not_mem_nil, or_false] at h
  rcases h with rfl | rfl | rfl
  · exact hpercent hs
  · exact capitalHexDigit_not_mem _ (by omega) hs
  · exact capitalHexDigit_not_mem _ (by omega) hs

theorem toNat_lt_of_isPlain {b : UInt8} (hb : isPlain b = true) :
    b.toNat < 0x80 ∧ b.toNat ≠ 0x25 ∧ b.toNat ≠ 0x2B ∧ b.toNat ≠ 0x26 ∧ b.toNat ≠ 0x3D := by
  simp only [isPlain, Bool.or_eq_true, Bool.and_eq_true, decide_eq_true_eq, beq_iff_eq,
    UInt8.le_iff_toNat_le, ← UInt8.toNat_inj, UInt8.reduceToNat] at hb
  omega

theorem toNat_ofNat_of_ascii {n : Nat} (hn : n < 0x80) : (Char.ofNat n).toNat = n :=
  Utf8.toNat_ofNat_of_valid (Or.inl (by omega))

/-- A character other than `%` spells its own bytes. -/
theorem percentBytes_cons_of_ne {c : Char} (hc : c ≠ '%') (rest : Text) :
    percentBytes (c :: rest) = Utf8.encodeChar c ++ percentBytes rest := by
  rw [percentBytes.eq_def]
  exact if_neg hc

theorem percentBytes_escape (b : UInt8) (rest : Text) :
    percentBytes (escape b ++ rest) = b :: percentBytes rest := by
  have hb : b.toNat < 256 := UInt8.toNat_lt b
  have hhigh := hexValue_capitalHexDigit (b.toNat / 16) (by omega)
  have hlow := hexValue_capitalHexDigit (b.toNat % 16) (by omega)
  have hsum : b.toNat / 16 * 16 + b.toNat % 16 = b.toNat := by omega
  simp only [escape, List.cons_append, List.nil_append]
  rw [percentBytes, if_pos rfl]
  simp only [hhigh, hlow, hsum, UInt8.ofNat_toNat]

/-- Where no `+` is, nothing is read as a space. -/
theorem spaced_eq_self {t : Text} (ht : '+' ∉ t) : spaced t = t := by
  have hkeep : ∀ c ∈ t, (if c = '+' then ' ' else c) = c := by
    intro c hc
    rw [if_neg]
    rintro rfl
    exact ht hc
  exact (List.map_congr_left hkeep).trans (List.map_id' t)

theorem spaced_escape (b : UInt8) : spaced (escape b) = escape b :=
  spaced_eq_self (not_mem_escape (by decide) b)

theorem spaced_append (t u : Text) : spaced (t ++ u) = spaced t ++ spaced u := List.map_append

/-- A byte that is written as it is, is read as it is. -/
theorem percentBytes_plain {b : UInt8} (hb : isPlain b = true) (rest : Text) :
    percentBytes (spaced [Char.ofNat b.toNat] ++ rest) = b :: percentBytes rest := by
  obtain ⟨hascii, hpercent, hplus, -, -⟩ := toNat_lt_of_isPlain hb
  have hnat := toNat_ofNat_of_ascii hascii
  have hneplus : Char.ofNat b.toNat ≠ '+' := by
    intro h
    rw [h] at hnat
    exact hplus hnat.symm
  have hnepercent : Char.ofNat b.toNat ≠ '%' := by
    intro h
    rw [h] at hnat
    exact hpercent hnat.symm
  simp only [spaced, List.map_cons, List.map_nil, if_neg hneplus, List.cons_append,
    List.nil_append]
  rw [percentBytes_cons_of_ne hnepercent]
  simp [Utf8.encodeChar, hnat, hascii]

/-- **One written byte is read as that byte**, whatever follows it. -/
theorem percentBytes_encodeByte (b : UInt8) (rest : Text) :
    percentBytes (spaced (encodeByte b) ++ rest) = b :: percentBytes rest := by
  unfold encodeByte
  split
  · rename_i h
    have hspace : b = 0x20 := by simpa using h
    subst hspace
    show percentBytes (' ' :: rest) = _
    rw [percentBytes_cons_of_ne (by decide)]
    rfl
  · split
    · rename_i h
      exact percentBytes_plain h rest
    · rw [spaced_escape, percentBytes_escape]

/-! ## Components -/

theorem percentBytes_encodeBytes (bs : List UInt8) :
    percentBytes (spaced (bs.flatMap encodeByte)) = bs := by
  induction bs with
  | nil => rfl
  | cons b bs ih => rw [List.flatMap_cons, spaced_append, percentBytes_encodeByte, ih]

/-- A text is read back from the component that spells it. -/
theorem decode_encode (t : Text) : decode (encode t) = .ok t := by
  unfold decode encode
  rw [percentBytes_encodeBytes, Utf8.decode_encode]
  rfl

theorem not_mem_encodeByte (b : UInt8) : '&' ∉ encodeByte b ∧ '=' ∉ encodeByte b := by
  unfold encodeByte
  split
  · decide
  · split
    · rename_i h
      obtain ⟨hascii, -, -, hamp, heq⟩ := toNat_lt_of_isPlain h
      have hnat := toNat_ofNat_of_ascii hascii
      constructor
      · intro hmem
        rw [← List.mem_singleton.mp hmem] at hnat
        exact hamp hnat.symm
      · intro hmem
        rw [← List.mem_singleton.mp hmem] at hnat
        exact heq hnat.symm
    · exact ⟨not_mem_escape (by decide) b, not_mem_escape (by decide) b⟩

/-- What is written for a key or a value never ends the key or the segment. -/
theorem not_mem_encode (t : Text) : '&' ∉ encode t ∧ '=' ∉ encode t := by
  constructor
  · intro h
    obtain ⟨b, -, hb⟩ := List.mem_flatMap.mp h
    exact (not_mem_encodeByte b).1 hb
  · intro h
    obtain ⟨b, -, hb⟩ := List.mem_flatMap.mp h
    exact (not_mem_encodeByte b).2 hb

/-! ## Rows -/

theorem bne_of_not_mem {key : Text} (hkey : '=' ∉ key) : ∀ c ∈ key, (c != '=') = true := by
  intro c hc
  rw [bne_iff_ne]
  rintro rfl
  exact hkey hc

/-- A segment is cut at its first `=`. -/
theorem rawKey_append {key : Text} (hkey : '=' ∉ key) (value : Text) :
    rawKey (key ++ '=' :: value) = key := by
  unfold rawKey
  rw [List.takeWhile_append_of_pos (bne_of_not_mem hkey)]
  simp

theorem rawValue_append {key : Text} (hkey : '=' ∉ key) (value : Text) :
    rawValue (key ++ '=' :: value) = value := by
  unfold rawValue
  rw [List.dropWhile_append_of_pos (bne_of_not_mem hkey)]
  simp

/-- A segment without a `=` is all key. -/
theorem rawKey_of_not_mem {segment : Text} (h : '=' ∉ segment) : rawKey segment = segment :=
  List.takeWhile_eq_self_iff.mpr (bne_of_not_mem h)

theorem rawValue_of_not_mem {segment : Text} (h : '=' ∉ segment) : rawValue segment = [] := by
  unfold rawValue
  rw [List.dropWhile_eq_nil_iff.mpr (bne_of_not_mem h)]
  rfl

theorem decodeSegment_encodeSegment (pair : Text × Text) :
    decodeSegment (encodeSegment pair) = .ok pair := by
  have hkey := (not_mem_encode pair.1).2
  unfold decodeSegment encodeSegment
  rw [rawKey_append hkey, rawValue_append hkey, decode_encode, decode_encode]
  rfl

/-- The segments of a written row are the ones that were joined, none of them empty. -/
theorem segments_encodePairs (pairs : Pairs) :
    segments (encodePairs pairs) = pairs.map encodeSegment := by
  rcases eq_or_ne pairs [] with rfl | hne
  · rfl
  · have hamp : ∀ s ∈ pairs.map encodeSegment, '&' ∉ s := by
      intro s hs
      obtain ⟨pair, -, rfl⟩ := List.mem_map.mp hs
      simp [encodeSegment, (not_mem_encode pair.1).1, (not_mem_encode pair.2).1]
    unfold segments encodePairs Text.join
    rw [List.splitOn_intercalate '&' hamp (by simpa using hne), List.filter_eq_self]
    intro s hs
    obtain ⟨pair, -, rfl⟩ := List.mem_map.mp hs
    simp [encodeSegment]

/-- **Pairs are read back from the row that spells them**, whatever texts they are made of. -/
theorem decodePairs_encodePairs (pairs : Pairs) : decodePairs (encodePairs pairs) = .ok pairs := by
  unfold decodePairs
  rw [segments_encodePairs]
  induction pairs with
  | nil => rfl
  | cons pair pairs ih =>
      rw [List.map_cons, List.mapM_cons, decodeSegment_encodeSegment, ih]
      rfl

end QueryOptions.Form
