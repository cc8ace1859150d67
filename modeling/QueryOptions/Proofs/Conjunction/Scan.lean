import QueryOptions.Proofs.Conjunction.Runs
import QueryOptions.Proofs.Text.Offset

/-!
# Taking a conjunction apart by byte offsets

`Conjunction.clauses` reads a list of characters token by token.  The same clauses are found by a
loop that looks at one byte of the text a turn and cuts the text at byte offsets (`scan`).  Some of
these it counts from the start of the text and some from behind an apostrophe, and it gets past what
it has found by adding to them.  An offset that is wrong by one would leave the loop where it is,
take it past the end, or cut through a character, which is a fault of its own (`Misplaced`).  This
file shows that none of it can happen, and that the loop returns the clauses.

A turn at the beginning of a character does what reading one token does, and a turn inside one does
nothing:

```text
at a quoted run          goes behind it                 step_of_quote
at a separating word     cuts off the part before it    step_of_separator
at another character     goes one byte further          step_of_plain
inside a character       goes one byte further          step_of_byte
```

The byte alone tells these apart, because no byte inside a character is that of an apostrophe or of
a letter.  `WellPlaced` is what a turn preserves, and `scanFrom_eq` is the simulation.
-/

namespace QueryOptions.Conjunction

open Text

/-! ## The scanner -/

/-- The byte offsets at which a character stands in a text. -/
def offsetsOf (c : Char) : Text → List ℕ
  | [] => []
  | d :: t =>
    let others := (offsetsOf c t).map (size [d] + ·)
    if d = c then 0 :: others else others

/-- The first of the given offsets, all of them of apostrophes, at which a quote can end. -/
def firstClosing (t : Text) : List ℕ → Except Misplaced (Option ℕ)
  | [] => .ok none
  | n :: others => do
    let (_, rest) ← cut t (n + 1)
    if closesBefore rest then return some n else firstClosing t others

/-- The offset just behind the apostrophe that closes the run opened at an offset. -/
def runEnd (t : Text) (opening : ℕ) : Except Misplaced (Option ℕ) := do
  let (front, _) ← cut t opening
  if opensAfter front.getLast? then
    let (_, rest) ← cut t (opening + 1)
    let closing ← firstClosing t ((offsetsOf '\'' rest).map (opening + 1 + ·))
    return closing.map (· + 1)
  else return none

/-- Whether the separating word stands at an offset. -/
def isWordAt (t : Text) (n : ℕ) : Except Misplaced Bool := do
  let (front, back) ← cut t n
  if "and".toList.isPrefixOf back && blankAfter front.getLast? then
    let (_, rest) ← cut t (n + 3)
    return blankBefore rest
  else return false

/-- Where a scan has got to. -/
structure Scan where
  /-- What has been cut off so far. -/
  parts : List Text
  /-- The offset at which the part begins that is being read. -/
  start : ℕ
  /-- The offset of the next byte. -/
  position : ℕ

/-- The scan one byte further. -/
def Scan.next (s : Scan) : Scan := { s with position := s.position + 1 }

/-- One turn of the loop. -/
def step (t : Text) (s : Scan) : Except Misplaced Scan :=
  if byteAt? t s.position = some (asciiByte '\'') then do
    match ← runEnd t s.position with
    | some stop => return { s with position := stop }
    | none => return s.next
  else if byteAt? t s.position = some (asciiByte 'a') then do
    if ← isWordAt t s.position then
      let part ← slice t s.start s.position
      return { parts := s.parts ++ [part], start := s.position + 3, position := s.position + 3 }
    else return s.next
  else return s.next

theorem mem_of_firstClosing {t : Text} {ns : List ℕ} {n : ℕ}
    (h : firstClosing t ns = .ok (some n)) : n ∈ ns := by
  induction ns with
  | nil => cases h
  | cons m ns ih =>
      rw [firstClosing] at h
      obtain ⟨⟨_, rest⟩, -, hrest⟩ := bind_eq_ok.mp h
      simp only at hrest
      split at hrest
      · cases hrest
        exact List.mem_cons_self
      · exact List.mem_cons_of_mem m (ih hrest)

/-- A run ends behind its opening apostrophe and a closing one. -/
theorem add_two_le_of_runEnd {t : Text} {opening stop : ℕ}
    (h : runEnd t opening = .ok (some stop)) : opening + 2 ≤ stop := by
  unfold runEnd at h
  obtain ⟨⟨front, _⟩, -, h⟩ := bind_eq_ok.mp h
  simp only at h
  split at h
  · obtain ⟨⟨_, rest⟩, -, h⟩ := bind_eq_ok.mp h
    obtain ⟨closing, hclosing, h⟩ := bind_eq_ok.mp h
    obtain ⟨n, rfl, rfl⟩ := Option.map_eq_some_iff.mp (Except.ok.inj h)
    obtain ⟨k, -, rfl⟩ := List.mem_map.mp (mem_of_firstClosing hclosing)
    omega
  · cases h

theorem position_lt_of_step {t : Text} {s s' : Scan} (h : step t s = .ok s') :
    s.position < s'.position := by
  unfold step at h
  split at h
  · obtain ⟨r, hr, h⟩ := bind_eq_ok.mp h
    cases r with
    | none =>
        cases h
        exact Nat.lt_succ_self _
    | some stop =>
        cases h
        have := add_two_le_of_runEnd hr
        show s.position < stop
        omega
  · split at h
    · obtain ⟨isWord, -, h⟩ := bind_eq_ok.mp h
      split at h
      · obtain ⟨part, -, h⟩ := bind_eq_ok.mp h
        cases h
        show s.position < s.position + 3
        omega
      · cases h
        exact Nat.lt_succ_self _
    · cases h
      exact Nat.lt_succ_self _

/-- The clauses, once the end has been reached: what is left over is the last one. -/
def finish (t : Text) (s : Scan) : Except Misplaced (List Text) := do
  let (_, last) ← cut t s.start
  return trimAll (s.parts ++ [last])

/-- The loop. -/
def scanFrom (t : Text) (s : Scan) : Except Misplaced (List Text) :=
  if s.position < size t then
    match _h : step t s with
    | .error e => .error e
    | .ok s' => scanFrom t s'
  else finish t s
termination_by size t - s.position
decreasing_by
  have := position_lt_of_step _h
  omega

/-- A scan that has not begun. -/
def Scan.initial : Scan := { parts := [], start := 0, position := 0 }

/-- The clauses of a conjunction, by byte offsets. -/
def scan (t : Text) : Except Misplaced (List Text) := scanFrom t .initial

/-! ## What is seen at a character -/

theorem size_apostrophe : size ['\''] = 1 := by decide

/-- The text in front of a character and behind it, when that character is one byte. -/
theorem cut_size_add_one {c : Char} (hc : size [c] = 1) (front back : Text) :
    cut (front ++ c :: back) (size front + 1) = .ok (front ++ [c], back) := by
  rw [cut_eq_ok_iff]
  exact ⟨by simp, by rw [size_append, hc]⟩

/-- The offsets of the apostrophes lead to the end that `close?` finds. -/
theorem firstClosing_offsetsOf (front back : Text) :
    firstClosing (front ++ back) ((offsetsOf '\'' back).map (size front + ·)) =
      .ok ((close? back).map fun found => size front + size found.1 - 1) := by
  induction back generalizing front with
  | nil => rfl
  | cons c back ih =>
      -- behind the character the offsets count from the end of `front ++ [c]`
      have hrest := ih (front ++ [c])
      have hshift : ((offsetsOf '\'' back).map (size [c] + ·)).map (size front + ·) =
          (offsetsOf '\'' back).map (size (front ++ [c]) + ·) := by
        rw [List.map_map, size_append]
        refine List.map_congr_left fun n _ => ?_
        exact (Nat.add_assoc ..).symm
      have hsize (run : Text) :
          size (front ++ [c]) + size run - 1 = size front + size (c :: run) - 1 := by
        rw [size_append, size_cons c run, Nat.add_assoc]
      rw [List.append_assoc, List.singleton_append] at hrest
      simp only [hsize] at hrest
      rw [offsetsOf, close?]
      by_cases hc : c = '\''
      · subst hc
        rw [if_pos rfl, List.map_cons, Nat.add_zero, firstClosing,
          cut_size_add_one size_apostrophe, hshift]
        show (if closesBefore back then _ else _) = _
        cases hclose : closesBefore back with
        | true =>
            rw [if_pos rfl, if_pos ⟨rfl, rfl⟩]
            show Except.ok (some (size front)) = .ok (some (size front + size ['\''] - 1))
            rw [size_apostrophe, Nat.add_sub_cancel]
        | false =>
            rw [if_neg (by simp), if_neg (by simp), hrest, Option.map_map]
            rfl
      · rw [if_neg hc, if_neg fun h => hc h.1, hshift, hrest, Option.map_map]
        rfl

/-- At an apostrophe the scanner finds the run that reading finds there. -/
theorem runEnd_eq (front back : Text) :
    runEnd (front ++ '\'' :: back) (size front) =
      .ok ((quote? front.getLast? ('\'' :: back)).map fun found => size front + size found.1) := by
  have hclosing := firstClosing_offsetsOf (front ++ ['\'']) back
  rw [List.append_assoc, List.singleton_append, size_append, size_apostrophe] at hclosing
  rw [runEnd, cut_append, quote?_cons]
  show (if opensAfter front.getLast? = true then _ else _) = _
  by_cases hopens : opensAfter front.getLast? = true
  · rw [if_pos hopens, if_pos ⟨rfl, hopens⟩, cut_size_add_one size_apostrophe]
    show (firstClosing _ _ >>= fun closing => .ok (closing.map (· + 1))) = _
    rw [hclosing]
    show Except.ok (Option.map _ (Option.map _ (close? back))) = _
    rw [Option.map_map, Option.map_map]
    refine congrArg Except.ok (Option.map_congr fun found _ => ?_)
    -- the run begins with its apostrophe, so one byte is taken off and put back
    show size front + 1 + size found.1 - 1 + 1 = size front + size ('\'' :: found.1)
    rw [size_cons, size_apostrophe]
    omega
  · rw [if_neg hopens, if_neg fun h => hopens h.2]
    rfl

/-- The scanner sees the word where reading finds a separator. -/
theorem isWordAt_eq (front back : Text) :
    isWordAt (front ++ back) (size front) = .ok (separator? front.getLast? back).isSome := by
  rw [isWordAt, cut_append]
  show (if ("and".toList.isPrefixOf back && blankAfter front.getLast?) = true then _ else _) = _
  by_cases hword : "and".toList.isPrefixOf back = true
  · obtain ⟨rest, rfl⟩ := List.isPrefixOf_iff_prefix.mp hword
    have hcut : cut (front ++ ("and".toList ++ rest)) (size front + 3) =
        .ok (front ++ "and".toList, rest) := by
      rw [cut_eq_ok_iff]
      exact ⟨by simp, by rw [size_append]; rfl⟩
    have hread : separator? front.getLast? ("and".toList ++ rest) =
        if blankAfter front.getLast? then if blankBefore rest then some rest else none else none :=
      rfl
    rw [hword, Bool.true_and, hcut, hread]
    cases blankAfter front.getLast? with
    | false => rfl
    | true =>
        show Except.ok (blankBefore rest) =
          .ok (if blankBefore rest = true then some rest else none).isSome
        cases blankBefore rest <;> rfl
  · rw [if_neg fun h => hword (Bool.and_eq_true_iff.mp h).1]
    cases hsep : separator? front.getLast? back with
    | none => rfl
    | some rest =>
        rw [(separator?_eq_some hsep).1] at hword
        exact absurd (List.isPrefixOf_iff_prefix.mpr (List.prefix_append ..)) hword

/-! ## One turn of the loop -/

theorem step_of_quote {front t run rest : Text} (parts : List Text) (start : ℕ)
    (hquote : quote? front.getLast? t = some (run, rest)) :
    step (front ++ t) ⟨parts, start, size front⟩ = .ok ⟨parts, start, size (front ++ run)⟩ := by
  obtain ⟨c, t, rfl⟩ : ∃ c back, t = c :: back := by
    cases t with
    | nil => cases hquote
    | cons c t => exact ⟨c, t, rfl⟩
  obtain rfl : c = '\'' := by
    by_contra hc
    rw [quote?_cons, if_neg fun h => hc h.1] at hquote
    cases hquote
  rw [step, if_pos ((byteAt?_size_eq_asciiByte_iff (by decide)).mpr rfl)]
  simp only [runEnd_eq, hquote, size_append]
  rfl

theorem step_of_separator {done current t rest : Text} (parts : List Text)
    (hsep : separator? (done ++ current).getLast? t = some rest) :
    step (done ++ current ++ t) ⟨parts, size done, size (done ++ current)⟩ =
      .ok ⟨parts ++ [current], size (done ++ current ++ "and".toList),
        size (done ++ current ++ "and".toList)⟩ := by
  have htext : t = 'a' :: 'n' :: 'd' :: rest := (separator?_eq_some hsep).1
  have hword := isWordAt_eq (done ++ current) t
  rw [hsep] at hword
  have hbyte : byteAt? (done ++ current ++ t) (size (done ++ current)) = some (asciiByte 'a') := by
    rw [htext]
    exact (byteAt?_size_eq_asciiByte_iff (by decide)).mpr rfl
  have hne : byteAt? (done ++ current ++ t) (size (done ++ current)) ≠ some (asciiByte '\'') := by
    rw [hbyte]
    decide
  rw [step, if_neg hne, if_pos hbyte]
  simp only [hword, slice_append]
  rw [size_append _ "and".toList]
  rfl

theorem step_of_plain {front back : Text} {c : Char} (parts : List Text) (start : ℕ)
    (hquote : quote? front.getLast? (c :: back) = none)
    (hsep : separator? front.getLast? (c :: back) = none) :
    step (front ++ c :: back) ⟨parts, start, size front⟩ = .ok ⟨parts, start, size front + 1⟩ := by
  have hword := isWordAt_eq front (c :: back)
  rw [hsep] at hword
  unfold step
  split
  · rename_i hbyte
    obtain rfl := (byteAt?_size_eq_asciiByte_iff (by decide)).mp hbyte
    simp only [runEnd_eq, hquote]
    rfl
  · split
    · simp only [hword]
      rfl
    · rfl

/-- Inside a character of several bytes the loop goes on by one. -/
theorem step_of_byte {t : Text} {s : Scan} {b : UInt8} (h : byteAt? t s.position = some b)
    (hb : 0x80 ≤ b.toNat) : step t s = .ok s.next := by
  have hne : ∀ c : Char, c.toNat < 0x80 → byteAt? t s.position ≠ some (asciiByte c) := by
    intro c hc heq
    have hbyte := toNat_asciiByte hc
    rw [h, Option.some.injEq] at heq
    rw [← heq] at hbyte
    omega
  rw [step, if_neg (hne '\'' (by decide)), if_neg (hne 'a' (by decide))]
  rfl

/-! ## Where the loop gets to -/

/-- The scans that the loop goes through. -/
inductive Reached (t : Text) : Scan → Prop
  | initial : Reached t .initial
  | step {s s' : Scan} (h : Reached t s) (hend : s.position < size t) (hstep : step t s = .ok s') :
      Reached t s'

/-- What holds of a scan on its way: the text can be cut where the part begins that is being read,
and that place has been passed. -/
structure WellPlaced (t : Text) (s : Scan) : Prop where
  start : IsBoundary t s.start
  start_le : s.start ≤ s.position
  position_le : s.position ≤ size t

theorem wellPlaced_initial (t : Text) : WellPlaced t .initial :=
  ⟨⟨[], t, rfl, rfl⟩, Nat.le_refl 0, Nat.zero_le _⟩

theorem WellPlaced.next {t : Text} {s : Scan} (h : WellPlaced t s) (hend : s.position < size t) :
    WellPlaced t s.next :=
  ⟨h.start, Nat.le_succ_of_le h.start_le, hend⟩

/-- Passing a text that follows, without cutting anything off. -/
theorem WellPlaced.pass {front run rest : Text} {parts : List Text} {start : ℕ}
    (h : WellPlaced (front ++ (run ++ rest)) ⟨parts, start, size front⟩) :
    WellPlaced (front ++ (run ++ rest)) ⟨parts, start, size (front ++ run)⟩ := by
  have hend := isBoundary_append (front ++ run) rest
  rw [List.append_assoc] at hend
  refine ⟨h.start, h.start_le.trans ?_, hend.le_size⟩
  exact (isBoundary_append front run).le_size

/-- Cutting off all that has been read. -/
theorem wellPlaced_append (parts : List Text) (front back : Text) :
    WellPlaced (front ++ back) ⟨parts, size front, size front⟩ :=
  ⟨isBoundary_append front back, Nat.le_refl _, (isBoundary_append front back).le_size⟩

/-- The loop never fails to take its next turn. -/
theorem exists_step {t : Text} {s : Scan} (h : WellPlaced t s) (hend : s.position < size t) :
    ∃ s', step t s = .ok s' ∧ WellPlaced t s' := by
  obtain ⟨parts, start, position⟩ := s
  obtain ⟨b, hbyte⟩ := byteAt?_isSome hend
  rcases Nat.lt_or_ge b.toNat 0x80 with hascii | habove
  · obtain ⟨front, c, back, rfl, rfl, -⟩ := exists_of_byteAt?_ascii hbyte hascii
    obtain ⟨done, others, hdone, rfl⟩ := h.start
    obtain ⟨current, rfl, -⟩ := exists_append_of_size_le hdone.symm h.start_le
    cases hquote : quote? (done ++ current).getLast? (c :: back) with
    | some found =>
        obtain ⟨run, rest⟩ := found
        have hstep := step_of_quote parts (size done) hquote
        rw [(quote?_eq_some hquote).1] at h hstep ⊢
        exact ⟨_, hstep, h.pass⟩
    | none =>
        cases hsep : separator? (done ++ current).getLast? (c :: back) with
        | some rest =>
            have hstep := step_of_separator parts hsep
            have htext : c :: back = "and".toList ++ rest := (separator?_eq_some hsep).1
            rw [htext, ← List.append_assoc] at hstep ⊢
            exact ⟨_, hstep, wellPlaced_append ..⟩
        | none => exact ⟨_, step_of_plain parts (size done) hquote hsep, h.next hend⟩
  · exact ⟨_, step_of_byte hbyte habove, h.next hend⟩

theorem Reached.wellPlaced {t : Text} {s : Scan} (h : Reached t s) : WellPlaced t s := by
  induction h with
  | initial => exact wellPlaced_initial t
  | step _ hend hstep ih =>
      obtain ⟨s', hs', hplaced⟩ := exists_step ih hend
      rw [hs'] at hstep
      cases hstep
      exact hplaced

/-! ## What the loop returns -/

theorem scanFrom_of_step {t : Text} {s s' : Scan} (hend : s.position < size t)
    (hstep : step t s = .ok s') : scanFrom t s = scanFrom t s' := by
  rw [scanFrom, if_pos hend]
  split
  · rename_i h
    rw [hstep] at h
    cases h
  · rename_i h
    rw [hstep] at h
    cases h
    rfl

/-- Past a character that begins nothing the loop goes byte by byte. -/
theorem scanFrom_of_plain {front back : Text} {c : Char} (parts : List Text) (start : ℕ)
    (hquote : quote? front.getLast? (c :: back) = none)
    (hsep : separator? front.getLast? (c :: back) = none) :
    scanFrom (front ++ c :: back) ⟨parts, start, size front⟩ =
      scanFrom (front ++ c :: back) ⟨parts, start, size (front ++ [c])⟩ := by
  have hbytes : ∀ k ≤ size [c], scanFrom (front ++ c :: back) ⟨parts, start, size front⟩ =
      scanFrom (front ++ c :: back) ⟨parts, start, size front + k⟩ := by
    intro k hk
    induction k with
    | zero => rfl
    | succ k ih =>
        have hend : size front + k < size (front ++ c :: back) := by
          rw [size_append, size_cons]
          omega
        rw [ih (Nat.le_of_succ_le hk)]
        refine scanFrom_of_step hend ?_
        rcases Nat.lt_or_ge c.toNat 0x80 with hascii | habove
        · -- one byte, and this is where it stands
          rw [size_singleton, encodeChar_of_ascii hascii, List.length_singleton] at hk
          obtain rfl : k = 0 := by omega
          exact step_of_plain parts start hquote hsep
        · obtain ⟨b, hb⟩ := byteAt?_isSome hend
          have hmem : b ∈ Utf8.encodeChar c := by
            rw [byteAt?_append hk] at hb
            exact List.mem_of_getElem? hb
          exact step_of_byte hb (le_of_mem_encodeChar habove b hmem)
  rw [size_append]
  exact hbytes (size [c]) (Nat.le_refl _)

/-- From anywhere on its way the loop returns what reading the rest gives.  Here `done` has been cut
off, and `current` belongs to the part that is being read. -/
theorem scanFrom_eq (done current back : Text) (parts : List Text) :
    scanFrom (done ++ current ++ back) ⟨parts, size done, size (done ++ current)⟩ =
      .ok (trimAll (parts ++
        (between (tokens (done ++ current).getLast? back)).modifyHead (current ++ ·))) := by
  generalize hb : (done ++ current).getLast? = b
  fun_induction tokens b back generalizing done current parts with
  | case1 b =>
      rw [List.append_nil, scanFrom, if_neg (Nat.lt_irrefl _), finish, cut_append]
      simp [between]
  | case2 b c t run rest hquote ih =>
      subst hb
      obtain ⟨htext, -, -, inner, hinner⟩ := quote?_eq_some hquote
      have hstep := step_of_quote parts (size done) hquote
      have hrest := ih done (current ++ run) parts (by
        rw [hinner, ← List.cons_append, ← List.append_assoc, ← List.append_assoc,
          List.getLast?_concat])
      have hwhole : done ++ (current ++ run) ++ rest = done ++ current ++ c :: t := by
        rw [htext, List.append_assoc, List.append_assoc, List.append_assoc]
      rw [List.append_assoc done current run] at hstep
      rw [hwhole] at hrest
      rw [scanFrom_of_step (size_lt_size_append_cons ..) hstep, hrest,
        between_cons_of_ne (by simp), List.modifyHead_modifyHead]
      simp [Function.comp_def, Token.text]
  | case3 b c t hquote rest hsep ih =>
      subst hb
      have hstep := step_of_separator parts hsep
      have htext : c :: t = "and".toList ++ rest := (separator?_eq_some hsep).1
      have hrest := ih (done ++ current ++ "and".toList) [] (parts ++ [current]) (by simp)
      have hbetween : between (.separator :: tokens (some 'd') rest) =
          [] :: between (tokens (some 'd') rest) :=
        between_append_separator [] _
      rw [List.append_nil, modifyHead_nil_append, List.append_assoc _ "and".toList,
        ← htext] at hrest
      rw [scanFrom_of_step (size_lt_size_append_cons ..) hstep, hrest, hbetween]
      simp
  | case4 b c t hquote hsep ih =>
      subst hb
      have hrest := ih done (current ++ [c]) parts (by
        rw [← List.append_assoc, List.getLast?_concat])
      have hwhole : done ++ (current ++ [c]) ++ t = done ++ current ++ c :: t := by
        rw [List.append_assoc, List.append_assoc, List.append_assoc, List.singleton_append]
      rw [hwhole, ← List.append_assoc] at hrest
      rw [scanFrom_of_plain parts (size done) hquote hsep, hrest, between_cons_of_ne (by simp),
        List.modifyHead_modifyHead]
      simp [Function.comp_def, Token.text]

/-- The scanner and the reader by tokens find the same clauses. -/
theorem scan_eq (t : Text) : scan t = .ok (clauses t) := by
  have h := scanFrom_eq [] [] t []
  rw [modifyHead_nil_append] at h
  exact h

/-! ## The end of a run -/

/-- What the end of a run is. -/
theorem nextRun_of_runEnd {front run rest : Text}
    (hquote : quote? front.getLast? (run ++ rest) = some (run, rest)) :
    ∃ j, NextRun (front ++ (run ++ rest)) front.length front.length j ∧
      size front + size run = offset (front ++ (run ++ rest)) j + 1 ∧ 2 ≤ size run := by
  obtain ⟨-, -, -, inner, hinner⟩ := quote?_eq_some hquote
  refine ⟨_, nextRun_of_quote?_eq_some hquote, ?_⟩
  have hjoined : front ++ (run ++ rest) = front ++ '\'' :: inner ++ ('\'' :: rest) := by
    rw [hinner]
    simp
  have hlength : front.length + (run.length - 1) = (front ++ '\'' :: inner).length := by
    rw [hinner]
    simp
  have hsize : size run = size ('\'' :: inner) + 1 := by
    rw [hinner, ← List.cons_append, size_append, size_apostrophe]
  rw [hlength, hjoined, offset_length_append, size_append, hsize, size_cons, size_apostrophe]
  omega

/-- Every apostrophe of a text is asked about without a fault, and the answer is where the run ends
that it opens. -/
theorem exists_runEnd {t : Text} {i : ℕ} (h : t[i]? = some '\'') :
    ∃ r, runEnd t (offset t i) = .ok r ∧ (r.isSome = true ↔ OpensAt t i) ∧
      ∀ stop, r = some stop → ∃ j, NextRun t i i j ∧ stop = offset t j + 1 ∧
        offset t i + 2 ≤ stop ∧ stop ≤ size t ∧ IsBoundary t stop := by
  obtain ⟨front, back, rfl, rfl⟩ := exists_append_of_getElem? h
  rw [offset_length_append, runEnd_eq]
  refine ⟨_, rfl, ?_, ?_⟩
  · rw [Option.isSome_map]
    cases hquote : quote? front.getLast? ('\'' :: back) with
    | none => simpa using not_opensAt_of_quote?_eq_none hquote
    | some found => simpa using (nextRun_of_quote?_eq_some hquote).opensAt
  · intro stop hstop
    obtain ⟨⟨run, rest⟩, hquote, rfl⟩ := Option.map_eq_some_iff.mp hstop
    obtain ⟨htext, -⟩ := quote?_eq_some hquote
    rw [htext] at hquote ⊢
    obtain ⟨j, hnext, hj, htwo⟩ := nextRun_of_runEnd hquote
    have hend := isBoundary_append (front ++ run) rest
    rw [size_append, List.append_assoc] at hend
    exact ⟨j, hnext, hj, Nat.add_le_add_left htwo _, hend.le_size, hend⟩

/-! ## The main statement -/

/-- **The scanner gets through every text.**

* A byte that looks like an apostrophe is one.
* Wherever an apostrophe stands, `runEnd` finds an end just if a quote opens there; it lies one byte
  behind the nearest apostrophe that can close, at least two behind the opening one and within the
  text, and the text can be cut there.
* Every turn of the loop succeeds, which means that it cuts the text only between characters; it
  goes forward, and not past the end.
* The loop returns the clauses. -/
theorem scan_advances (t : Text) :
    (∀ opening, byteAt? t opening = some (asciiByte '\'') ↔
      ∃ i, t[i]? = some '\'' ∧ offset t i = opening) ∧
    (∀ i, t[i]? = some '\'' → ∃ r, runEnd t (offset t i) = .ok r ∧
      (r.isSome = true ↔ OpensAt t i) ∧
      ∀ stop, r = some stop → ∃ j, NextRun t i i j ∧ stop = offset t j + 1 ∧
        offset t i + 2 ≤ stop ∧ stop ≤ size t ∧ IsBoundary t stop) ∧
    (∀ s, Reached t s → s.position < size t →
      ∃ s', step t s = .ok s' ∧ s.position < s'.position ∧ s'.position ≤ size t) ∧
    scan t = .ok (clauses t) := by
  refine ⟨fun opening => byteAt?_eq_asciiByte_iff_getElem? (by decide), fun i h => exists_runEnd h,
    fun s hs hend => ?_, scan_eq t⟩
  obtain ⟨s', hstep, hplaced⟩ := exists_step hs.wellPlaced hend
  exact ⟨s', hstep, position_lt_of_step hstep, hplaced.position_le⟩

/-- A value with characters of two bytes at its apostrophes, two of which stand side by side, and
behind it a quote that is left open. -/
def crowded : Text := "é ('ü''é') and 'x".toList

/-- The first apostrophe of `crowded` opens a run that ends at the fourth one, the last opens
none, and the clauses are these two. -/
theorem scan_advances_crowded :
    (∃ j, NextRun crowded 3 3 j ∧ offset crowded j = 11) ∧ ¬ OpensAt crowded 15 ∧
      (∃ s, step crowded .initial = .ok s ∧ 0 < s.position ∧ s.position ≤ size crowded) ∧
      clauses crowded = ["é ('ü''é')".toList, "'x".toList] := by
  obtain ⟨-, hruns, hturns, hclauses⟩ := scan_advances crowded
  obtain ⟨r, hr, -, hend⟩ := hruns 3 (by decide)
  obtain ⟨r', hr', hopens, -⟩ := hruns 15 (by decide)
  have hfirst : runEnd crowded (offset crowded 3) = .ok (some 12) := by decide
  have hlast : runEnd crowded (offset crowded 15) = .ok none := by decide
  have hscan : scan crowded = .ok ["é ('ü''é')".toList, "'x".toList] := by cbv
  rw [hfirst, Except.ok.injEq] at hr
  rw [hlast, Except.ok.injEq] at hr'
  obtain ⟨j, hnext, hj, -⟩ := hend 12 hr.symm
  refine ⟨⟨j, hnext, (Nat.succ.inj hj).symm⟩, ?_, hturns .initial .initial (by decide), ?_⟩
  · rw [← hopens, ← hr']
    simp
  · rw [hscan, Except.ok.injEq] at hclauses
    exact hclauses.symm

end QueryOptions.Conjunction
