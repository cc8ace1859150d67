import QueryOptions.Proofs.Text.Trim

/-!
# Words and list parts

`Text.words` cuts a text at its blanks and `Text.items` at a separator; both drop what is empty.

The words of a text are those that stand in it with blanks between them (`words_eq_iff`), and the
items are its parts that are not blank, trimmed (`items_eq_map_trim`).  The two agree on what a
blank is: trimming takes no word away (`words_trim`), and a part without a word is blank
(`allBlank_of_hasWords_nil`).

A text that is already one word or a join of parts is cut just there (`words_eq_singleton`,
`items_join`).  With that, cutting at a separator turns what stands on its two sides into two lists
of parts, and joining is its section (`items_homomorphic`).
-/

namespace QueryOptions.Text

/-- A piece of a split is made of elements that were not split on.  The induction is on the
length: a list that holds a separator falls into two shorter ones. -/
theorem of_mem_splitOnP {α : Type*} {p : α → Bool} {l w : List α} (hw : w ∈ l.splitOnP p) :
    ∀ c ∈ w, p c = false ∧ c ∈ l := by
  induction hn : l.length using Nat.strong_induction_on generalizing l with
  | _ n ih =>
      by_cases hfree : ∀ c ∈ l, p c = false
      · rw [List.splitOnP_eq_singleton hfree, List.mem_singleton] at hw
        subst hw
        exact fun c hc => ⟨hfree c hc, hc⟩
      · push Not at hfree
        obtain ⟨s, hs, hsep⟩ := hfree
        obtain ⟨front, back, rfl⟩ := List.append_of_mem hs
        rw [List.splitOnP_append_cons front back (by simpa using hsep), List.mem_append] at hw
        simp only [List.length_append, List.length_cons] at hn
        intro c hc
        rcases hw with hw | hw
        · obtain ⟨hp, hmem⟩ := ih front.length (by omega) hw rfl c hc
          exact ⟨hp, by simp [hmem]⟩
        · obtain ⟨hp, hmem⟩ := ih back.length (by omega) hw rfl c hc
          exact ⟨hp, by simp [hmem]⟩

/-- What is behind the last separator is added to the last piece. -/
theorem exists_splitOnP_append {α : Type*} {p : α → Bool} (us : List α) {vs : List α}
    (hvs : ∀ v ∈ vs, p v = false) :
    ∃ parts last, us.splitOnP p = parts ++ [last] ∧
      (us ++ vs).splitOnP p = parts ++ [last ++ vs] := by
  induction us with
  | nil => exact ⟨[], [], rfl, List.splitOnP_eq_singleton hvs⟩
  | cons u us ih =>
      obtain ⟨parts, last, hus, hboth⟩ := ih
      rw [List.cons_append, List.splitOnP_cons_eq_if_modifyHead,
        List.splitOnP_cons_eq_if_modifyHead, hus, hboth]
      split_ifs with hu
      · exact ⟨[] :: parts, last, rfl, rfl⟩
      · cases parts with
        | nil => exact ⟨[], u :: last, rfl, rfl⟩
        | cons first parts => exact ⟨(u :: first) :: parts, last, rfl, rfl⟩

/-- What is in front of the first separator is added to the first piece. -/
theorem exists_append_splitOnP {α : Type*} {p : α → Bool} {us : List α}
    (hus : ∀ u ∈ us, p u = false) (vs : List α) :
    ∃ first parts, vs.splitOnP p = first :: parts ∧
      (us ++ vs).splitOnP p = (us ++ first) :: parts := by
  induction us with
  | nil =>
      obtain ⟨first, parts, hvs⟩ := List.exists_cons_of_ne_nil (List.splitOnP_ne_nil p vs)
      exact ⟨first, parts, hvs, hvs⟩
  | cons u us ih =>
      obtain ⟨hu, hus⟩ := List.forall_mem_cons.mp hus
      obtain ⟨first, parts, hvs, hboth⟩ := ih hus
      refine ⟨first, parts, hvs, ?_⟩
      rw [List.cons_append, List.splitOnP_cons_eq_if_modifyHead, hboth, hu]
      rfl

/-! ## Words -/

theorem mem_words {t w : Text} (hw : w ∈ t.words) :
    w ≠ [] ∧ (∀ c ∈ w, isBlank c = false) ∧ ∀ c ∈ w, c ∈ t := by
  obtain ⟨hsplit, hne⟩ := List.mem_filter.mp hw
  refine ⟨by simpa using hne, fun c hc => ?_, fun c hc => ?_⟩
  · exact (of_mem_splitOnP hsplit c hc).1
  · exact (of_mem_splitOnP hsplit c hc).2

/-- A text that holds no blank is its only word. -/
theorem words_eq_singleton {w : Text} (hne : w ≠ []) (hw : ∀ c ∈ w, isBlank c = false) :
    words w = [w] := by
  unfold words
  rw [List.splitOnP_eq_singleton hw]
  simp [hne]

theorem words_append_blank {c : Char} (hc : isBlank c = true) (t u : Text) :
    words (t ++ c :: u) = words t ++ words u := by
  unfold words
  rw [List.splitOnP_append_cons t u hc, List.filter_append]

/-- Blanks in front belong to no word. -/
theorem words_blanks_append {m : Text} (hm : AllBlank m) (t : Text) : words (m ++ t) = words t := by
  induction m with
  | nil => rfl
  | cons c m ih =>
      obtain ⟨hc, hm⟩ := List.forall_mem_cons.mp hm
      exact (words_append_blank hc [] (m ++ t)).trans (ih hm)

/-- The words of a text in their order, with blanks in front of them, between them and behind them,
and none within a word. -/
inductive HasWords : Text → List Text → Prop
  | nil {b : Text} (hb : AllBlank b) : HasWords b []
  | cons {b w t : Text} {ws : List Text} (hb : AllBlank b) (hne : w ≠ [])
      (hw : ∀ c ∈ w, isBlank c = false) (hend : ∀ c ∈ t.head?, isBlank c = true)
      (h : HasWords t ws) : HasWords (b ++ (w ++ t)) (w :: ws)

theorem words_append_word {w t : Text} (hne : w ≠ []) (hw : ∀ c ∈ w, isBlank c = false)
    (hend : ∀ c ∈ t.head?, isBlank c = true) : words (w ++ t) = w :: words t := by
  cases t with
  | nil =>
      rw [List.append_nil, words_eq_singleton hne hw]
      rfl
  | cons c t =>
      have hc : isBlank c = true := hend c rfl
      have hskip : words (c :: t) = words t := words_append_blank hc [] t
      rw [words_append_blank hc, words_eq_singleton hne hw, hskip]
      rfl

theorem words_of_hasWords {t : Text} {ws : List Text} (h : HasWords t ws) : words t = ws := by
  induction h with
  | nil hb =>
      have hnone := words_blanks_append hb []
      rwa [List.append_nil] at hnone
  | cons hb hne hw hend _ ih => rw [words_blanks_append hb, words_append_word hne hw hend, ih]

theorem exists_hasWords (t : Text) : ∃ ws, HasWords t ws := by
  -- a word takes one character or more, so the induction is on the length
  induction hn : t.length using Nat.strong_induction_on generalizing t with
  | _ n ih =>
      obtain ⟨b, hb, hstart⟩ := exists_eq_append_trimStart t
      cases hcore : t.trimStart with
      | nil =>
          rw [hcore, List.append_nil] at hstart
          exact ⟨[], hstart ▸ .nil hb⟩
      | cons c core =>
          have hc : isBlank c = false := head?_trimStart t c (by rw [hcore]; rfl)
          have hcut : core = core.takeWhile (!isBlank ·) ++ core.dropWhile (!isBlank ·) :=
            List.takeWhile_append_dropWhile.symm
          have hlength := congrArg List.length hcut
          rw [hcore] at hstart
          rw [hstart] at hn
          simp only [List.length_append, List.length_cons] at hn hlength
          obtain ⟨ws, hws⟩ := ih (core.dropWhile (!isBlank ·)).length (by omega) _ rfl
          have hword : ∀ d ∈ c :: core.takeWhile (!isBlank ·), isBlank d = false :=
            List.forall_mem_cons.mpr
              ⟨hc, fun d hd => by simpa using List.mem_takeWhile_imp hd⟩
          have hend : ∀ d ∈ (core.dropWhile (!isBlank ·)).head?, isBlank d = true := by
            intro d hd
            have hhead := List.head?_dropWhile_not (!isBlank ·) core
            rw [Option.mem_def.mp hd] at hhead
            simpa using hhead
          have hwords := HasWords.cons hb (List.cons_ne_nil _ _) hword hend hws
          rw [List.cons_append, ← hcut, ← hstart] at hwords
          exact ⟨_, hwords⟩

/-- **The words of a text** are the ones that `words` finds. -/
theorem words_eq_iff {t : Text} {ws : List Text} : words t = ws ↔ HasWords t ws := by
  refine ⟨fun h => ?_, words_of_hasWords⟩
  obtain ⟨ws', hws'⟩ := exists_hasWords t
  rw [← h, words_of_hasWords hws']
  exact hws'

theorem words_append_blanks {r : Text} (hr : AllBlank r) (t : Text) : words (t ++ r) = words t := by
  cases r with
  | nil => rw [List.append_nil]
  | cons c r =>
      obtain ⟨hc, hr⟩ := List.forall_mem_cons.mp hr
      rw [words_append_blank hc, words_of_hasWords (.nil hr), List.append_nil]

/-- Trimming and cutting at blanks have one notion of a blank, so a trimmed text has the same
words. -/
theorem words_trim (t : Text) : words t.trim = words t := by
  obtain ⟨l, r, hl, hr, ht⟩ := exists_eq_append_trim_append t
  conv_rhs => rw [ht]
  rw [words_append_blanks hr, words_blanks_append hl]

/-- A text has no words only if there is nothing else in it but blanks. -/
theorem allBlank_of_hasWords_nil {t : Text} (h : HasWords t []) : AllBlank t := by
  cases h with
  | nil hb => exact hb

/-! ## Trimmed parts -/

theorem trimAll_append (ps qs : List Text) : trimAll (ps ++ qs) = trimAll ps ++ trimAll qs := by
  simp [trimAll]

theorem trimAll_cons_of_ne_nil {p : Text} (hp : p.trim ≠ []) (ps : List Text) :
    trimAll (p :: ps) = p.trim :: trimAll ps :=
  List.filter_cons_of_pos (by simpa using hp)

theorem trimAll_cons_of_eq_nil {p : Text} (hp : p.trim = []) (ps : List Text) :
    trimAll (p :: ps) = trimAll ps :=
  List.filter_cons_of_neg (by simp [hp])

/-- Only the trims of the parts count. -/
theorem trimAll_congr {ps qs : List Text} (h : ps.map trim = qs.map trim) :
    trimAll ps = trimAll qs := by
  unfold trimAll
  rw [h]

theorem mem_trimAll {ps : List Text} {p : Text} (hp : p ∈ trimAll ps) :
    p ≠ [] ∧ p.trim = p ∧ ∃ q ∈ ps, p = q.trim := by
  obtain ⟨hmap, hne⟩ := List.mem_filter.mp hp
  obtain ⟨q, hq, rfl⟩ := List.mem_map.mp hmap
  exact ⟨by simpa using hne, trim_trim q, q, hq, rfl⟩

/-- Parts that are trimmed and not empty stay as they are. -/
theorem trimAll_eq_self {ps : List Text} (hps : ∀ p ∈ ps, p ≠ [] ∧ p.trim = p) :
    trimAll ps = ps := by
  unfold trimAll
  rw [List.map_congr_left fun p hp => (hps p hp).2, List.map_id']
  exact List.filter_eq_self.mpr fun p hp => by simpa using (hps p hp).1

/-! ## Joined parts -/

theorem join_cons (separator p : Text) (ps : List Text) :
    join separator (p :: ps) = p ++ ps.flatMap (separator ++ ·) := by
  induction ps generalizing p with
  | nil => simp [join]
  | cons q ps ih =>
      unfold join at ih ⊢
      rw [List.intercalate_cons_cons, ih, List.flatMap_cons, List.append_assoc, List.append_assoc]

theorem join_append {ps : List Text} (hps : ps ≠ []) (separator : Text) (qs : List Text) :
    join separator (ps ++ qs) = join separator ps ++ qs.flatMap (separator ++ ·) := by
  obtain ⟨p, ps, rfl⟩ := List.exists_cons_of_ne_nil hps
  rw [List.cons_append, join_cons, join_cons, List.flatMap_append, List.append_assoc]

/-- A separator in front of every part is one in front of their join. -/
theorem flatMap_separator {ps : List Text} (hps : ps ≠ []) (separator : Text) :
    ps.flatMap (separator ++ ·) = separator ++ join separator ps := by
  obtain ⟨p, ps, rfl⟩ := List.exists_cons_of_ne_nil hps
  rw [join_cons, List.flatMap_cons, List.append_assoc]

/-- A separator behind every part is one behind their join. -/
theorem join_append_separator {ps : List Text} (hps : ps ≠ []) (separator : Text) :
    join separator ps ++ separator = ps.flatMap (· ++ separator) := by
  induction ps with
  | nil => exact absurd rfl hps
  | cons p ps ih =>
      cases ps with
      | nil => simp [join]
      | cons q ps =>
          have hne : q :: ps ≠ [] := List.cons_ne_nil _ _
          rw [join_cons, flatMap_separator hne, List.flatMap_cons, ← ih hne]
          simp only [List.append_assoc]

/-! ## Separated lists -/

/-- The parts of a separated list that are not blank, as they are written. -/
def filledParts (separator : Char) (t : Text) : List Text :=
  (t.splitOn separator).filter fun part => ¬ AllBlank part

theorem not_allBlank_of_mem_filledParts {separator : Char} {t part : Text}
    (h : part ∈ filledParts separator t) : ¬ AllBlank part :=
  of_decide_eq_true (List.mem_filter.mp h).2

theorem items_eq_map_trim (separator : Char) (t : Text) :
    items separator t = (filledParts separator t).map trim := by
  unfold items trimAll filledParts
  rw [List.filter_map]
  congr 1
  refine List.filter_congr fun part _ => ?_
  rw [Bool.eq_iff_iff]
  simp [← trim_eq_nil_iff]

/-- A part of a separated list is not empty, is trimmed, and does not hold the separator. -/
theorem mem_items {separator : Char} {t p : Text} (hp : p ∈ items separator t) :
    p ≠ [] ∧ p.trim = p ∧ separator ∉ p := by
  obtain ⟨hne, htrim, q, hq, rfl⟩ := mem_trimAll hp
  refine ⟨hne, htrim, fun hmem => ?_⟩
  rw [List.splitOn_eq_splitOnP] at hq
  have hsplit := (of_mem_splitOnP hq _ (mem_of_mem_trim hmem)).1
  simp at hsplit

/-- A separator cuts a list in two, whatever stands on its sides. -/
theorem items_append_cons (separator : Char) (t u : Text) :
    items separator (t ++ separator :: u) = items separator t ++ items separator u := by
  unfold items
  rw [List.splitOn_eq_splitOnP, List.splitOn_eq_splitOnP, List.splitOn_eq_splitOnP,
    List.splitOnP_append_cons t u (by simp), trimAll_append]

/-- A list without a separator has one part, unless it is blank. -/
theorem items_of_not_mem {separator : Char} {t : Text} (h : separator ∉ t) :
    items separator t = if AllBlank t then [] else [t.trim] := by
  have hfree : ∀ c ∈ t, (c == separator) = false := by
    intro c hc
    rw [beq_eq_false_iff_ne]
    rintro rfl
    exact h hc
  unfold items
  rw [List.splitOn_eq_splitOnP, List.splitOnP_eq_singleton hfree]
  split
  · rename_i hblank
    exact trimAll_cons_of_eq_nil (trim_eq_nil_iff.mpr hblank) []
  · rename_i hblank
    exact trimAll_cons_of_ne_nil (fun hnil => hblank (trim_eq_nil_iff.mp hnil)) []

/-- Joined by the separator, parts without it are found again but for the blanks around them. -/
theorem items_join_eq_trimAll {separator : Char} {ps : List Text} (hps : ∀ p ∈ ps, separator ∉ p) :
    items separator (join [separator] ps) = trimAll ps := by
  rcases eq_or_ne ps [] with rfl | hne
  · rfl
  · unfold items join
    rw [List.splitOn_intercalate separator hps hne]

/-- Parts joined by the separator are found again, each as it was. -/
theorem items_join {separator : Char} {ps : List Text}
    (hps : ∀ p ∈ ps, p ≠ [] ∧ p.trim = p ∧ separator ∉ p) :
    items separator (join [separator] ps) = ps := by
  rw [items_join_eq_trimAll fun p hp => (hps p hp).2.2]
  exact trimAll_eq_self fun p hp => ⟨(hps p hp).1, (hps p hp).2.1⟩

/-- Blanks around a list leave no trace in its parts. -/
theorem items_of_padded {separator : Char} (hsep : isBlank separator = false) {t p : Text}
    (h : Padded t p) : items separator p = items separator t := by
  obtain ⟨l, r, hl, hr, rfl⟩ := h
  have hfree : ∀ m, AllBlank m → ∀ c ∈ m, (c == separator) = false := by
    intro m hm c hc
    rw [beq_eq_false_iff_ne]
    rintro rfl
    exact hm.not_mem hsep hc
  unfold items
  rw [List.splitOn_eq_splitOnP, List.splitOn_eq_splitOnP]
  obtain ⟨first, parts, hright, hboth⟩ := exists_append_splitOnP (hfree l hl) (t ++ r)
  obtain ⟨parts', last, ht, hbehind⟩ := exists_splitOnP_append t (hfree r hr)
  calc trimAll ((l ++ (t ++ r)).splitOnP (· == separator))
      = trimAll ((t ++ r).splitOnP (· == separator)) := by
        rw [hright, hboth]
        apply trimAll_congr
        simp [trim_append_of_blank_left hl]
    _ = trimAll (t.splitOnP (· == separator)) := by
        rw [ht, hbehind]
        apply trimAll_congr
        simp [trim_append_of_blank hr]

/-! ## Cutting and joining -/

/-- **Cutting at a separator and joining with it.**  The parts of two lists with a separator between
them are those of the one and then those of the other; what can be a part is found again where it
was joined, and nothing else is; so the parts of a list are those of their join.  The separator may
be any character, a blank one too. -/
theorem items_homomorphic (separator : Char) :
    (∀ t u, items separator (t ++ separator :: u) = items separator t ++ items separator u) ∧
      (∀ t, separator ∉ t → items separator t = if AllBlank t then [] else [t.trim]) ∧
      (∀ t, ∀ p ∈ items separator t, p ≠ [] ∧ p.trim = p ∧ separator ∉ p) ∧
      (∀ ps, items separator (join [separator] ps) = ps ↔
        ∀ p ∈ ps, p ≠ [] ∧ p.trim = p ∧ separator ∉ p) ∧
      ∀ t, items separator (join [separator] (items separator t)) = items separator t := by
  refine ⟨items_append_cons separator, fun t => items_of_not_mem, fun t p => mem_items,
    fun ps => ⟨fun h p hp => ?_, items_join⟩, fun t => items_join fun p => mem_items⟩
  rw [← h] at hp
  exact mem_items hp

/-- With a space for the separator, tabs and a wide space are still trimmed away. -/
theorem items_homomorphic_spaces :
    items ' ' "\ta b  \t \u3000c\t d".toList = ["a".toList, "b".toList, "c".toList, "d".toList] ∧
      (∀ p ∈ ["a".toList, "b".toList, "c".toList, "d".toList],
        p ≠ [] ∧ trim p = p ∧ ' ' ∉ p) ∧
      items ' ' "a b c d".toList = ["a".toList, "b".toList, "c".toList, "d".toList] := by
  have hparts : items ' ' "\ta b  \t \u3000c\t d".toList =
      ["a".toList, "b".toList, "c".toList, "d".toList] := by decide +kernel
  obtain ⟨-, -, hitem, hjoin, -⟩ := items_homomorphic ' '
  have hall : ∀ p ∈ ["a".toList, "b".toList, "c".toList, "d".toList],
      p ≠ [] ∧ trim p = p ∧ ' ' ∉ p := by
    rw [← hparts]
    exact hitem _
  exact ⟨hparts, hall, (hjoin _).mpr hall⟩

end QueryOptions.Text
