import QueryOptions.Json.Value
import QueryOptions.Proofs.Text.Parts

/-!
# The lines of a JSON value

A value that is written over many lines is a row of lines, and `lines` says what they are without
counting brackets.  What stands in brackets is moved two blanks to the right, the name of a field
stands in front of the first line of its value, and a comma stands behind the last line of every
item but the last.  The writer counts the open brackets instead, and begins each line with two
blanks for each.  Both come to the same text,

```text
  write .pretty depth v  =  the lines of v, with a line feed and 2 * depth blanks between them
```

which is `write_pretty`.
-/

namespace QueryOptions.Json

open Text

/-! ## What the lines are -/

/-- A line moved to the right. -/
def indented (line : Text) : Text := ' ' :: ' ' :: line

/-- Some lines with a comma behind them. -/
def withComma : List Text → List Text
  | [] => []
  | [line] => [line ++ [',']]
  | line :: next :: others => line :: withComma (next :: others)

/-- Blocks of lines, one below the other, with commas between them. -/
def separated : List (List Text) → List Text
  | [] => []
  | [block] => block
  | block :: next :: others => withComma block ++ separated (next :: others)

/-- Some lines with the name of a field in front of them. -/
def named (name : Option Text) (ls : List Text) : List Text :=
  ls.modifyHead (stringText (name.getD []) ++ ": ".toList ++ ·)

/-- Lines inside brackets. -/
def bracketed (opening closing : Char) (ls : List Text) : List Text :=
  [opening] :: (ls.map indented ++ [[closing]])

mutual

/-- The lines of a value. -/
def lines : Json → List Text
  | null => ["null".toList]
  | boolean true => ["true".toList]
  | boolean false => ["false".toList]
  | number n => [n.text]
  | string s => [stringText (s.getD [])]
  | array [] => ["[]".toList]
  | array (item :: items) => bracketed '[' ']' (separated (lines item :: itemLines items))
  | object [] => ["\x7b\x7d".toList]
  | object ((name, value) :: fields) =>
    bracketed '\x7b' '\x7d' (separated (named name (lines value) :: fieldLines fields))

/-- The lines of each item. -/
def itemLines : List Json → List (List Text)
  | [] => []
  | item :: items => lines item :: itemLines items

/-- The lines of each field. -/
def fieldLines : List (Option Text × Json) → List (List Text)
  | [] => []
  | (name, value) :: fields => named name (lines value) :: fieldLines fields

end

/-! ## Lines in a text -/

theorem withComma_ne_nil {ls : List Text} (hls : ls ≠ []) : withComma ls ≠ [] := by
  fun_cases withComma ls with
  | case1 => exact hls
  | case2 line => exact List.cons_ne_nil _ _
  | case3 line next others => exact List.cons_ne_nil _ _

theorem join_withComma {ls : List Text} (hls : ls ≠ []) (separator : Text) :
    join separator (withComma ls) = join separator ls ++ [','] := by
  fun_induction withComma ls with
  | case1 => exact absurd rfl hls
  | case2 line => simp [join]
  | case3 line next others ih =>
      have hne : next :: others ≠ [] := List.cons_ne_nil _ _
      rw [join_cons _ line, join_cons _ line, flatMap_separator (withComma_ne_nil hne),
        flatMap_separator hne, ih hne]
      simp only [List.append_assoc]

theorem separated_ne_nil {block : List Text} (hblock : block ≠ []) (blocks : List (List Text)) :
    separated (block :: blocks) ≠ [] := by
  cases blocks with
  | nil => exact hblock
  | cons next others =>
      rw [separated]
      exact List.append_ne_nil_of_left_ne_nil (withComma_ne_nil hblock) _

/-- Between two blocks stand a comma and what stands between two lines. -/
theorem join_separated {block : List Text} {blocks : List (List Text)} (hblock : block ≠ [])
    (hblocks : ∀ b ∈ blocks, b ≠ []) (separator : Text) :
    join separator (separated (block :: blocks)) =
      join separator block ++ blocks.flatMap fun b => ',' :: (separator ++ join separator b) := by
  induction blocks generalizing block with
  | nil => simp [separated]
  | cons next blocks ih =>
      obtain ⟨hnext, hblocks⟩ := List.forall_mem_cons.mp hblocks
      rw [separated, join_append (withComma_ne_nil hblock), join_withComma hblock,
        flatMap_separator (separated_ne_nil hnext blocks), ih hnext hblocks]
      simp

theorem join_named {ls : List Text} (hls : ls ≠ []) (name : Option Text) (separator : Text) :
    join separator (named name ls) =
      stringText (name.getD []) ++ ": ".toList ++ join separator ls := by
  obtain ⟨line, ls, rfl⟩ := List.exists_cons_of_ne_nil hls
  rw [named, List.modifyHead_cons, join_cons, join_cons, List.append_assoc]

theorem named_ne_nil {ls : List Text} (hls : ls ≠ []) (name : Option Text) :
    named name ls ≠ [] := by
  obtain ⟨line, ls, rfl⟩ := List.exists_cons_of_ne_nil hls
  rw [named, List.modifyHead_cons]
  exact List.cons_ne_nil _ _

/-! ## The text of a value -/

/-- A line that is moved to the right begins as one that has one bracket more around it. -/
theorem lineStart_append_indented (depth : ℕ) (line : Text) :
    Layout.pretty.lineStart depth ++ indented line =
      Layout.pretty.lineStart (depth + 1) ++ line := by
  have hblanks :
      List.replicate (2 * (depth + 1)) ' ' = List.replicate (2 * depth) ' ' ++ [' ', ' '] :=
    List.replicate_append_replicate.symm
  simp [Layout.lineStart, indented, hblanks]

theorem join_bracketed {ls : List Text} (hls : ls ≠ []) (opening closing : Char) (depth : ℕ) :
    join (Layout.pretty.lineStart depth) (bracketed opening closing ls) =
      opening :: (Layout.pretty.lineStart (depth + 1) ++
        join (Layout.pretty.lineStart (depth + 1)) ls ++ Layout.pretty.lineStart depth ++
          [closing]) := by
  rw [bracketed, join_cons, List.flatMap_append, List.flatMap_map]
  simp only [lineStart_append_indented]
  rw [flatMap_separator hls]
  simp

theorem lines_ne_nil (v : Json) : lines v ≠ [] := by
  fun_cases lines v with
  | _ => exact List.cons_ne_nil _ _

theorem ne_nil_of_mem_itemLines {items : List Json} {ls : List Text} (h : ls ∈ itemLines items) :
    ls ≠ [] := by
  induction items with
  | nil => cases h
  | cons item items ih =>
      rcases List.mem_cons.mp h with rfl | h
      · exact lines_ne_nil item
      · exact ih h

theorem ne_nil_of_mem_fieldLines {fields : List (Option Text × Json)} {ls : List Text}
    (h : ls ∈ fieldLines fields) : ls ≠ [] := by
  induction fields with
  | nil => cases h
  | cons field fields ih =>
      rcases List.mem_cons.mp h with rfl | h
      · exact named_ne_nil (lines_ne_nil _) _
      · exact ih h

mutual

/-- **A value is written line by line.**  The brackets around it show in what stands between two
lines. -/
theorem write_pretty (depth : ℕ) : ∀ v : Json,
    write .pretty depth v = join (Layout.pretty.lineStart depth) (lines v)
  | null | boolean true | boolean false | number _ | string _ | array [] | object [] => by
      simp [write, lines, join]
  | array (item :: items) => by
      have hitem := lines_ne_nil item
      rw [write, lines, join_bracketed (separated_ne_nil hitem _),
        join_separated hitem fun _ => ne_nil_of_mem_itemLines, write_pretty (depth + 1) item,
        writeItems_pretty (depth + 1) items]
      simp only [List.append_assoc]
  | object ((name, value) :: fields) => by
      have hvalue := lines_ne_nil value
      have hfield := named_ne_nil hvalue name
      rw [write, lines, join_bracketed (separated_ne_nil hfield _),
        join_separated hfield fun _ => ne_nil_of_mem_fieldLines, join_named hvalue,
        write_pretty (depth + 1) value, writeFields_pretty (depth + 1) fields]
      simp only [List.append_assoc]
      rfl

theorem writeItems_pretty (depth : ℕ) : ∀ items : List Json,
    writeItems .pretty depth items = (itemLines items).flatMap fun ls =>
      ',' :: (Layout.pretty.lineStart depth ++ join (Layout.pretty.lineStart depth) ls)
  | [] => rfl
  | item :: items => by
      rw [writeItems, itemLines, List.flatMap_cons, write_pretty depth item,
        writeItems_pretty depth items]
      rfl

theorem writeFields_pretty (depth : ℕ) : ∀ fields : List (Option Text × Json),
    writeFields .pretty depth fields = (fieldLines fields).flatMap fun ls =>
      ',' :: (Layout.pretty.lineStart depth ++ join (Layout.pretty.lineStart depth) ls)
  | [] => rfl
  | (name, value) :: fields => by
      rw [writeFields, fieldLines, List.flatMap_cons, join_named (lines_ne_nil value),
        write_pretty depth value, writeFields_pretty depth fields]
      simp only [List.append_assoc, List.cons_append]
      rfl

end

/-- Printed with a line feed behind it, a value is its lines, each with a line feed behind it. -/
theorem text_pretty_append (v : Json) :
    v.text .pretty ++ ['\n'] = (lines v).flatMap (· ++ ['\n']) := by
  rw [text, write_pretty]
  exact join_append_separator (lines_ne_nil v) _

end QueryOptions.Json
