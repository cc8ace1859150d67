import Mathlib.Data.List.Nodup
import QueryOptions.Proofs.Form.Encoding
import QueryOptions.Proofs.Query.LastValue

/-!
# The mapping that a query spells

A row of pairs is a mapping: a key that comes again has its last value (`Pairs.Last`).  The mapping
is asked for one key at a time (`Pairs.value?`) or shown as a table that has every key once
(`Pairs.table`), and both give the last values and nothing else (`value?_eq_some_iff`,
`mem_table_iff`).

So the mapping of any pairs comes back from the row that spells them, and where no key is given
twice it consists of just these pairs (`decodePairs_encodePairs_mapping`).
-/

namespace QueryOptions.Form

namespace Pairs

variable {pairs : Pairs} {key value : Text}

/-- The pair with the key and the value is there, and no pair behind it has the key. -/
def Last (pairs : Pairs) (key value : Text) : Prop :=
  ∃ before after, pairs = before ++ (key, value) :: after ∧ ∀ pair ∈ after, pair.1 ≠ key

/-! ## One key -/

theorem value?_eq_none_iff : pairs.value? key = none ↔ ∀ pair ∈ pairs, pair.1 ≠ key := by
  unfold value?
  rw [List.getLast?_eq_none_iff, List.map_eq_nil_iff, List.filter_eq_nil_iff]
  simp

/-- **The value of a key** is the one of the last pair that has the key. -/
theorem value?_eq_some_iff : pairs.value? key = some value ↔ pairs.Last key value := by
  induction pairs with
  | nil =>
      refine iff_of_false nofun ?_
      rintro ⟨before, after, hpairs, -⟩
      cases before <;> cases hpairs
  | cons pair pairs ih =>
      rw [value?_cons, Option.or_eq_some_iff, ih, value?_eq_none_iff]
      constructor
      · rintro (⟨before, after, rfl, hafter⟩ | ⟨hpairs, hpair⟩)
        · exact ⟨pair :: before, after, rfl, hafter⟩
        · split at hpair
          · rename_i hkey
            subst hkey
            cases hpair
            exact ⟨[], pairs, rfl, hpairs⟩
          · cases hpair
      · rintro ⟨before, after, hsplit, hafter⟩
        cases before with
        | nil =>
            cases hsplit
            exact Or.inr ⟨hafter, if_pos rfl⟩
        | cons first before =>
            cases hsplit
            exact Or.inl ⟨before, after, rfl, hafter⟩

/-- Where no key is given twice, every pair is the last one with its key. -/
theorem last_iff_mem (h : (pairs.map Prod.fst).Nodup) :
    pairs.Last key value ↔ (key, value) ∈ pairs := by
  constructor
  · rintro ⟨before, after, rfl, -⟩
    simp
  · intro hmem
    obtain ⟨before, after, rfl⟩ := List.append_of_mem hmem
    refine ⟨before, after, rfl, fun pair hpair hkey => ?_⟩
    rw [List.map_append, List.map_cons] at h
    have hafter := (List.nodup_cons.mp h.of_append_right).1
    exact hafter (List.mem_map.mpr ⟨pair, hpair, hkey⟩)

/-! ## All keys -/

/-- **A row of the table** is a key with its value. -/
theorem mem_table_iff : (key, value) ∈ pairs.table ↔ pairs.value? key = some value := by
  unfold table
  rw [List.mem_mergeSort, List.mem_filterMap]
  constructor
  · rintro ⟨key', -, hrow⟩
    obtain ⟨value', hvalue, hpair⟩ := Option.map_eq_some_iff.mp hrow
    cases hpair
    exact hvalue
  · intro hvalue
    obtain ⟨before, after, hpairs, -⟩ := value?_eq_some_iff.mp hvalue
    refine ⟨key, ?_, by rw [hvalue]; rfl⟩
    rw [List.mem_eraseDups, hpairs]
    simp

theorem nodup_eraseDups {α : Type*} [BEq α] [LawfulBEq α] (l : List α) : l.eraseDups.Nodup := by
  -- what is left behind the first element is not the tail but shorter than the list
  induction hn : l.length using Nat.strong_induction_on generalizing l with
  | _ n ih =>
      cases l with
      | nil => simp
      | cons a l =>
          have hlength : (l.filter fun b => !b == a).length ≤ l.length := List.length_filter_le ..
          rw [List.length_cons] at hn
          rw [List.eraseDups_cons, List.nodup_cons]
          refine ⟨fun hmem => ?_, ih _ (by omega) _ rfl⟩
          simpa using List.mem_eraseDups.mp hmem

/-- **A table has every key once.** -/
theorem nodup_keys_table (pairs : Pairs) : (pairs.table.map Prod.fst).Nodup := by
  have hkey : ∀ key found : Text,
      found ∈ ((pairs.value? key).map fun value => (key, value)).map Prod.fst → key = found := by
    intro key found hfound
    rw [Option.map_map, Option.mem_def, Option.map_eq_some_iff] at hfound
    obtain ⟨value, -, rfl⟩ := hfound
    rfl
  unfold table
  rw [((List.mergeSort_perm _ _).map Prod.fst).nodup_iff, List.map_filterMap]
  refine List.Nodup.filterMap (fun key key' found hfound hfound' => ?_) (nodup_eraseDups _)
  exact (hkey key found hfound).trans (hkey key' found hfound').symm

end Pairs

/-- **The mapping of the pairs comes back** from the row that spells them: every key once, with its
last value.  It is made of the pairs themselves where no key is given twice. -/
theorem decodePairs_encodePairs_mapping (pairs : Pairs) :
    ∃ read : Pairs, decodePairs (encodePairs pairs) = .ok read ∧
      (read.table.map Prod.fst).Nodup ∧
      (∀ key value, (key, value) ∈ read.table ↔ pairs.Last key value) ∧
      (∀ key value, read.value? key = some value ↔ pairs.Last key value) ∧
      ((pairs.map Prod.fst).Nodup → read.table.Perm pairs) := by
  have hlast : ∀ key value, (key, value) ∈ pairs.table ↔ pairs.Last key value := fun key value =>
    Pairs.mem_table_iff.trans Pairs.value?_eq_some_iff
  refine ⟨pairs, decodePairs_encodePairs pairs, pairs.nodup_keys_table, hlast,
    fun key value => Pairs.value?_eq_some_iff, fun hkeys => ?_⟩
  have htable := pairs.nodup_keys_table
  rw [List.perm_ext_iff_of_nodup htable.of_map hkeys.of_map]
  rintro ⟨key, value⟩
  rw [hlast, Pairs.last_iff_mem hkeys]

/-- Pairs with an empty key, an empty value, signs that separate, escape or stand for a space,
control characters and characters of two and four bytes. -/
def awkward : Pairs :=
  [([], "a&b=c".toList), ("1+1=2 %41".toList, []), ("\x00\n".toList, "é😀'".toList)]

theorem decodePairs_encodePairs_mapping_awkward :
    (awkward.map Prod.fst).Nodup ∧
      ∃ read : Pairs, decodePairs (encodePairs awkward) = .ok read ∧ read.table.Perm awkward := by
  have hkeys : (awkward.map Prod.fst).Nodup := by decide
  obtain ⟨read, hread, -, -, -, htable⟩ := decodePairs_encodePairs_mapping awkward
  exact ⟨hkeys, read, hread, htable hkeys⟩

example : encodePairs awkward =
    "=a%26b%3Dc&1%2B1%3D2+%2541=&%00%0A=%C3%A9%F0%9F%98%80%27".toList := by decide +kernel

end QueryOptions.Form
