import QueryOptions.Proofs.Json.Double
import QueryOptions.Proofs.Json.Reading
import QueryOptions.Proofs.Number.Integral
import QueryOptions.Query.Json

/-!
# Reading back a query from JSON

A query says in JSON which of its fields is which, but not of which type a literal is, nor whether
an operand is one literal or a list.  It is read back nevertheless, since the values that are
written for two types are never the same:

* an integer is a number without point and power of ten, and a double has one of the two;
* a list is an array, and no literal is;
* null is the literal null, and the value of an operand is never left out.

There are two exceptions, and both are doubles.  An infinity and what is no number are written as
null.  And the reader of numbers may round more than once, so that a finite double comes back as
another one (`Json.ReadsBack` says that it does not, and `Json.readsBack_of_decimal` when).  A value
is read back exactly if all its doubles are finite and read back as numbers; for a query this is
`Query.exchanged_iff`, which includes the statements for each of its parts.
-/

namespace QueryOptions

/-! ## Reading what was written -/

theorem mapM_map_eq_some_iff {α β : Type} {f : β → Option α} {g : α → β} {as : List α} :
    (as.map g).mapM f = some as ↔ ∀ a ∈ as, f (g a) = some a := by
  induction as with
  | nil => simp
  | cons a as ih =>
      rw [List.map_cons, List.mapM_cons, List.forall_mem_cons, ← ih]
      constructor
      · intro h
        obtain ⟨b, hb, h⟩ := Option.bind_eq_some_iff.mp h
        obtain ⟨bs, hbs, h⟩ := Option.bind_eq_some_iff.mp h
        cases h
        exact ⟨hb, hbs⟩
      · rintro ⟨hb, hbs⟩
        rw [hb, hbs]
        rfl

namespace Json

/-- The value is read back from its text, in either layout. -/
def Exchanged {α : Type} (toJson : α → Json) (ofJson? : Json → Option α) (a : α) : Prop :=
  ∀ layout, (ofText? ((toJson a).text layout)).bind ofJson? = some a

/-- What the layout is does not matter if there is something to read. -/
theorem exchanged_iff_of_writable {α : Type} {toJson : α → Json} {ofJson? : Json → Option α} {a : α}
    (h : Writable (toJson a)) : Exchanged toJson ofJson? a ↔ ofJson? (toJson a) = some a := by
  have hread : ∀ layout, (ofText? ((toJson a).text layout)).bind ofJson? = ofJson? (toJson a) := by
    intro layout
    rw [h.ofText?_text, Option.bind_some]
  constructor
  · intro hexchanged
    exact (hread .compact).symm.trans (hexchanged .compact)
  · intro hvalue layout
    exact (hread layout).trans hvalue

theorem writable_ofInt (z : ℤ) : Writable (ofInt z) := .number (Literal.strict_integerNumeral z)

theorem writable_ofBinary64 (x : Binary64) : Writable (ofBinary64 x) := by
  rcases ofBinary64_cases x with ⟨-, hjson⟩ | ⟨n, -, hjson, hstrict, -⟩
  · rw [hjson]
    exact .null
  · rw [hjson]
    exact .number hstrict

theorem writable_array_map {α : Type} {toJson : α → Json} (h : ∀ a, Writable (toJson a))
    (as : List α) : Writable (array (as.map toJson)) := by
  refine .array fun v hv => ?_
  obtain ⟨a, -, rfl⟩ := List.mem_map.mp hv
  exact h a

theorem optional?_of_ne_null {α : Type} (read : Json → Option α) {v : Json} (hv : v ≠ null) :
    v.optional? read = (read v).map some := by
  cases v with
  | null => exact absurd rfl hv
  | _ => rfl

end Json

open Json

/-! ## Literals -/

namespace Literal

/-- The doubles of a literal. -/
def floats : Literal → List Binary64
  | float x => [x]
  | _ => []

theorem writable_toJson (l : Literal) : Writable l.toJson := by
  cases l with
  | integer n => exact writable_ofInt n.toInt
  | float x => exact writable_ofBinary64 x
  | boolean b => exact .boolean b
  | string s => exact .string s
  | null => exact .null

theorem ofJson?_toJson_integer (n : Int64) : ofJson? (integer n).toJson = some (integer n) := by
  have hlow : -Binary64.wordBound ≤ n.toInt := Int64.le_toInt n
  have hhigh : n.toInt < UInt64.size := lt_trans (Int64.toInt_lt n) (by decide)
  show ofJsonNumber? (integerNumeral n.toInt) = _
  rw [ofJsonNumber?, integer?_integerNumeral hlow hhigh,
    Option.filter_some_pos (Binary64.isWord_toInt n)]
  simp

theorem ofJson?_toJson_float (x : Binary64) :
    ofJson? (float x).toJson = some (float x) ↔ x.isFinite = true ∧ ReadsBack x := by
  rcases ofBinary64_cases x with ⟨hfinite, hjson⟩ | ⟨n, hfinite, hjson, -, hinteger⟩
  · simp [toJson, hjson, ofJson?, hfinite]
  · simp [toJson, hjson, ofJson?, ofJsonNumber?, hinteger, ReadsBack, hfinite]

theorem ofJson?_toJson (l : Literal) :
    ofJson? l.toJson = some l ↔ ∀ x ∈ l.floats, x.isFinite = true ∧ ReadsBack x := by
  cases l with
  | integer n => exact iff_of_true (ofJson?_toJson_integer n) nofun
  | float x => rw [ofJson?_toJson_float, floats, List.forall_mem_singleton]
  | boolean b => exact iff_of_true rfl nofun
  | string s => exact iff_of_true rfl nofun
  | null => exact iff_of_true rfl nofun

end Literal

/-! ## Operands -/

namespace Operand

/-- The doubles of an operand. -/
def floats : Operand → List Binary64
  | single l => l.floats
  | list ls => ls.flatMap Literal.floats

theorem writable_toJson (o : Operand) : Writable o.toJson := by
  cases o with
  | single l => exact l.writable_toJson
  | list ls => exact writable_array_map Literal.writable_toJson ls

/-- No literal is written as a list. -/
theorem ofJson?_toJson_literal (l : Literal) :
    ofJson? l.toJson = (Literal.ofJson? l.toJson).map single := by
  cases l with
  | float x =>
      rcases ofBinary64_cases x with ⟨-, hjson⟩ | ⟨n, -, hjson, -, -⟩
      · rw [Literal.toJson, hjson]
        rfl
      · rw [Literal.toJson, hjson]
        rfl
  | _ => rfl

theorem ofJson?_toJson (o : Operand) :
    ofJson? o.toJson = some o ↔ ∀ x ∈ o.floats, x.isFinite = true ∧ ReadsBack x := by
  cases o with
  | single l =>
      show ofJson? l.toJson = _ ↔ _
      rw [ofJson?_toJson_literal, Option.map_eq_some_iff, floats, ← l.ofJson?_toJson]
      simp
  | list ls =>
      have hliterals : (ls.map Literal.toJson).mapM Literal.ofJson? = some ls ↔
          ∀ l ∈ ls, Literal.ofJson? l.toJson = some l := mapM_map_eq_some_iff
      simp only [Literal.ofJson?_toJson] at hliterals
      show ((ls.map Literal.toJson).mapM Literal.ofJson?).map list = _ ↔ _
      rw [Option.map_eq_some_iff, floats]
      simp only [List.forall_mem_flatMap, ← hliterals]
      simp

end Operand

/-! ## Clauses -/

theorem Json.writable_ofText (t : Text) : Writable (ofText t) := .string t

namespace SortKey

theorem writable_toJson (s : SortKey) : Writable s.toJson := by
  refine .object (by simp [Json.name]) ?_
  simp only [List.forall_mem_cons]
  exact ⟨writable_ofText _, writable_ofText _, nofun⟩

theorem ofJson?_toJson (s : SortKey) : ofJson? s.toJson = some s := by
  obtain ⟨property, direction⟩ := s
  cases direction <;> rfl

end SortKey

namespace Condition

theorem writable_toJson (c : Condition) : Writable c.toJson := by
  refine .object (by simp [Json.name]) ?_
  simp only [List.forall_mem_cons]
  exact ⟨writable_ofText _, writable_ofText _, c.operand.writable_toJson, nofun⟩

/-- What a condition compares with is read back, and everything else is read back anyway. -/
theorem ofJson?_toJson (c : Condition) :
    ofJson? c.toJson = some c ↔ Operand.ofJson? c.operand.toJson = some c.operand := by
  obtain ⟨property, operator, operand⟩ := c
  have hoperator : (Json.ofText operator.jsonName).choice? Operator.all Operator.jsonName =
      some operator := by
    cases operator <;> rfl
  have hread : ofJson? (toJson ⟨property, operator, operand⟩) =
      (Operand.ofJson? operand.toJson).map fun operand => ⟨property, operator, operand⟩ := by
    show ((Json.ofText operator.jsonName).choice? Operator.all Operator.jsonName >>= _) = _
    rw [hoperator]
    exact Option.map_eq_bind.symm
  rw [hread, Option.map_eq_some_iff]
  simp

end Condition

/-! ## Queries -/

namespace Query

/-- The doubles of a query. -/
def floats (q : Query) : List Binary64 := q.filter.flatMap (·.operand.floats)

theorem writable_limitJson (n : UInt64) : Writable (limitJson n) := writable_ofInt n.toNat

theorem writable_orNull {α : Type} {toJson : α → Json} (h : ∀ a, Writable (toJson a))
    (v : Option α) : Writable (orNull toJson v) := by
  cases v with
  | none => exact .null
  | some a => exact h a

theorem writable_toJson (q : Query) : Writable q.toJson := by
  refine .object (by simp [Json.name]) ?_
  simp only [List.forall_mem_cons]
  exact ⟨writable_array_map writable_ofText _, writable_orNull .boolean _,
    writable_orNull writable_limitJson _, writable_orNull writable_limitJson _,
    writable_array_map SortKey.writable_toJson _, writable_array_map Condition.writable_toJson _,
    nofun⟩

theorem word?_limitJson (n : UInt64) : word? (limitJson n) = some n := by
  have hlow : -Binary64.wordBound ≤ (n.toNat : ℤ) :=
    le_trans (by decide) (Int.natCast_nonneg n.toNat)
  have hhigh : (n.toNat : ℤ) < UInt64.size := Int.ofNat_lt.mpr n.toNat_lt_size
  show (integer? (Literal.integerNumeral n.toNat) >>= _) = _
  rw [integer?_integerNumeral hlow hhigh]
  simp

/-- An option that is not given is told from one that is, if no value of it is null. -/
theorem optional?_orNull {α : Type} {toJson : α → Json} {read : Json → Option α}
    (hne : ∀ a, toJson a ≠ .null) (hread : ∀ a, read (toJson a) = some a) (v : Option α) :
    (orNull toJson v).optional? read = some v := by
  cases v with
  | none => rfl
  | some a =>
      show (toJson a).optional? read = _
      rw [optional?_of_ne_null read (hne a), hread]
      rfl

/-- What the conditions compare with is read back, and everything else is read back anyway. -/
theorem ofJson?_toJson (q : Query) :
    ofJson? q.toJson = some q ↔
      ∀ c ∈ q.filter, Condition.ofJson? c.toJson = some c := by
  obtain ⟨select, count, top, skip, orderBy, filter⟩ := q
  have hselect : (array (select.map Json.ofText)).list? text? = some select :=
    mapM_map_eq_some_iff.mpr fun _ _ => rfl
  have horderBy : (array (orderBy.map SortKey.toJson)).list? SortKey.ofJson? = some orderBy :=
    mapM_map_eq_some_iff.mpr fun s _ => s.ofJson?_toJson
  have hcount : (orNull .boolean count).optional? boolean? = some count := by
    apply optional?_orNull
    · exact fun _ => nofun
    · exact fun _ => rfl
  have hlimit : ∀ v, (orNull limitJson v).optional? word? = some v := by
    apply optional?_orNull
    · exact fun _ => nofun
    · exact word?_limitJson
  have hread : ofJson? (toJson ⟨select, count, top, skip, orderBy, filter⟩) =
      ((filter.map Condition.toJson).mapM Condition.ofJson?).map
        fun filter => ⟨select, count, top, skip, orderBy, filter⟩ := by
    show ((array (select.map Json.ofText)).list? text? >>= fun select =>
      (orNull .boolean count).optional? boolean? >>= fun count =>
      (orNull limitJson top).optional? word? >>= fun top =>
      (orNull limitJson skip).optional? word? >>= fun skip =>
      (array (orderBy.map SortKey.toJson)).list? SortKey.ofJson? >>= fun orderBy =>
      (array (filter.map Condition.toJson)).list? Condition.ofJson? >>= _) = _
    rw [hselect, hcount, hlimit, hlimit, horderBy]
    exact Option.map_eq_bind.symm
  rw [hread, Option.map_eq_some_iff, ← mapM_map_eq_some_iff]
  simp

/-- **A query is read back from JSON** exactly if its doubles are finite and read back as numbers,
and so is each part of it. -/
theorem exchanged_iff :
    (∀ q : Query, Exchanged toJson ofJson? q ↔
      ∀ x ∈ q.floats, x.isFinite = true ∧ ReadsBack x) ∧
    (∀ s : SortKey, Exchanged SortKey.toJson SortKey.ofJson? s) ∧
    (∀ c : Condition, Exchanged Condition.toJson Condition.ofJson? c ↔
      ∀ x ∈ c.operand.floats, x.isFinite = true ∧ ReadsBack x) ∧
    (∀ o : Operand, Exchanged Operand.toJson Operand.ofJson? o ↔
      ∀ x ∈ o.floats, x.isFinite = true ∧ ReadsBack x) ∧
    (∀ l : Literal, Exchanged Literal.toJson Literal.ofJson? l ↔
      ∀ x ∈ l.floats, x.isFinite = true ∧ ReadsBack x) := by
  refine ⟨fun q => ?_, fun s => ?_, fun c => ?_, fun o => ?_, fun l => ?_⟩
  · rw [exchanged_iff_of_writable q.writable_toJson, ofJson?_toJson, floats]
    simp only [Condition.ofJson?_toJson, Operand.ofJson?_toJson, List.forall_mem_flatMap]
  · rw [exchanged_iff_of_writable s.writable_toJson]
    exact s.ofJson?_toJson
  · rw [exchanged_iff_of_writable c.writable_toJson, Condition.ofJson?_toJson, Operand.ofJson?_toJson]
  · rw [exchanged_iff_of_writable o.writable_toJson, Operand.ofJson?_toJson]
  · rw [exchanged_iff_of_writable l.writable_toJson, Literal.ofJson?_toJson]

/-- Values that might be taken for others: whole doubles next to integers, the two zeros, doubles
with a power of ten, limits beyond the integers, a null that is meant, strings that spell other
values or hold what is escaped, and lists with an operator that takes none. -/
def lookalikes : Query where
  select := [[], ['"', '\\', '/', '\n', Char.ofNat 31]]
  top := some 18446744073709551615
  skip := some 0
  orderBy := [⟨"null".toList, .descending⟩]
  filter := [⟨"a".toList, .isIn, .single .null⟩, ⟨"b".toList, .equal, .list []⟩,
    ⟨"c".toList, .less, .list [.integer 1, .float (.ofInt 1), .integer 0,
      .float (.signed true .zero), .boolean true, .string "true".toList, .string "1.0".toList]⟩,
    ⟨"d".toList, .isIn, .list [.float (.signed false (.ofDecimal ⟨1, -7⟩)),
      .float (.signed true (.ofDecimal ⟨25, 21⟩)), .float (.signed false (.ofDecimal ⟨1, -1⟩))]⟩]

theorem exchanged_lookalikes : Exchanged toJson ofJson? lookalikes := by
  have hfloats : ∀ x ∈ lookalikes.floats, x.isFinite = true ∧ ReadsBack x := by decide +kernel
  exact (exchanged_iff.1 lookalikes).mpr hfloats

end Query

end QueryOptions
