import QueryOptions.Json.Decoding
import QueryOptions.Query.Basic

/-!
# Queries as JSON

A query is an object with a field for each option, in the order of the options, and null for an
option that is not given.  Literals are plain JSON values without a mark of their type: an integer
has neither point nor power of ten, and every other number is a double.  A list of literals is an
array, so an operand is a list exactly if its JSON value is an array.

Reading accepts more than writing produces, and what the operand is does not depend on the
operator.
-/

namespace QueryOptions

/-! ## Literals and operands -/

namespace Literal

/-- The literal as a JSON value. -/
def toJson : Literal → Json
  | integer n => .ofInt n.toInt
  | float x => .ofBinary64 x
  | boolean b => .boolean b
  | string s => .string (some s)
  | null => .null

/-- The literal that a number is. -/
def ofJsonNumber? (n : Numeral) : Option Literal :=
  match (Json.integer? n).filter Binary64.isWord with
  | some z => some (integer (Int64.ofInt z))
  | none => (Json.double? n).map float

/-- The literal that a JSON value is. -/
def ofJson? : Json → Option Literal
  | .null => some null
  | .boolean b => some (boolean b)
  | .number n => ofJsonNumber? n
  | .string s => s.map string
  | _ => none

end Literal

namespace Operand

/-- The operand as a JSON value. -/
def toJson : Operand → Json
  | single l => l.toJson
  | list ls => .array (ls.map Literal.toJson)

/-- The operand that a JSON value is. -/
def ofJson? : Json → Option Operand
  | .array items => (items.mapM Literal.ofJson?).map list
  | v => (Literal.ofJson? v).map single

end Operand

/-! ## Clauses -/

/-- A text as a JSON value. -/
def Json.ofText (t : Text) : Json := .string (some t)

/-- The name of an object's field. -/
def Json.name (s : String) : Option Text := some s.toList

namespace SortKey

/-- The order-by clause as a JSON value. -/
def toJson (s : SortKey) : Json :=
  .object [(Json.name "property", .ofText s.property),
    (Json.name "direction", .ofText s.direction.jsonName)]

/-- The order-by clause that a JSON value is. -/
def ofJson? (v : Json) : Option SortKey := do
  match ← v.record? ["property".toList, "direction".toList] with
  | [some property, some direction] =>
    let property ← property.text?
    let direction ← direction.choice? [Direction.ascending, .descending] Direction.jsonName
    return ⟨property, direction⟩
  | _ => none

end SortKey

namespace Condition

/-- The condition as a JSON value. -/
def toJson (c : Condition) : Json :=
  .object [(Json.name "property", .ofText c.property),
    (Json.name "operator", .ofText c.operator.jsonName), (Json.name "value", c.operand.toJson)]

/-- The condition that a JSON value is. -/
def ofJson? (v : Json) : Option Condition := do
  match ← v.record? ["property".toList, "operator".toList, "value".toList] with
  | [some property, some operator, some value] =>
    let property ← property.text?
    let operator ← operator.choice? Operator.all Operator.jsonName
    let operand ← Operand.ofJson? value
    return ⟨property, operator, operand⟩
  | _ => none

end Condition

/-! ## Queries -/

namespace Query

/-- Null for what is not given. -/
def orNull (toJson : α → Json) (v : Option α) : Json := (v.map toJson).getD .null

/-- A limit as a JSON value. -/
def limitJson (n : UInt64) : Json := .ofInt n.toNat

/-- The query as a JSON value. -/
def toJson (q : Query) : Json :=
  .object [(Json.name "select", .array (q.select.map .ofText)),
    (Json.name "count", orNull .boolean q.count),
    (Json.name "top", orNull limitJson q.top),
    (Json.name "skip", orNull limitJson q.skip),
    (Json.name "order_by", .array (q.orderBy.map SortKey.toJson)),
    (Json.name "filter", .array (q.filter.map Condition.toJson))]

/-- The names of a query's fields in JSON. -/
def fieldNames : List Text :=
  ["select".toList, "count".toList, "top".toList, "skip".toList, "order_by".toList,
    "filter".toList]

/-- The query that a JSON value is.  The three options that a query need not give may be left
out. -/
def ofJson? (v : Json) : Option Query := do
  match ← v.record? fieldNames with
  | [some select, count, top, skip, some orderBy, some filter] =>
    let select ← select.list? Json.text?
    let count ← (count.getD .null).optional? Json.boolean?
    let top ← (top.getD .null).optional? Json.word?
    let skip ← (skip.getD .null).optional? Json.word?
    let orderBy ← orderBy.list? SortKey.ofJson?
    let filter ← filter.list? Condition.ofJson?
    return { select, count, top, skip, orderBy, filter }
  | _ => none

/-- A query that there may not be, as a JSON text. -/
def jsonText (layout : Json.Layout) (q : Option Query) : Text := (orNull toJson q).text layout

end Query

end QueryOptions
