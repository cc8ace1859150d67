import QueryOptions.Clause.Conjunction
import QueryOptions.Form
import QueryOptions.Query.Basic
import QueryOptions.Scalar

/-!
# Reading a query

The pairs of a query are decoded first, all of them, and of each key the last value counts.  If
none of the six keys is there, there is no query.  Otherwise the fields are read in a fixed order,
wherever their keys stand, and the first thing that is refused is the error: either every option
and every clause is accepted, or nothing is.
-/

namespace QueryOptions.Query

/-- The six values that a query can be made of, each given or not. -/
abbrev Values := Key → Option Text

/-- The values that the pairs give in a style of keys. -/
def values (style : KeyStyle) (pairs : Form.Pairs) : Values :=
  fun k => pairs.value? (k.inStyle style)

/-- The parts of a value that is a list, none if the value is not given. -/
def parts (split : Text → List Text) (raw : Option Text) : List Text := (raw.map split).getD []

/-- The query that the values make. -/
def ofValues (v : Values) : Except QueryError Query := do
  let count ← Scalar.flag .count (v .count)
  let top ← Scalar.limit .top (v .top)
  let skip ← Scalar.limit .skip (v .skip)
  let orderBy ← (parts (Text.items ',') (v .orderBy)).mapM SortKey.ofText
  let filter ← (parts Conjunction.clauses (v .filter)).mapM Condition.ofText
  return { select := parts (Text.items ',') (v .select), count, top, skip, orderBy, filter }

/-- The query that decoded pairs make, or none if no option is among them. -/
def ofPairs (style : KeyStyle) (pairs : Form.Pairs) : Except QueryError (Option Query) :=
  if Key.all.any fun k => (values style pairs k).isSome then
    (ofValues (values style pairs)).map some
  else .ok none

/-- The query that the query part of an address spells, or none if no option is in it. -/
def ofText (style : KeyStyle) (t : Text) : Except QueryError (Option Query) := do
  ofPairs style (← Form.decodePairs t)

end QueryOptions.Query
