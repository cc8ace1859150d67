import QueryOptions.Form
import QueryOptions.Query.Basic

/-!
# Writing a query

A query is written as form-encoded pairs, one for each field that says something, in the order of
the six options.
-/

namespace QueryOptions.Query

/-- A value if the list it is made of holds anything. -/
def unlessEmpty (parts : List Text) (separator : Text) : Option Text :=
  if parts.isEmpty then none else some (Text.join separator parts)

/-- The digits of a limit. -/
def limitText (n : UInt64) : Text := Nat.toDigits 10 n.toNat

/-- What the query says about an option, in the words of a query. -/
def value? (q : Query) : Key → Option Text
  | .select => unlessEmpty q.select [',']
  | .count => q.count.map Literal.booleanText
  | .top => q.top.map limitText
  | .skip => q.skip.map limitText
  | .orderBy => unlessEmpty (q.orderBy.map SortKey.text) [',']
  | .filter => unlessEmpty (q.filter.map Condition.text) " and ".toList

/-- The pairs that spell the query. -/
def pairs (style : KeyStyle) (q : Query) : Form.Pairs :=
  Key.all.filterMap fun k => (q.value? k).map fun value => (k.inStyle style, value)

/-- The query as the query part of an address. -/
def text (style : KeyStyle) (q : Query) : Text := Form.encodePairs (q.pairs style)

end QueryOptions.Query
