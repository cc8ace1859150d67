import QueryOptions.Operator

/-!
# Order-by clauses

An order-by clause is a property and, after blanks, an optional direction.  The property is any
word: dots, slashes and letters of every script may be in it.
-/

namespace QueryOptions

/-- What to order by. -/
structure SortKey where
  property : Text
  /-- Ascending unless it is said otherwise. -/
  direction : Direction := .ascending
  deriving DecidableEq

namespace SortKey

/-- The order-by clause that a text is.  With three words or more, or with none, the number of
words is part of the error. -/
def ofText (clause : Text) : Except QueryError SortKey :=
  match clause.words with
  | [property] => .ok { property }
  | [property, word] => (Direction.ofCode word).map fun direction => { property, direction }
  | words => .error (.shape .orderBy words.length clause)

/-- The clause as a query holds it: the ascending direction is left out. -/
def text (s : SortKey) : Text :=
  match s.direction with
  | .ascending => s.property
  | .descending => s.property ++ ' ' :: Direction.descending.code

end SortKey

end QueryOptions
