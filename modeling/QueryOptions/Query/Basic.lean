import QueryOptions.Clause.Condition
import QueryOptions.Clause.SortKey

/-!
# What a query asks for

A query has a field for each of the six options.  A list that is empty and an option that is
missing both say nothing, and a query in which every field says nothing is empty.
-/

namespace QueryOptions

/-- A decoded query. -/
structure Query where
  /-- The properties to return, in the order of the query. -/
  select : List Text := []
  /-- Whether the total count is wanted, if the query says so. -/
  count : Option Bool := none
  /-- How many rows to return at most. -/
  top : Option UInt64 := none
  /-- How many rows to leave out first. -/
  skip : Option UInt64 := none
  /-- What to order by, the first key first. -/
  orderBy : List SortKey := []
  /-- The conditions, all of which have to hold. -/
  filter : List Condition := []
  deriving DecidableEq

namespace Query

/-- The query that asks for nothing. -/
def empty : Query := {}

/-- Whether no field says anything. -/
def isEmpty (q : Query) : Bool :=
  q.select.isEmpty && q.count.isNone && q.top.isNone && q.skip.isNone && q.orderBy.isEmpty &&
    q.filter.isEmpty

theorem isEmpty_iff {q : Query} : q.isEmpty = true ↔ q = empty := by
  obtain ⟨select, count, top, skip, orderBy, filter⟩ := q
  simp [isEmpty, empty, and_assoc]

end Query

end QueryOptions
