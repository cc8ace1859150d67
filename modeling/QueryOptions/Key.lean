import QueryOptions.Text.Basic

/-!
# The six query options and the two ways to write their keys

A query may name an option plainly, as in `top=5`, or with a dollar sign in front, as in `$top=5`.
One query is read in one of the two styles, and a key written in the other is an unknown key.
-/

namespace QueryOptions

/-- A query option that is recognized. -/
inductive Key where
  /-- The properties to return. -/
  | select
  /-- Whether the total count is wanted. -/
  | count
  /-- How many rows to return at most. -/
  | top
  /-- How many rows to leave out first. -/
  | skip
  /-- The properties to order by. -/
  | orderBy
  /-- The conditions that hold of every row. -/
  | filter
  deriving DecidableEq, Repr

/-- How keys are written throughout a query. -/
inductive KeyStyle where
  /-- With a dollar sign in front. -/
  | dollar
  /-- Plainly. -/
  | bare
  deriving DecidableEq, Repr

/-- The style that puts the dollar sign in front exactly when told to. -/
def KeyStyle.ofDollar (dollar : Bool) : KeyStyle := if dollar then .dollar else .bare

namespace Key

/-- All options, in the order in which they are written and examined. -/
def all : List Key := [.select, .count, .top, .skip, .orderBy, .filter]

theorem mem_all (k : Key) : k ∈ all := by cases k <;> decide

/-- The plain name of an option, which is also its name in an error message. -/
def name : Key → Text
  | .select => "select".toList
  | .count => "count".toList
  | .top => "top".toList
  | .skip => "skip".toList
  | .orderBy => "orderby".toList
  | .filter => "filter".toList

/-- The key of an option in a query of the given style. -/
def inStyle (style : KeyStyle) (k : Key) : Text :=
  match style with
  | .dollar => '$' :: k.name
  | .bare => k.name

theorem name_injective {k l : Key} (h : k.name = l.name) : k = l := by
  revert h
  cases k <;> cases l <;> decide

theorem inStyle_injective {style : KeyStyle} {k l : Key} (h : k.inStyle style = l.inStyle style) :
    k = l := by
  -- both names stand behind the same sign or behind none
  cases style with
  | dollar => exact name_injective (List.cons.inj h).2
  | bare => exact name_injective h

end Key

end QueryOptions
