import QueryOptions.Query.Reading
import QueryOptions.Url.Address

/-!
# Reading the query of a URL
-/

namespace QueryOptions.Query

/-- The query of a URL, or none if it has no query or no option is in it. -/
def ofUrl (style : KeyStyle) (address : Text) : Except QueryError (Option Query) := do
  match ← Url.query address with
  | none => return none
  | some t => ofText style t

end QueryOptions.Query
