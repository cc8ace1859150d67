import QueryOptions.Key
import QueryOptions.Text.Utf8

/-!
# Why a query is refused

Every refusal names its cause and carries the piece of text that caused it, as it was written.
The wording is in `QueryError.message` and nowhere else.
-/

namespace QueryOptions

/-- The kinds of clause that can have a wrong shape. -/
inductive ClauseKind where
  /-- A property with an optional direction. -/
  | orderBy
  /-- A property, an operator and a value. -/
  | filter
  deriving DecidableEq, Repr

/-- The kind of clause as the subject of a sentence. -/
def ClauseKind.subject : ClauseKind → Text
  | .orderBy => "An order by condition".toList
  | .filter => "A filter clause".toList

/-- Why a query, or the address that carries it, is refused. -/
inductive QueryError where
  /-- The address is no absolute URL. -/
  | notUrl (address : Text)
  /-- The bytes that a key or a value spells are no text. -/
  | undecodable (component : Text) (fault : Utf8.Fault)
  /-- A clause does not have the words it needs. -/
  | shape (kind : ClauseKind) (terms : Nat) (clause : Text)
  /-- The second word of an order-by clause is no direction. -/
  | direction (word : Text)
  /-- The second word of a filter clause is no operator. -/
  | operator (code : Text)
  /-- The value of a count, top or skip option is not of the form it needs. -/
  | datatype (field : Key) (value : Text)
  /-- The value of a top or skip option is an integer that no limit can have. -/
  | range (field : Key) (value : Text)
  deriving DecidableEq, Repr

/-- The text between two apostrophes. -/
def quoted (t : Text) : Text := '\'' :: (t ++ ['\''])

/-- The refusal in words. -/
def QueryError.message : QueryError → Text
  | .notUrl address => "Url should be a valid, full URL: ".toList ++ quoted address
  | .undecodable component fault =>
    "Malformed query string: ".toList ++ quoted component ++ " does not decode to text: ".toList ++
      fault.message
  | .shape kind terms clause =>
    kind.subject ++ " is invalid and resulted in a split of ".toList ++ Nat.toDigits 10 terms ++
      " terms: ".toList ++ quoted clause
  | .direction word => "Direction should be either asc or desc, got ".toList ++ quoted word
  | .operator code =>
    "Filter operator should be eq, ne, gt, ge, lt, le or in, got ".toList ++ quoted code
  | .datatype field value =>
    "Invalid datatype for ".toList ++ field.name ++ ": ".toList ++ quoted value
  | .range field value =>
    field.name ++ " should be greater or equal to zero, got ".toList ++ quoted value

end QueryOptions
