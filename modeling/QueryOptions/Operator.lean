import QueryOptions.Error

/-!
# Operators and directions

A condition compares with one of seven operators, an order-by clause sorts in one of two
directions.  Both are recognized by a code, whatever its letter case, and written in small letters.
-/

namespace QueryOptions

/-- The operator of a condition. -/
inductive Operator where
  | equal
  | notEqual
  | greater
  | greaterOrEqual
  | less
  | lessOrEqual
  /-- The property has one of the listed values. -/
  | isIn
  deriving DecidableEq, Repr

namespace Operator

/-- All operators. -/
def all : List Operator :=
  [.equal, .notEqual, .greater, .greaterOrEqual, .less, .lessOrEqual, .isIn]

/-- The two letters of the operator in a query. -/
def code : Operator → Text
  | .equal => "eq".toList
  | .notEqual => "ne".toList
  | .greater => "gt".toList
  | .greaterOrEqual => "ge".toList
  | .less => "lt".toList
  | .lessOrEqual => "le".toList
  | .isIn => "in".toList

/-- The full name of the operator in a report. -/
def name : Operator → Text
  | .equal => "Equals".toList
  | .notEqual => "NotEquals".toList
  | .greater => "GreaterThan".toList
  | .greaterOrEqual => "GreaterOrEqual".toList
  | .less => "LessThan".toList
  | .lessOrEqual => "LessOrEqual".toList
  | .isIn => "In".toList

/-- The name of the operator in JSON. -/
def jsonName : Operator → Text
  | .equal => "equals".toList
  | .notEqual => "not_equals".toList
  | .greater => "greater_than".toList
  | .greaterOrEqual => "greater_or_equal".toList
  | .less => "less_than".toList
  | .lessOrEqual => "less_or_equal".toList
  | .isIn => "in".toList

/-- Whether the operator compares with a list rather than with one literal. -/
def takesList : Operator → Bool
  | .isIn => true
  | _ => false

/-- The operator with the given code, in any letter case. -/
def ofCode? (code : Text) : Option Operator := all.find? (·.code == code.lower)

/-- The operator with the given code; a code that no operator has is the error. -/
def ofCode (code : Text) : Except QueryError Operator :=
  match ofCode? code with
  | some operator => .ok operator
  | none => .error (.operator code)

theorem ofCode_code (o : Operator) : ofCode o.code = .ok o := by cases o <;> rfl

end Operator

/-- The direction of an order-by clause. -/
inductive Direction where
  | ascending
  | descending
  deriving DecidableEq, Repr

namespace Direction

/-- The word for the direction in a query. -/
def code : Direction → Text
  | .ascending => "asc".toList
  | .descending => "desc".toList

/-- The name of the direction in a report. -/
def name : Direction → Text
  | .ascending => "Ascending".toList
  | .descending => "Descending".toList

/-- The name of the direction in JSON. -/
def jsonName : Direction → Text
  | .ascending => "ascending".toList
  | .descending => "descending".toList

/-- The direction with the given word, in any letter case; any other word is the error. -/
def ofCode (word : Text) : Except QueryError Direction :=
  if word.lower = Direction.ascending.code then .ok .ascending
  else if word.lower = Direction.descending.code then .ok .descending
  else .error (.direction word)

end Direction

end QueryOptions
