import QueryOptions.Literal.Reading

/-!
# Filter clauses

A filter clause is a property, an operator and a value.  The property is any word and the value
is the rest of the clause.  The operator is two letters, and it has to end where the two letters
end: a blank must follow, or the parenthesis that opens a list, as in `id in(1,2)`.
-/

namespace QueryOptions

/-- A comparison of a property with an operand. -/
structure Condition where
  property : Text
  operator : Operator
  operand : Operand
  deriving DecidableEq

namespace Condition

/-- Whether an operator can end in front of this text. -/
def endsOperator : Text → Bool
  | [] => false
  | c :: _ => isBlank c || c == '('

/-- The text in front of the first blank, and the text after the blanks that follow it. -/
def splitWord (t : Text) : Text × Text :=
  (t.takeWhile (!isBlank ·), Text.trimStart (t.dropWhile (!isBlank ·)))

/-- The property, the two letters of the operator and the value of a clause. -/
def split? (clause : Text) : Option (Text × Text × Text) :=
  match splitWord clause.trimStart with
  | (property, a :: b :: rest) =>
    let value := Text.trimStart rest
    if property.isEmpty || !a.isAlpha || !b.isAlpha || !endsOperator rest || value.isEmpty then none
    else some (property, [a, b], value)
  | _ => none

/-- The filter clause that a text is.  A clause without the three parts is refused as a whole,
and otherwise an unknown operator is the error. -/
def ofText (clause : Text) : Except QueryError Condition :=
  match split? clause with
  | none => .error (.shape .filter 0 clause)
  | some (property, code, value) =>
    (Operator.ofCode code).map fun operator => ⟨property, operator, .ofText operator value⟩

/-- The clause as a query holds it. -/
def text (c : Condition) : Text :=
  c.property ++ ' ' :: c.operator.code ++ ' ' :: c.operand.text

end Condition

end QueryOptions
