import QueryOptions.Json.Token

/-!
# Reading a JSON value

The tokens are taken one after the other.  What has been read so far is a stack of open brackets,
each with the items that are complete, and a note of what may come next; after the last bracket is
closed there is a value, and then no token may follow.
-/

namespace QueryOptions.Json

/-- An open bracket, with what is complete behind it, the last first. -/
inductive Frame where
  /-- An array, one of whose items is being read. -/
  | array (items : List Json)
  /-- An object, the value of the field with the given name being read. -/
  | object (fields : List (Option Text × Json)) (name : Option Text)

/-- What may come next. -/
inductive State where
  /-- A value. -/
  | value (stack : List Frame)
  /-- The first item of an array, or its end. -/
  | firstItem (stack : List Frame)
  /-- The first name of an object, or its end. -/
  | firstName (stack : List Frame)
  /-- A further name of an object. -/
  | nextName (fields : List (Option Text × Json)) (stack : List Frame)
  /-- The colon after a name. -/
  | colon (fields : List (Option Text × Json)) (name : Option Text) (stack : List Frame)
  /-- A comma, or the end of an array. -/
  | afterItem (items : List Json) (stack : List Frame)
  /-- A comma, or the end of an object. -/
  | afterField (fields : List (Option Text × Json)) (stack : List Frame)
  /-- Nothing more. -/
  | done (value : Json)

/-- A value is complete: it belongs to the innermost open bracket. -/
def State.deliver (v : Json) : List Frame → State
  | [] => .done v
  | .array items :: stack => .afterItem (v :: items) stack
  | .object fields name :: stack => .afterField ((name, v) :: fields) stack

/-- A value begins: it is complete at once, or a bracket is opened. -/
def State.begin (stack : List Frame) : Token → Option State
  | .null => some (.deliver Json.null stack)
  | .boolean b => some (.deliver (.boolean b) stack)
  | .number n => some (.deliver (.number n) stack)
  | .string s => some (.deliver (.string s) stack)
  | .openArray => some (.firstItem stack)
  | .openObject => some (.firstName stack)
  | _ => none

/-- One token. -/
def State.step : State → Token → Option State
  | .value stack, t => State.begin stack t
  | .firstItem stack, .closeArray => some (.deliver (.array []) stack)
  | .firstItem stack, t => State.begin (.array [] :: stack) t
  | .firstName stack, .closeObject => some (.deliver (.object []) stack)
  | .firstName stack, .string s => some (.colon [] s stack)
  | .nextName fields stack, .string s => some (.colon fields s stack)
  | .colon fields name stack, .colon => some (.value (.object fields name :: stack))
  | .afterItem items stack, .comma => some (.value (.array items :: stack))
  | .afterItem items stack, .closeArray => some (.deliver (.array items.reverse) stack)
  | .afterField fields stack, .comma => some (.nextName fields stack)
  | .afterField fields stack, .closeObject => some (.deliver (.object fields.reverse) stack)
  | _, _ => none

/-- The value that a row of tokens is. -/
def ofTokens? (tokens : List Token) : Option Json :=
  match tokens.foldlM State.step (.value []) with
  | some (.done v) => some v
  | _ => none

/-- The value that a text is. -/
def ofText? (t : Text) : Option Json := (tokens? t).bind ofTokens?

end QueryOptions.Json
