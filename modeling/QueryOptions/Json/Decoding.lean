import QueryOptions.Json.Number
import QueryOptions.Json.Reading

/-!
# Taking JSON values apart

The pieces from which a reader of a record is built.  Each gives nothing if the value is not of
the form it expects.

A record is an object whose fields have names, in any order and among others that do not count,
or an array that holds a value for each name in order and nothing else.  A choice between names
is a string, or an object whose only field has the name and the value null.
-/

namespace QueryOptions.Json

/-- The characters of a string. -/
def text? : Json → Option Text
  | string s => s
  | _ => none

/-- A truth value. -/
def boolean? : Json → Option Bool
  | boolean b => some b
  | _ => none

/-- An integer that is not negative and fits in 64 bits. -/
def word? : Json → Option UInt64
  | number n => do
    let z ← integer? n
    if 0 ≤ z then some (UInt64.ofNat z.toNat) else none
  | _ => none

/-- A list, each item of which is read with `read`. -/
def list? (read : Json → Option α) : Json → Option (List α)
  | array items => items.mapM read
  | _ => none

/-- A value that may be null. -/
def optional? (read : Json → Option α) : Json → Option (Option α)
  | null => some none
  | v => (read v).map some

/-- The value of the only field with the given name, or nothing if there is no such field. -/
def field? (fields : List (Text × Json)) (name : Text) : Option (Option Json) :=
  match fields.filter (·.1 == name) with
  | [] => some none
  | [(_, v)] => some (some v)
  | _ => none

/-- The values of a record that belong to the given names. -/
def record? (names : List Text) : Json → Option (List (Option Json))
  | object fields => do
    let fields ← fields.mapM fun (name, v) => name.map fun name => (name, v)
    names.mapM (field? fields)
  | array items => if items.length = names.length then some (items.map some) else none
  | _ => none

/-- The one of the choices whose name is given. -/
def choice? (choices : List α) (name : α → Text) : Json → Option α
  | string (some s) => choices.find? (name · == s)
  | object [(some s, null)] => choices.find? (name · == s)
  | _ => none

end QueryOptions.Json
