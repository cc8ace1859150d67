import QueryOptions.Toml.Table
import QueryOptions.Toml.Text

/-!
# TOML documents

A document is a row of lines: keys with their values, headers, and lines with nothing but a
comment.  Only a value may go over several lines, in brackets or as a string.
-/

namespace QueryOptions.Toml

/-- A reader of what is at the front of a text. -/
abbrev Reader (α : Type) := Text → Option (α × Text)

/-! ## Values -/

/-- The items of an array, given the text behind its opening bracket.  A comma may follow the
last. -/
def array? (item : Reader Item) : Reader (List Item) :=
  collect fun t => do
    match ← skipLines? t with
    | ']' :: rest => return .stop [] rest
    | t =>
      let (x, rest) ← item t
      match ← skipLines? rest with
      | ',' :: rest => return .go [x] rest
      | ']' :: rest => return .stop [x] rest
      | _ => none

/-- A key with its value. -/
def pair? (item : Reader Item) : Reader (List Text × Item) := fun t => do
  match ← key? t with
  | (key, '=' :: rest) =>
    let (x, rest) ← item (skipBlanks rest)
    return ((key, x), rest)
  | _ => none

/-- The pairs of a table in braces, given the text behind the opening brace. -/
def braces? (item : Reader Item) (t : Text) : Option (List (List Text × Item) × Text) :=
  match skipBlanks t with
  | '\x7d' :: rest => some ([], rest)
  | t => t |> collect fun t => do
    let (p, rest) ← pair? item t
    match skipBlanks rest with
    | ',' :: rest => return .go [p] rest
    | '\x7d' :: rest => return .stop [p] rest
    | _ => none

/-- A value that may hold brackets `depth` deep. -/
def value? (depth : Nat) : Reader Item
  | '[' :: rest =>
    match depth with
    | 0 => none
    | depth + 1 => (array? (value? depth) rest).map fun (items, rest) => (.array items, rest)
  | '\x7b' :: rest =>
    match depth with
    | 0 => none
    | depth + 1 => do
      let (pairs, rest) ← braces? (value? depth) rest
      return (.table .braces (← Entries.insertAll? [] pairs), rest)
  | t =>
    match string? t with
    | some (s, rest) => some (.string s, rest)
    | none =>
      if t.head? = some '"' ∨ t.head? = some '\'' then none
      else (Scalar.read? t).map fun (s, rest) => (.scalar s, rest)

/-! ## Lines -/

/-- A line that says something. -/
inductive Line where
  /-- A key with its value. -/
  | pair (path : List Text) (item : Item)
  /-- A header. -/
  | header (repeated : Bool) (path : List Text)

/-- A header, given the text behind its first bracket. -/
def header? : Reader Line
  | '[' :: t => do
    match ← key? t with
    | (path, ']' :: ']' :: rest) => return (.header true path, ← lineEnd? rest)
    | _ => none
  | t => do
    match ← key? t with
    | (path, ']' :: rest) => return (.header false path, ← lineEnd? rest)
    | _ => none

/-- One line. -/
def line? (t : Text) : Option (Progress Line) :=
  match skipBlanks t with
  | [] => some (.stop [] [])
  | '[' :: rest => (header? rest).map fun (line, rest) => .go [line] rest
  | t =>
    match lineEnd? t with
    | some rest => some (.go [] rest)
    | none => do
      let ((path, item), rest) ← pair? (value? (depthLimit - 1)) t
      return .go [.pair path item] (← lineEnd? rest)

/-- The pairs in front of the first header, and the sections. -/
def sections : List Line → List (List Text × Item) × List Section
  | [] => ([], [])
  | .pair path item :: lines =>
    let (pairs, rest) := sections lines
    ((path, item) :: pairs, rest)
  | .header repeated path :: lines =>
    let (pairs, rest) := sections lines
    ([], ⟨repeated, path, pairs⟩ :: rest)

/-- The table that a document spells.  A byte-order mark at its front does not count. -/
def ofText? (t : Text) : Option Entries := do
  let t := if t.head? = some '\uFEFF' then t.drop 1 else t
  let (lines, _) ← collect line? t
  let (pairs, rest) := sections lines
  assemble? pairs rest

end QueryOptions.Toml
