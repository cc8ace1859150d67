import QueryOptions.Query.Json
import QueryOptions.Query.Writing

/-!
# Reports

What is printed about a query, line by line.
-/

namespace QueryOptions.CommandLine

/-- Lines, each ended by a line feed. -/
def lines (ls : List Text) : Text := ls.flatMap (· ++ ['\n'])

/-- A text filled up with blanks to a width. -/
def padded (width : Nat) (t : Text) : Text := t ++ List.replicate (width - t.length) ' '

/-- A horizontal rule. -/
def rule (width : Nat) : Text := List.replicate width '─'

/-- What is printed when there is no query. -/
def noQuery : Text := "(no query)".toList

/-! ## The table -/

/-- What the table says about an option. -/
def cell (q : Query) : Key → Text
  | .select => Text.join ", ".toList q.select
  | .count => (q.count.map Literal.booleanText).getD []
  | .top => (q.top.map Query.limitText).getD []
  | .skip => (q.skip.map Query.limitText).getD []
  | .orderBy =>
    Text.join ", ".toList (q.orderBy.map fun s => s.property ++ ' ' :: s.direction.code)
  | .filter => Text.join " and ".toList (q.filter.map Condition.text)

/-- The width of the names in the table. -/
def nameWidth : Nat := 7

/-- A row of the table. -/
def row (name value : Text) : Text := padded nameWidth name ++ " │ ".toList ++ value

/-- The table of a query, with a row for each option; an option that says nothing has a hyphen. -/
def table (q : Query) : Text :=
  lines ([row "field".toList "value".toList, rule nameWidth ++ "─┼─".toList ++ rule 40] ++
    Key.all.map fun k => row k.name (if (cell q k).isEmpty then ['-'] else cell q k))

/-! ## The explanation -/

/-- What stands in front of an explanation. -/
def explanationHead (style : KeyStyle) (address : Text) : Text :=
  let keys := match style with
    | .dollar => "$-prefixed".toList
    | .bare => "bare".toList
  lines ["Query Explanation".toList, [], "Url: ".toList ++ address, "Keys: ".toList ++ keys, []]

/-- A literal with its type. -/
def describeLiteral (l : Literal) : Text := l.text ++ " (".toList ++ l.typeName ++ [')']

/-- An operand with the types of its literals. -/
def describeOperand : Operand → Text
  | .single l => describeLiteral l
  | .list ls => '[' :: (Text.join ", ".toList (ls.map describeLiteral) ++ [']'])

/-- An arrow for a direction. -/
def arrow : Direction → Text
  | .ascending => "↑".toList
  | .descending => "↓".toList

/-- A heading with lines below it, or nothing if there are no lines. -/
def block (heading : String) (items : List Text) : List Text :=
  if items.isEmpty then []
  else (("  " ++ heading ++ ":").toList) :: items.map ("    ".toList ++ ·)

/-- A heading with a value behind it, or nothing if there is no value. -/
def entry (heading : String) (value : Option Text) : List Text :=
  (value.map fun v => ("  " ++ heading ++ ": ").toList ++ v).toList

/-- The explanation of a query. -/
def explanation (style : KeyStyle) (q : Query) : Text :=
  lines ("Parsed Structure:".toList ::
    (block "Select" (q.select.map ("• ".toList ++ ·)) ++
      entry "Count" (q.count.map Literal.booleanText) ++
      entry "Top" (q.top.map Query.limitText) ++
      entry "Skip" (q.skip.map Query.limitText) ++
      block "Order by" (q.orderBy.map fun s => arrow s.direction ++ ' ' :: s.property) ++
      block "Filter" (q.filter.map fun c =>
        c.property ++ ' ' :: c.operator.name ++ ' ' :: describeOperand c.operand) ++
      [[], "Canonical:".toList, "  ".toList ++ q.text style]))

/-- The explanation when there is no query. -/
def nothingToExplain : Text := lines ["No recognized keys; nothing to explain.".toList]

/-! ## The other reports -/

/-- What an option is for, and the form of its value. -/
def purpose : Key → Text × Text
  | .select => ("Properties to return".toList, "a,b,c".toList)
  | .count => ("Include the total count".toList, "1 | true | 0 | false".toList)
  | .top => ("Rows to return".toList, "non-negative integer".toList)
  | .skip => ("Rows to skip".toList, "non-negative integer".toList)
  | .orderBy => ("Sort order".toList, "prop [asc|desc], ...".toList)
  | .filter =>
    ("Conditions, all must hold".toList, "prop eq|ne|gt|ge|lt|le|in value and ...".toList)

/-- A row of the list of keys. -/
def keyRow (dollar bare meaning value : Text) : Text :=
  padded 10 dollar ++ ' ' :: padded 10 bare ++ ' ' :: padded 28 meaning ++ ' ' :: value

/-- The list of keys. -/
def keyList : Text :=
  lines (["Recognized Keys".toList, [],
    keyRow "Prefixed".toList "Bare".toList "Meaning".toList "Value".toList, rule 80] ++
    Key.all.map fun k =>
      keyRow (k.inStyle .dollar) (k.inStyle .bare) (purpose k).1 (purpose k).2)

/-- How to call the program. -/
def usage : Text :=
  lines ["odata-query".toList, [], "Usage: odata-query <URL> [OPTIONS]".toList, [],
    "Try: odata-query --help".toList]

/-- The options and commands of the program. -/
def help : Text :=
  lines (["Decompose OData-style query strings into typed clauses", "",
    "Usage: odata-query [OPTIONS] [URL] [COMMAND]", "",
    "Commands:",
    "  explain  Show every field with literal types",
    "  render   Print the canonical query string",
    "  keys     Show the recognized keys", "",
    "Options:",
    "      --no-prefix        Keys are written without the `$` prefix",
    "  -f, --format <FORMAT>  Output format: table or json",
    "  -c, --config <CONFIG>  Configuration file",
    "  -v, --verbose          Verbose output",
    "  -h, --help             Print help",
    "  -V, --version          Print version"].map String.toList)

/-- The name and the version of the program. -/
def version : Text := lines ["odata-query 0.3.0".toList]

end QueryOptions.CommandLine
