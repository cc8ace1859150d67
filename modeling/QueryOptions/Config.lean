import QueryOptions.Toml.Document

/-!
# Configuration

A configuration says how keys are written and how a query is reported.  It is a TOML document with
two sections, `parser` and `output`, and whatever it leaves out has a default; keys that mean
nothing are passed over.

A section is a table.  It may also be an array, whose first item is then the value of the section's
only key, and a date or time counts as a section that leaves everything out.  The name of a format
is a string, or the only key of a table, with nothing under it.
-/

namespace QueryOptions

/-- How a query is reported. -/
inductive ReportFormat where
  /-- As a table with a row for each option. -/
  | table
  /-- As JSON over many lines. -/
  | json
  deriving DecidableEq, Repr

namespace ReportFormat

/-- All formats. -/
def all : List ReportFormat := [.table, .json]

/-- The name of a format. -/
def name : ReportFormat → Text
  | table => "table".toList
  | json => "json".toList

/-- The format with the given name, in small letters. -/
def ofName? (name : Text) : Option ReportFormat := all.find? (·.name == name)

end ReportFormat

/-- What can be configured. -/
structure Config where
  /-- Whether keys are written with a dollar sign. -/
  usesDollar : Bool := true
  /-- How a query is reported. -/
  format : ReportFormat := .table
  deriving DecidableEq, Repr

namespace Config

/-- The configuration in which nothing is said. -/
def default : Config := {}

/-- The value of a section's only key, if it is given; `none` if there is no such section. -/
def sectionValue? (key : Text) : Toml.Item → Option (Option Toml.Item)
  | .table _ entries => some (Toml.Entries.find? entries key)
  | .tables newestFirst => some (newestFirst.getLast?.map (.table .header))
  | .array items => some items.head?
  | .scalar (.moment _) => some none
  | _ => none

/-- The value of the only key of a section that may be missing itself. -/
def setting? (entries : Toml.Entries) (sectionName key : Text) : Option (Option Toml.Item) :=
  match entries.find? sectionName with
  | none => some none
  | some item => sectionValue? key item

/-- A truth value, `default` if it is not given. -/
def boolean? (default : Bool) : Option Toml.Item → Option Bool
  | none => some default
  | some (.scalar (.boolean b)) => some b
  | some _ => none

/-- Whether a value holds nothing. -/
def isHollow : Toml.Item → Bool
  | .table _ entries => entries.isEmpty
  | .array items => items.isEmpty
  | _ => false

/-- A format, `default` if it is not given. -/
def format? (default : ReportFormat) : Option Toml.Item → Option ReportFormat
  | none => some default
  | some (.string name) => ReportFormat.ofName? name
  | some (.table _ [(name, item)]) => if isHollow item then ReportFormat.ofName? name else none
  | some _ => none

/-- The configuration that a TOML table is, if every value in it is of the right kind. -/
def ofEntries? (entries : Toml.Entries) : Option Config := do
  let usesDollar ← setting? entries "parser".toList "use_prefix".toList
  let usesDollar ← boolean? default.usesDollar usesDollar
  let format ← setting? entries "output".toList "format".toList
  let format ← format? default.format format
  return { usesDollar, format }

/-- The configuration that a text is. -/
def ofText? (t : Text) : Option Config := (Toml.ofText? t).bind ofEntries?

end Config

end QueryOptions
