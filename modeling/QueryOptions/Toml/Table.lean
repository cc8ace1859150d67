import QueryOptions.Toml.Scalar

/-!
# Tables and how they grow

A TOML document builds one table of tables, key by key and header by header.  What may be added to
a table depends on how it came about: a table that has a header of its own, one that a longer
header mentions on its way, and one that a key with points mentions on its way are three different
things.  A table that is written as a value is complete.
-/

namespace QueryOptions.Toml

/-- How a table came about. -/
inductive Origin where
  /-- It has a header. -/
  | header
  /-- It is on the way to a table that has a header. -/
  | mention
  /-- It is on the way to the value of a key with points. -/
  | dotted
  /-- It is written in braces. -/
  | braces
  deriving DecidableEq

/-- What a key stands for. -/
inductive Item where
  | string (value : Text)
  | scalar (value : Scalar)
  | array (items : List Item)
  | table (origin : Origin) (entries : List (Text × Item))
  /-- The tables of a repeated header, the last first. -/
  | tables (newestFirst : List (List (Text × Item)))

/-- Keys with what they stand for. -/
abbrev Entries := List (Text × Item)

namespace Entries

/-- What a key stands for. -/
def find? (entries : Entries) (key : Text) : Option Item := entries.lookup key

/-- Lets a key stand for something, whether it has stood for something before or not. -/
def set (entries : Entries) (key : Text) (item : Item) : Entries :=
  if (entries.find? key).isSome then
    entries.map fun entry => if entry.1 = key then (key, item) else entry
  else entries ++ [(key, item)]

/-- Gives a key with points its value.  No part on the way may have a header or be a value, and
the table that gets the value has to be one that keys with points have made. -/
def insert? (entries : Entries) (path : List Text) (item : Item) : Option Entries :=
  match path with
  | [] => none
  | [key] => if (entries.find? key).isSome then none else some (entries.set key item)
  | key :: next :: path =>
    match entries.find? key with
    | none =>
      (insert? [] (next :: path) item).map fun inner => entries.set key (.table .dotted inner)
    | some (.table origin inner) =>
      if origin = .dotted ∨ (origin = .mention ∧ !path.isEmpty) then
        (insert? inner (next :: path) item).map fun inner => entries.set key (.table origin inner)
      else none
    | some (.tables (newest :: older)) =>
      if path.isEmpty then none
      else
        (insert? newest (next :: path) item).map fun newest =>
          entries.set key (.tables (newest :: older))
    | some _ => none

/-- Replaces what a header names.  The way to it leads through every table that is not written in
braces, and into the newest of repeated tables. -/
def alter? (entries : Entries) (path : List Text) (f : Option Item → Option Item) :
    Option Entries :=
  match path with
  | [] => none
  | [key] => (f (entries.find? key)).map (entries.set key)
  | key :: next :: path =>
    match entries.find? key with
    | none => (alter? [] (next :: path) f).map fun inner => entries.set key (.table .mention inner)
    | some (.table .braces _) => none
    | some (.table origin inner) =>
      (alter? inner (next :: path) f).map fun inner => entries.set key (.table origin inner)
    | some (.tables (newest :: older)) =>
      (alter? newest (next :: path) f).map fun newest => entries.set key (.tables (newest :: older))
    | some _ => none

/-- Gives several keys with points their values. -/
def insertAll? (entries : Entries) (pairs : List (List Text × Item)) : Option Entries :=
  pairs.foldlM (fun entries pair => entries.insert? pair.1 pair.2) entries

end Entries

/-- A header with the keys under it. -/
structure Section where
  /-- Whether the header is one of a repeated table. -/
  repeated : Bool
  path : List Text
  pairs : List (List Text × Item)

/-- The table of a section: a table with a header must not have one before, and a repeated table
begins anew. -/
def Section.item? (s : Section) (before : Option Item) : Option Item :=
  if s.repeated then
    match before with
    | none => (Entries.insertAll? [] s.pairs).map fun entries => .tables [entries]
    | some (.tables older) =>
      (Entries.insertAll? [] s.pairs).map fun entries => .tables (entries :: older)
    | some _ => none
  else
    match before with
    | none => (Entries.insertAll? [] s.pairs).map (.table .header)
    | some (.table .mention entries) => (Entries.insertAll? entries s.pairs).map (.table .header)
    | some _ => none

/-- The table that a document makes: the keys in front of the first header, and then the
sections. -/
def assemble? (pairs : List (List Text × Item)) (sections : List Section) : Option Entries := do
  let root ← Entries.insertAll? [] pairs
  sections.foldlM (fun entries s => entries.alter? s.path s.item?) root

end QueryOptions.Toml
