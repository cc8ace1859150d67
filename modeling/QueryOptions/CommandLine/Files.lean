import QueryOptions.Text.Basic

/-!
# Files

What the program has to know of the files around it: what a path leads to, and in which words a
file is refused.

`FileTree` is a directory with everything below it, given by the paths of its files.  Walking along
a path, a dot stays, two dots go back, and a name goes on; only a file may be at the end, and only
directories before it.
-/

namespace QueryOptions.CommandLine

/-- Why a file cannot be read. -/
inductive FileFault where
  /-- There is nothing at the path. -/
  | missing
  /-- Something on the way is no directory. -/
  | notDirectory
  /-- There is a directory at the path. -/
  | isDirectory
  /-- The file holds no text. -/
  | notText
  deriving DecidableEq, Repr

/-- The fault in the words of the system. -/
def FileFault.message : FileFault → Text
  | missing => "No such file or directory (os error 2)".toList
  | notDirectory => "Not a directory (os error 20)".toList
  | isDirectory => "Is a directory (os error 21)".toList
  | notText => "stream did not contain valid UTF-8".toList

/-- What reading the file at a path gives. -/
abbrev Reading := Except FileFault Text

/-- Whether there is a file at the path, readable or not. -/
def isFile : Reading → Bool
  | .ok _ => true
  | .error .notText => true
  | .error _ => false

/-- The files below a directory, each with the names on the way to it and its text. -/
abbrev FileTree := List (List Text × Text)

namespace FileTree

/-- The names on a path. -/
def names (path : Text) : List Text := path.splitOn '/'

/-- Whether there is a directory. -/
def isDirectory (tree : FileTree) (place : List Text) : Bool :=
  place.isEmpty || tree.any fun file => place.isPrefixOf file.1 && place != file.1

/-- Walks along the names, from a directory whose names on the way to it come last first. -/
def walk (tree : FileTree) (place : List Text) : List Text → Reading
  | [] => .error .isDirectory
  | name :: rest =>
    if name = [] ∨ name = ['.'] then walk tree place rest
    else if name = ['.', '.'] then walk tree (place.drop 1) rest
    else
      let next := name :: place
      match tree.lookup next.reverse with
      | some text => if rest.isEmpty then .ok text else .error .notDirectory
      | none => if tree.isDirectory next.reverse then walk tree next rest else .error .missing

/-- Reads the file at a path that begins in the directory.  A path from the root leads nowhere. -/
def read (tree : FileTree) (path : Text) : Reading :=
  if path.head? = some '/' then .error .missing else walk tree [] (names path)

end FileTree

end QueryOptions.CommandLine
