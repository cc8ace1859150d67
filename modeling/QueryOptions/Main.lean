import QueryOptions.CommandLine.Run

/-!
# The program

Reads the files and variables that a run may ask for, runs, and prints what the run comes to.
-/

namespace QueryOptions.Main

open CommandLine

/-- What reading a file gives. -/
def readFile (path : Text) : IO Reading := do
  try
    let bytes ← IO.FS.readBinFile (String.ofList path)
    match Utf8.decode bytes.toList with
    | .ok t => return .ok t
    | .error _ => return .error .notText
  catch
    | .noFileOrDirectory .. => return .error .missing
    | .inappropriateType .. => return .error .isDirectory
    | _ => return .error .notDirectory

/-- The directory of the user's own configurations: the one that is set, if it begins at the root,
and otherwise the usual one at home. -/
def userDirectory : IO (Option Text) := do
  let set := (← IO.getEnv "XDG_CONFIG_HOME").map String.toList
  let home := (← IO.getEnv "HOME").map String.toList
  match set with
  | some ('/' :: rest) => return some ('/' :: rest)
  | _ => return home.map (· ++ "/.config".toList)

end QueryOptions.Main

open QueryOptions CommandLine in
/-- Runs the program with its arguments. -/
def main (arguments : List String) : IO UInt32 := do
  let arguments := arguments.map String.toList
  let configVariable := (← IO.getEnv "ODATA_QUERY_CONFIG").map String.toList
  let userDirectory ← Main.userDirectory
  let named := match read configVariable arguments with
    | .ok i => i.options.config.toList
    | .error _ => []
  let unread : Environment := ⟨fun _ => .error .missing, configVariable, userDirectory⟩
  let readings ← (named ++ searchPaths unread).mapM fun path => return (path, ← Main.readFile path)
  let env := { unread with read := fun path => (readings.lookup path).getD (.error .missing) }
  let outcome := run env arguments
  IO.print (String.ofList outcome.stdout)
  IO.eprint (String.ofList outcome.stderr)
  return outcome.exit
