import QueryOptions.CommandLine.Arguments
import QueryOptions.CommandLine.Files
import QueryOptions.CommandLine.Report
import QueryOptions.Query.OfUrl

/-!
# A run of the program

A run takes its arguments and what it finds in its surroundings, and comes to an exit code and two
texts.  The configuration is settled first, whatever the command: it is in the file that the
arguments or the environment name, or else in the first of two files that is there, or else it is
the default.  A file that is there and is no configuration ends the run; the next file is not tried.

Then the query of the address is read.  If it is refused, the run ends with exit code 1, and only
the head of an explanation has been printed.
-/

namespace QueryOptions.CommandLine

/-- What a run finds in its surroundings. -/
structure Environment where
  /-- What the file at a path holds. -/
  read : Text → Reading
  /-- The variable that may name a file with the configuration. -/
  configVariable : Option Text
  /-- The directory of the user's own configurations. -/
  userDirectory : Option Text

/-- What a run comes to. -/
structure Outcome where
  exit : UInt32
  stdout : Text
  stderr : Text := []
  deriving DecidableEq

/-! ## The configuration -/

/-- Why there is no configuration. -/
inductive ConfigError where
  /-- The file cannot be read. -/
  | file (fault : FileFault)
  /-- The file is no configuration. -/
  | content
  deriving DecidableEq

/-- The reason in words; a fault of a file is told twice. -/
def ConfigError.message : ConfigError → Text
  | .file fault => "IO error: ".toList ++ fault.message ++ ": ".toList ++ fault.message
  | .content => "Configuration error: not a configuration".toList

/-- The configuration that a file holds. -/
def configOfFile (reading : Reading) : Except ConfigError Config :=
  match reading with
  | .error fault => .error (.file fault)
  | .ok t =>
    match Config.ofText? t with
    | some c => .ok c
    | none => .error .content

/-- The files in which a configuration is looked for, in this order. -/
def searchPaths (env : Environment) : List Text :=
  "odata-query.toml".toList ::
    (env.userDirectory.map (· ++ "/odata-query/config.toml".toList)).toList

/-- The configuration in the first of the files that is there. -/
def discover (env : Environment) : Except ConfigError Config :=
  match (searchPaths env).find? (isFile <| env.read ·) with
  | some path => configOfFile (env.read path)
  | none => .ok .default

/-- The configuration of a run, or the message about the lack of it. -/
def config (env : Environment) (path : Option Text) : Except Text Config :=
  match path with
  | some path =>
    (configOfFile (env.read path)).mapError fun e =>
      "Failed to load config from ".toList ++ path ++ ": ".toList ++ e.message
  | none =>
    (discover env).mapError fun e => "Failed to load config: ".toList ++ e.message

/-! ## The commands -/

/-- The end of a run that has gone well. -/
def Outcome.success (stdout : Text) : Outcome := ⟨0, stdout, []⟩

/-- The end of a run that has printed something and then gone wrong. -/
def Outcome.failure (stdout message : Text) : Outcome :=
  ⟨1, stdout, "Error: ".toList ++ message ++ ['\n']⟩

/-- Prints what is to be said about the query of an address, behind what is printed in any case. -/
def withQuery (style : KeyStyle) (address head : Text) (say : Option Query → Text) : Outcome :=
  match Query.ofUrl style address with
  | .ok q => .success (head ++ say q)
  | .error e =>
    .failure head ("Could not parse ".toList ++ quoted address ++ ": ".toList ++ e.message)

/-- The report on a query in a format. -/
def report : ReportFormat → Option Query → Text
  | .json, q => lines [Query.jsonText .pretty q]
  | .table, some q => table q
  | .table, none => lines [noQuery]

/-- Runs a command, given how keys are written and how a query is reported. -/
def runCommand (style : KeyStyle) (format : ReportFormat) : Command → Outcome
  | .report none => .success usage
  | .report (some address) => withQuery style address [] (report format)
  | .explain address =>
    withQuery style address (explanationHead style address) fun q =>
      (q.map (explanation style)).getD nothingToExplain
  | .render address =>
    withQuery style address [] fun q => lines [(q.map (Query.text style)).getD noQuery]
  | .keys => .success keyList

/-- Runs an invocation. -/
def runInvocation (env : Environment) (i : Invocation) : Outcome :=
  match config env i.options.config with
  | .error message => .failure [] message
  | .ok c =>
    runCommand (KeyStyle.ofDollar (c.usesDollar && !i.options.noPrefix))
      (i.options.format.getD c.format) i.command

/-- Runs the program. -/
def run (env : Environment) (arguments : List Text) : Outcome :=
  match read env.configVariable arguments with
  | .ok i => runInvocation env i
  | .error .version => .success version
  | .error .help => .success help
  | .error .usage => ⟨2, [], lines ["error: the arguments are out of order".toList]⟩

end QueryOptions.CommandLine
