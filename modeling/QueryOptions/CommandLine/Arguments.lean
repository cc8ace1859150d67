import QueryOptions.Config

/-!
# Command-line arguments

The arguments are read from left to right.  Options may stand in front of the command and behind
the address, but what follows a command belongs to the command.  The value of an option is the next
argument, or is joined to the option, with or without a sign of equality; letters of options that
take no value may be joined too.  Behind `--` nothing is an option or a command any more.

No option and no address may be given twice.  The first argument that is out of order decides, and
asking for the version ends the reading at once.
-/

namespace QueryOptions.CommandLine

/-- What to do. -/
inductive Command where
  /-- Report the query of an address, or say how to call the program. -/
  | report (address : Option Text)
  /-- Explain the query of an address, field by field. -/
  | explain (address : Text)
  /-- Write the query of an address anew. -/
  | render (address : Text)
  /-- List the keys. -/
  | keys
  deriving DecidableEq

/-- The options. -/
structure Options where
  address : Option Text := none
  /-- Whether keys are read plainly, whatever the configuration says. -/
  noPrefix : Bool := false
  /-- Whether more is logged. -/
  verbose : Bool := false
  format : Option ReportFormat := none
  /-- The file that holds the configuration. -/
  config : Option Text := none
  deriving DecidableEq

/-- A command with its options. -/
structure Invocation where
  command : Command
  options : Options
  deriving DecidableEq

/-- Why no command is run. -/
inductive Halt where
  /-- The version is asked for. -/
  | version
  /-- Help is asked for. -/
  | help
  /-- The arguments are out of order. -/
  | usage
  deriving DecidableEq

/-! ## Options -/

/-- The options that take no value. -/
inductive Flag where
  | noPrefix
  | verbose
  | version
  | help

/-- The options that take a value. -/
inductive Setting where
  | format
  | config

/-- An option. -/
inductive OptionName where
  | flag (flag : Flag)
  | setting (setting : Setting)

/-- The option with a long name. -/
def OptionName.ofLong? (name : Text) : Option OptionName :=
  if name = "no-prefix".toList then some (.flag .noPrefix)
  else if name = "verbose".toList then some (.flag .verbose)
  else if name = "version".toList then some (.flag .version)
  else if name = "help".toList then some (.flag .help)
  else if name = "format".toList then some (.setting .format)
  else if name = "config".toList then some (.setting .config)
  else none

/-- The option with a letter. -/
def OptionName.ofShort? : Char → Option OptionName
  | 'v' => some (.flag .verbose)
  | 'V' => some (.flag .version)
  | 'h' => some (.flag .help)
  | 'f' => some (.setting .format)
  | 'c' => some (.setting .config)
  | _ => none

namespace Options

/-- Sets an option that takes no value. -/
def setFlag (o : Options) : Flag → Except Halt Options
  | .noPrefix => if o.noPrefix then .error .usage else .ok { o with noPrefix := true }
  | .verbose => if o.verbose then .error .usage else .ok { o with verbose := true }
  | .version => .error .version
  | .help => .error .help

/-- Sets an option to a value. -/
def set (o : Options) (value : Text) : Setting → Except Halt Options
  | .format =>
    match o.format, ReportFormat.ofName? value with
    | none, some format => .ok { o with format := some format }
    | _, _ => .error .usage
  | .config =>
    if o.config.isSome || value.isEmpty then .error .usage else .ok { o with config := some value }

/-- Sets the address. -/
def setAddress (o : Options) (address : Text) : Except Halt Options :=
  if o.address.isSome then .error .usage else .ok { o with address := some address }

/-- The options after an argument that begins with two hyphens, and the option that is still
without its value. -/
def long (o : Options) (argument : Text) : Except Halt (Options × Option Setting) :=
  let name := argument.takeWhile (· != '=')
  let value :=
    match argument.dropWhile (· != '=') with
    | _ :: value => some value
    | [] => none
  match OptionName.ofLong? name, value with
  | some (.flag flag), none => (o.setFlag flag).map fun o => (o, none)
  | some (.setting setting), none => .ok (o, some setting)
  | some (.setting setting), some value => (o.set value setting).map fun o => (o, none)
  | _, _ => .error .usage

/-- The options after the letters behind one hyphen, and the option that is still without its
value. -/
def short (o : Options) : Text → Except Halt (Options × Option Setting)
  | [] => .ok (o, none)
  | c :: rest =>
    match OptionName.ofShort? c, rest with
    | some (.flag flag), rest => do short (← o.setFlag flag) rest
    | some (.setting setting), [] => .ok (o, some setting)
    | some (.setting setting), '=' :: value => (o.set value setting).map fun o => (o, none)
    | some (.setting setting), value => (o.set value setting).map fun o => (o, none)
    | none, _ => .error .usage

end Options

/-! ## Commands -/

/-- Whether an argument begins like an option; a hyphen alone does not. -/
def isOption : Text → Bool
  | '-' :: _ :: _ => true
  | _ => false

/-- The arguments of a command: none is an option, except that `--` may be in front of them. -/
def operands : List Text → Except Halt (List Text)
  | [] => .ok []
  | argument :: rest =>
    if argument = "--".toList then .ok rest
    else if argument = "--help".toList ∨ argument = "-h".toList then .error .help
    else if isOption argument then .error .usage
    else (operands rest).map (argument :: ·)

/-- A command that takes an address and nothing else. -/
def withAddress (command : Text → Command) (arguments : List Text) : Except Halt Command := do
  match ← operands arguments with
  | [address] => return command address
  | _ => .error .usage

/-- A command that takes nothing. -/
def withNothing (command : Command) (arguments : List Text) : Except Halt Command := do
  match ← operands arguments with
  | [] => return command
  | _ => .error .usage

/-- How the arguments of a command are read, if a command has the given name. -/
def command? (name : Text) : Option (List Text → Except Halt Command) :=
  if name = "explain".toList then some (withAddress .explain)
  else if name = "render".toList then some (withAddress .render)
  else if name = "keys".toList then some (withNothing .keys)
  else if name = "help".toList then some fun _ => .error .help
  else none

/-! ## Arguments -/

/-- The invocation without a command. -/
def Options.report (o : Options) : Invocation := ⟨.report o.address, o⟩

/-- Reads the arguments behind `--`. -/
def readOperands (o : Options) : List Text → Except Halt Invocation
  | [] => .ok o.report
  | argument :: rest => do readOperands (← o.setAddress argument) rest

mutual

/-- Reads arguments, given the options in front of them. -/
def readFrom (o : Options) : List Text → Except Halt Invocation
  | [] => .ok o.report
  | argument :: rest =>
    if argument = "--".toList then readOperands o rest
    else
      match command? argument with
      | some command => (command rest).map fun command => ⟨command, o⟩
      | none =>
        if isOption argument then
          let letters := argument.drop 1
          match if letters.head? = some '-' then o.long (letters.drop 1) else o.short letters with
          | .error halt => .error halt
          | .ok (o, none) => readFrom o rest
          | .ok (o, some setting) => readValue o setting rest
        else
          match o.setAddress argument with
          | .error halt => .error halt
          | .ok o => readFrom o rest

/-- Reads the value of an option, and then further arguments. -/
def readValue (o : Options) (setting : Setting) : List Text → Except Halt Invocation
  | [] => .error .usage
  | value :: rest =>
    if isOption value then .error .usage
    else
      match o.set value setting with
      | .error halt => .error halt
      | .ok o => readFrom o rest

end

/-- The invocation that the arguments spell.  Without the option for it the configuration is in the
file that a variable of the environment names, if it is set. -/
def read (configVariable : Option Text) (arguments : List Text) : Except Halt Invocation := do
  let i ← readFrom {} arguments
  match i.options.config, configVariable with
  | none, some path => return { i with options := ← i.options.set path .config }
  | _, _ => return i

end QueryOptions.CommandLine
