import QueryOptions.CommandLine.Run
import QueryOptions.Proofs.CommandLine.Arguments
import QueryOptions.Proofs.Json.Lines

/-!
# The outcome of every run

A run settles its configuration first, and then what it comes to depends on very little: the style
of the keys, the format, the command and the URL.  `ConfigPlace` says which file holds the
configuration,

```text
  named by an argument
  named by the environment        if no argument names one
  in the working directory        if nothing is named, and it is there
  among the user's own files      if it is there, and the one before is not
```

and `Resolves` what the configuration is: what that file holds, or the default if there is no such
file.  A file that is broken is the one all the same, so then there is no configuration at all, and
the run fails whatever the command (`run_conforms`).

`Conforms` says what a command comes to.  A command fails only because the query of its URL is
refused, and that depends on the style alone, in which the configuration and the option for plain
keys come together.  Where it does not fail, `Prints` says what stands on the output, character by
character, if this is the query itself: the text of the query, or the lines of its JSON value.
-/

namespace QueryOptions.CommandLine

/-! ## Where the configuration is -/

/-- The file in the working directory. -/
def workingFile : Text := "odata-query.toml".toList

/-- The user's own file. -/
def userFile (directory : Text) : Text := directory ++ "/odata-query/config.toml".toList

/-- There is a file: it holds a text, or it holds something else. -/
inductive HasFile : Reading → Prop
  | text (t : Text) : HasFile (.ok t)
  | other : HasFile (.error .notText)

theorem isFile_iff {reading : Reading} : isFile reading = true ↔ HasFile reading := by
  constructor
  · intro h
    cases reading with
    | ok t => exact .text t
    | error fault =>
        cases fault with
        | notText => exact .other
        | _ => cases h
  · rintro (t | _) <;> rfl

theorem isFile_eq_false_iff {reading : Reading} : isFile reading = false ↔ ¬ HasFile reading := by
  rw [← isFile_iff, Bool.not_eq_true]

/-- The file that holds the configuration of a run, or no file at all, given the one that the
arguments name. -/
inductive ConfigPlace (env : Environment) : Option Text → Option Text → Prop
  | given (path : Text) : ConfigPlace env (some path) (some path)
  | named {path : Text} (hvariable : env.configVariable = some path) :
      ConfigPlace env none (some path)
  | working (hvariable : env.configVariable = none) (hworking : HasFile (env.read workingFile)) :
      ConfigPlace env none (some workingFile)
  | user {directory : Text} (hvariable : env.configVariable = none)
      (hworking : ¬ HasFile (env.read workingFile))
      (hdirectory : env.userDirectory = some directory)
      (huser : HasFile (env.read (userFile directory))) :
      ConfigPlace env none (some (userFile directory))
  | nowhere (hvariable : env.configVariable = none) (hworking : ¬ HasFile (env.read workingFile))
      (huser : ∀ directory ∈ env.userDirectory, ¬ HasFile (env.read (userFile directory))) :
      ConfigPlace env none none

/-- The configuration of a run, given the file that the arguments name. -/
inductive Resolves (env : Environment) (given : Option Text) : Config → Prop
  | file {path t : Text} {c : Config} (hplace : ConfigPlace env given (some path))
      (hread : env.read path = .ok t) (hconfig : Config.ofText? t = some c) : Resolves env given c
  | default (hplace : ConfigPlace env given none) :
      Resolves env given { usesDollar := true, format := .table }

/-- The first of the files in which a configuration is looked for that is there. -/
def found (env : Environment) : Option Text := (searchPaths env).find? (isFile <| env.read ·)

theorem found_of_working {env : Environment} (hworking : HasFile (env.read workingFile)) :
    found env = some workingFile :=
  List.find?_cons_of_pos (isFile_iff.mpr hworking)

theorem found_of_not_working {env : Environment} (hworking : ¬ HasFile (env.read workingFile)) :
    found env = (env.userDirectory.map userFile).toList.find? (isFile <| env.read ·) :=
  List.find?_cons_of_neg (isFile_iff.not.mpr hworking)

theorem ConfigPlace.eq {env : Environment} {given place : Option Text}
    (h : ConfigPlace env given place) : (given.or env.configVariable).or (found env) = place := by
  cases h with
  | given path => rfl
  | named hvariable =>
      rw [hvariable]
      rfl
  | working hvariable hworking =>
      rw [hvariable, found_of_working hworking]
      rfl
  | user hvariable hworking hdirectory huser =>
      rw [hvariable, found_of_not_working hworking, hdirectory]
      simpa using isFile_iff.mpr huser
  | nowhere hvariable hworking huser =>
      rw [hvariable, found_of_not_working hworking]
      simpa [isFile_eq_false_iff] using huser

/-- There is one place in any case. -/
theorem exists_configPlace (env : Environment) (given : Option Text) :
    ∃ place, ConfigPlace env given place := by
  cases given with
  | some path => exact ⟨_, .given path⟩
  | none =>
      cases hvariable : env.configVariable with
      | some path => exact ⟨_, .named hvariable⟩
      | none =>
          by_cases hworking : HasFile (env.read workingFile)
          · exact ⟨_, .working hvariable hworking⟩
          · by_cases huser : ∃ directory ∈ env.userDirectory,
                HasFile (env.read (userFile directory))
            · obtain ⟨directory, hdirectory, hfile⟩ := huser
              exact ⟨_, .user hvariable hworking hdirectory hfile⟩
            · refine ⟨_, .nowhere hvariable hworking fun directory hdirectory hfile => ?_⟩
              exact huser ⟨directory, hdirectory, hfile⟩

theorem configOfFile_eq_ok_iff {reading : Reading} {c : Config} :
    configOfFile reading = .ok c ↔ ∃ t, reading = .ok t ∧ Config.ofText? t = some c := by
  cases reading with
  | error fault => simp [configOfFile]
  | ok t =>
      simp only [configOfFile, Except.ok.injEq, exists_eq_left']
      cases Config.ofText? t with
      | none => simp
      | some c => simp

theorem config_eq_ok_of_some {env : Environment} {path : Option Text} {place : Text}
    (h : path.or (found env) = some place) {c : Config} :
    config env path = .ok c ↔ configOfFile (env.read place) = .ok c := by
  unfold config
  cases path with
  | some path =>
      cases h
      exact mapError_eq_ok
  | none =>
      have hfound : (searchPaths env).find? (isFile <| env.read ·) = some place := h
      unfold discover
      rw [hfound]
      exact mapError_eq_ok

theorem config_eq_default {env : Environment} {path : Option Text}
    (h : path.or (found env) = none) : config env path = .ok .default := by
  obtain ⟨rfl, hfound⟩ := Option.or_eq_none_iff.mp h
  have hnone : (searchPaths env).find? (isFile <| env.read ·) = none := hfound
  unfold config discover
  rw [hnone]
  rfl

/-- **The configuration of a run** is what the file holds that is named or comes first, and the
default if there is no such file. -/
theorem config_eq_ok_iff {env : Environment} {given : Option Text} {c : Config} :
    config env (given.or env.configVariable) = .ok c ↔ Resolves env given c := by
  constructor
  · intro h
    obtain ⟨place, hplace⟩ := exists_configPlace env given
    cases place with
    | some path =>
        rw [config_eq_ok_of_some hplace.eq] at h
        obtain ⟨t, hread, hconfig⟩ := configOfFile_eq_ok_iff.mp h
        exact .file hplace hread hconfig
    | none =>
        rw [config_eq_default hplace.eq] at h
        cases h
        exact .default hplace
  · rintro (⟨hplace, hread, hconfig⟩ | hplace)
    · rw [config_eq_ok_of_some hplace.eq]
      exact configOfFile_eq_ok_iff.mpr ⟨_, hread, hconfig⟩
    · exact config_eq_default hplace.eq

/-! ## What a command comes to -/

/-- The URL that a command is given. -/
def Command.url? : Command → Option Text
  | .report address => address
  | .explain address => some address
  | .render address => some address
  | .keys => none

/-- What is printed about the query of a URL, by the two commands that print it whole. -/
structure Prints (style : KeyStyle) (format : ReportFormat) (command : Command) (q : Option Query)
    (stdout : Text) : Prop where
  /-- A query is rendered as it is written in the same style. -/
  render : ∀ address r, command = .render address → q = some r → stdout = r.text style ++ ['\n']
  render_none : ∀ address, command = .render address → q = none →
    stdout = "(no query)\n".toList
  /-- A query is reported as a JSON value, and null if there is none. -/
  json : ∀ address, command = .report (some address) → format = .json →
    stdout = ((q.map Query.toJson).getD .null).text .pretty ++ ['\n']
  /-- The value stands there line by line. -/
  json_lines : ∀ address, command = .report (some address) → format = .json →
    stdout = ((q.map Query.toJson).getD .null).lines.flatMap (· ++ ['\n'])

/-- The outcome of a command for which keys are written in one style, and that reports in one
format. -/
structure Conforms (style : KeyStyle) (format : ReportFormat) (command : Command) (o : Outcome) :
    Prop where
  /-- The run fails if it is given a URL whose query is refused. -/
  exit_eq_one_iff : o.exit = 1 ↔
    ∃ address e, command.url? = some address ∧ Query.ofUrl style address = .error e
  /-- Otherwise it succeeds. -/
  exit_eq_zero : o.exit ≠ 1 → o.exit = 0
  /-- Only an explanation has been begun when a run fails. -/
  silent : o.exit = 1 → (∀ address, command ≠ .explain address) → o.stdout = []
  /-- What is printed when it succeeds. -/
  prints : ∀ address q, command.url? = some address → Query.ofUrl style address = .ok q →
    Prints style format command q o.stdout

theorem lines_singleton (t : Text) : lines [t] = t ++ ['\n'] :=
  List.flatMap_singleton ..

theorem exit_success_ne (stdout : Text) : (Outcome.success stdout).exit ≠ 1 := by
  show (0 : UInt32) ≠ 1
  decide

section

variable {style : KeyStyle} {format : ReportFormat} {command : Command} {address : Text}

/-- A success conforms if the query of the URL, if there is a URL, is read and printed as it should
be. -/
theorem conforms_success {stdout : Text}
    (hread : ∀ a, command.url? = some a → ∃ q, Query.ofUrl style a = .ok q ∧
      Prints style format command q stdout) :
    Conforms style format command (.success stdout) := by
  constructor
  · refine iff_of_false (exit_success_ne _) ?_
    rintro ⟨a, e, ha, he⟩
    obtain ⟨q, hq, -⟩ := hread a ha
    rw [hq] at he
    cases he
  · exact fun _ => rfl
  · exact fun hexit => absurd hexit (exit_success_ne _)
  · intro a q ha hq
    obtain ⟨r, hr, hprints⟩ := hread a ha
    obtain rfl : q = r := Except.ok.inj (hq.symm.trans hr)
    exact hprints

/-- A failure conforms if the query of the URL is refused and nothing has been printed but the head
of an explanation. -/
theorem conforms_failure {head : Text} {e : QueryError} (hurl : command.url? = some address)
    (h : Query.ofUrl style address = .error e) (hhead : (∀ a, command ≠ .explain a) → head = [])
    (message : Text) : Conforms style format command (.failure head message) := by
  constructor
  · exact iff_of_true rfl ⟨address, e, hurl, h⟩
  · exact fun hexit => absurd rfl hexit
  · exact fun _ => hhead
  · intro a q ha hq
    obtain rfl : address = a := Option.some.inj (hurl.symm.trans ha)
    rw [h] at hq
    cases hq

theorem conforms_withQuery {head : Text} {say : Option Query → Text}
    (hurl : command.url? = some address) (hhead : (∀ a, command ≠ .explain a) → head = [])
    (hsay : ∀ q, Prints style format command q (head ++ say q)) :
    Conforms style format command (withQuery style address head say) := by
  unfold withQuery
  cases h : Query.ofUrl style address with
  | error e => exact conforms_failure hurl h hhead _
  | ok q =>
      refine conforms_success fun a ha => ?_
      obtain rfl : address = a := Option.some.inj (hurl.symm.trans ha)
      exact ⟨q, h, hsay q⟩

theorem prints_explain (q : Option Query) (stdout : Text) :
    Prints style format (.explain address) q stdout := by
  constructor
  all_goals nofun

theorem prints_render (q : Option Query) :
    Prints style format (.render address) q
      (lines [(q.map (Query.text style)).getD noQuery]) := by
  rw [lines_singleton]
  refine ⟨?_, ?_, nofun, nofun⟩
  · rintro a r - rfl
    rfl
  · rintro a - rfl
    rfl

theorem prints_report (q : Option Query) :
    Prints style format (.report (some address)) q (report format q) := by
  have hjson : format = .json →
      report format q = ((q.map Query.toJson).getD .null).text .pretty ++ ['\n'] := by
    rintro rfl
    exact lines_singleton _
  refine ⟨nofun, nofun, fun _ _ => hjson, fun _ _ hformat => ?_⟩
  rw [hjson hformat, Json.text_pretty_append]

end

/-- **Every command conforms**, in every style and format. -/
theorem conforms_runCommand (style : KeyStyle) (format : ReportFormat) (command : Command) :
    Conforms style format command (runCommand style format command) := by
  cases command with
  | keys => exact conforms_success nofun
  | explain address =>
      exact conforms_withQuery rfl (fun h => absurd rfl (h address)) fun q => prints_explain q _
  | render address => exact conforms_withQuery rfl (fun _ => rfl) prints_render
  | report address =>
      cases address with
      | none => exact conforms_success nofun
      | some address => exact conforms_withQuery rfl (fun _ => rfl) prints_report

/-! ## The main statement -/

theorem run_of_read {env : Environment} {arguments : List Text} {j : Invocation}
    (h : read env.configVariable arguments = .ok j) : run env arguments = runInvocation env j := by
  unfold run
  rw [h]

/-- How keys are written in a run. -/
def Invocation.style (i : Invocation) (c : Config) : KeyStyle :=
  if c.usesDollar && !i.options.noPrefix then .dollar else .bare

/-- How the query is reported in a run: what the arguments say comes first. -/
def Invocation.format (i : Invocation) (c : Config) : ReportFormat :=
  i.options.format.getD c.format

/-- What a run comes to depends on its surroundings through the configuration only. -/
theorem runInvocation_of_resolves {env : Environment} {i : Invocation} {c : Config}
    (h : Resolves env i.options.config c) :
    runInvocation env (i.withVariable env.configVariable) =
      runCommand (i.style c) (i.format c) i.command := by
  have hconfig : config env (i.withVariable env.configVariable).options.config = .ok c :=
    config_eq_ok_iff.mpr h
  unfold runInvocation
  rw [hconfig]
  rfl

theorem runInvocation_of_not_resolves {env : Environment} {i : Invocation}
    (h : ∀ c, ¬ Resolves env i.options.config c) :
    ∃ message, runInvocation env (i.withVariable env.configVariable) = .failure [] message := by
  unfold runInvocation
  cases hconfig : config env (i.withVariable env.configVariable).options.config with
  | ok c => exact absurd (config_eq_ok_iff.mp hconfig) (h c)
  | error message => exact ⟨message, rfl⟩

/-- **The outcome of a run.**  If there is no configuration the run fails and prints nothing,
whatever the command.  Otherwise the outcome is the one of the command in the style and the format
that the configuration and the options settle.  The option for plain keys, which can be put in
front if it is not given, makes the run come to what it comes to with a configuration that differs
in asking for plain keys. -/
theorem run_conforms (env : Environment) {arguments : List Text} {j : Invocation}
    (haccept : read env.configVariable arguments = .ok j) :
    ∃ i, readFrom {} arguments = .ok i ∧
      ((∀ c, ¬ Resolves env i.options.config c) →
        (run env arguments).exit = 1 ∧ (run env arguments).stdout = []) ∧
      ∀ c, Resolves env i.options.config c →
        Conforms (i.style c) (i.format c) i.command (run env arguments) ∧
        (i.options.noPrefix = false →
          readFrom {} (noPrefixOption :: arguments) = .ok i.plainly ∧
          ∀ added, readFrom {} added = .ok i.plainly →
          ∀ env', (∃ k, read env'.configVariable arguments = .ok k) →
            Resolves env' i.options.config { c with usesDollar := false } →
              run env added = run env' arguments) := by
  obtain ⟨i, hi, hvariable, rfl⟩ := read_eq_ok_iff.mp haccept
  refine ⟨i, hi, fun hnone => ?_, fun c hc => ⟨?_, fun hplain => ⟨?_, ?_⟩⟩⟩
  · obtain ⟨message, hmessage⟩ := runInvocation_of_not_resolves hnone
    rw [run_of_read haccept, hmessage]
    exact ⟨rfl, rfl⟩
  · rw [run_of_read haccept, runInvocation_of_resolves hc]
    exact conforms_runCommand _ _ _
  · exact readFrom_noPrefixOption hi hplain
  · rintro added hadded env' ⟨k, hk⟩ hc'
    obtain ⟨i', hi', -, rfl⟩ := read_eq_ok_iff.mp hk
    obtain rfl : i = i' := Except.ok.inj (hi.symm.trans hi')
    have hread : read env.configVariable added = .ok (i.plainly.withVariable env.configVariable) :=
      read_eq_ok_iff.mpr ⟨i.plainly, hadded, hvariable, rfl⟩
    have hc_plain : Resolves env i.plainly.options.config c := hc
    -- both runs read the keys plainly, and nothing else of theirs differs
    have hstyle : i.plainly.style c = i.style { c with usesDollar := false } := by
      simp [Invocation.style, Invocation.plainly, Options.plainly]
    rw [run_of_read hread, run_of_read hk, runInvocation_of_resolves hc_plain,
      runInvocation_of_resolves hc', hstyle]
    rfl

/-- A run among some files, in which the environment names no configuration. -/
def among (files : FileTree) : Environment := ⟨files.read, none, some "home".toList⟩

/-- A broken configuration, in front of one that is in order. -/
def brokenFirst : FileTree :=
  [([workingFile], "[parser".toList),
    (["home".toList, "odata-query".toList, "config.toml".toList], "[parser]".toList)]

/-- A configuration that asks for plain keys. -/
def plainKeys : FileTree := [([workingFile], "[parser]\nuse_prefix = false".toList)]

/-- A configuration that asks for JSON. -/
def inJson : FileTree := [([workingFile], "[output]\nformat = 'json'".toList)]

theorem not_resolves_brokenFirst (c : Config) : ¬ Resolves (among brokenFirst) none c := by
  have hbroken : Config.ofText? "[parser".toList = none := by decide +kernel
  have hplace : ConfigPlace (among brokenFirst) none (some workingFile) := .working rfl (.text _)
  rw [← config_eq_ok_iff, config_eq_ok_of_some hplace.eq, configOfFile_eq_ok_iff]
  rintro ⟨t, ht, hc⟩
  obtain rfl : "[parser".toList = t := Except.ok.inj ht
  rw [hbroken] at hc
  cases hc

theorem resolves_userFile :
    Resolves (among brokenFirst) (some (userFile "home".toList)) ⟨true, .table⟩ :=
  .file (.given _) rfl (by decide +kernel)

theorem resolves_plainKeys : Resolves (among plainKeys) none ⟨false, .table⟩ :=
  .file (.working rfl (.text _)) rfl (by decide +kernel)

theorem resolves_inJson : Resolves (among inJson) none ⟨true, .json⟩ :=
  .file (.working rfl (.text _)) rfl (by decide +kernel)

theorem resolves_default : Resolves (among []) none ⟨true, .table⟩ := by
  have hnone (path : Text) (hpath : (among []).read path = .error .missing) :
      ¬ HasFile ((among []).read path) := by
    rw [hpath]
    nofun
  refine .default (.nowhere rfl (hnone _ rfl) fun directory hdirectory => ?_)
  cases hdirectory
  exact hnone _ rfl

/-- A URL whose query has an array in it and an object, and one that is empty. -/
def varied : Text := "http://h/?$select=a&$count=1&$filter=b%20in%20('\"',%202)".toList

/-- The query of this URL. -/
def variedQuery : Query where
  select := ["a".toList]
  count := some true
  filter := [⟨"b".toList, .isIn, .list [.string ['"'], .integer 2]⟩]

theorem ofUrl_varied : Query.ofUrl .dollar varied = .ok (some variedQuery) := by
  decide +kernel

/-- The report on its query in JSON. -/
def variedJson : Text :=
  (["\x7b", "  \"select\": [", "    \"a\"", "  ],", "  \"count\": true,", "  \"top\": null,",
    "  \"skip\": null,", "  \"order_by\": [],", "  \"filter\": [", "    \x7b",
    "      \"property\": \"b\",", "      \"operator\": \"in\",", "      \"value\": [",
    "        \"\\\"\",", "        2", "      ]", "    \x7d", "  ]",
    "\x7d"].map String.toList).flatMap (· ++ ['\n'])

/-- A broken configuration is not passed over, even if no query is read, unless an argument names
another; without any file all is well, and the option for plain keys does what a configuration with
plain keys does.  A query is rendered on one line, and reported in JSON on many if the configuration
or an option asks for it. -/
theorem run_conforms_among :
    (run (among brokenFirst) ["keys".toList]).exit = 1 ∧
      (run (among brokenFirst) ["keys".toList]).stdout = [] ∧
      (run (among brokenFirst) ["-c".toList, userFile "home".toList, "keys".toList]).exit = 0 ∧
      (run (among []) ["keys".toList]).exit = 0 ∧
      run (among []) [noPrefixOption, "http://h/?top=5".toList] =
        run (among plainKeys) ["http://h/?top=5".toList] ∧
      (run (among []) ["render".toList, varied]).stdout =
        "%24select=a&%24count=true&%24filter=b+in+%28%27%22%27%2C+2%29\n".toList ∧
      (run (among inJson) [varied]).stdout = variedJson ∧
      (run (among []) ["-f".toList, "json".toList, varied]).stdout = variedJson := by
  have hkeys : read none ["keys".toList] = .ok ⟨.keys, {}⟩ := rfl
  have hgiven : read none ["-c".toList, userFile "home".toList, "keys".toList] =
      .ok ⟨.keys, { config := some (userFile "home".toList) }⟩ := by
    decide +kernel
  have hreport : read none ["http://h/?top=5".toList] =
      .ok (Options.report { address := some "http://h/?top=5".toList }) := rfl
  have hrender : read none ["render".toList, varied] = .ok ⟨.render varied, {}⟩ := by
    decide +kernel
  have hvaried : read none [varied] = .ok (Options.report { address := some varied }) := by
    decide +kernel
  have hformat : read none ["-f".toList, "json".toList, varied] =
      .ok (Options.report { address := some varied, format := some .json }) := by
    decide +kernel
  have hjson : (((some variedQuery).map Query.toJson).getD .null).lines.flatMap (· ++ ['\n']) =
      variedJson := by
    decide +kernel
  -- nothing but an argument names a configuration here, so no invocation is changed by being read
  have hconforms {files : FileTree} {arguments : List Text} {i : Invocation} {c : Config}
      (hread : readFrom {} arguments = .ok i) (haccept : read none arguments = .ok i)
      (hc : Resolves (among files) i.options.config c) :
      Conforms (i.style c) (i.format c) i.command (run (among files) arguments) := by
    obtain ⟨k, hk, -, hconforms⟩ := run_conforms (among files) haccept
    obtain rfl : i = k := Except.ok.inj (hread.symm.trans hk)
    exact (hconforms c hc).1
  have hsucceeds {o : Outcome} (h : Conforms .dollar .table .keys o) : o.exit = 0 := by
    refine h.exit_eq_zero fun hone => ?_
    obtain ⟨address, e, haddress, -⟩ := h.exit_eq_one_iff.mp hone
    cases haddress
  obtain ⟨i, hi, hfails, -⟩ := run_conforms (among brokenFirst) hkeys
  obtain rfl := Except.ok.inj hi
  obtain ⟨hexit, hstdout⟩ := hfails not_resolves_brokenFirst
  refine ⟨hexit, hstdout, ?_, ?_, ?_, ?_, ?_, ?_⟩
  · exact hsucceeds (hconforms rfl hgiven resolves_userFile)
  · exact hsucceeds (hconforms rfl hkeys resolves_default)
  · obtain ⟨i, hi, -, hconforms⟩ := run_conforms (among []) hreport
    obtain rfl := Except.ok.inj hi
    obtain ⟨hadded, hsame⟩ := (hconforms _ resolves_default).2 rfl
    exact hsame _ hadded _ ⟨_, hreport⟩ resolves_plainKeys
  · have hprints := (hconforms rfl hrender resolves_default).prints varied _ rfl ofUrl_varied
    rw [hprints.render varied _ rfl rfl]
    decide +kernel
  · have hprints := (hconforms rfl hvaried resolves_inJson).prints varied _ rfl ofUrl_varied
    exact (hprints.json_lines varied rfl rfl).trans hjson
  · have hprints := (hconforms rfl hformat resolves_default).prints varied _ rfl ofUrl_varied
    exact (hprints.json_lines varied rfl rfl).trans hjson

end QueryOptions.CommandLine
