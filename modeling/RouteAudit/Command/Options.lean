import RouteAudit.Command.Arguments
import RouteAudit.Http.Exposure
import RouteAudit.Http.Framework
import RouteAudit.Http.Method
import RouteAudit.Number.Numeral
import RouteAudit.Report.Filter
import RouteAudit.Report.Format

/-! # The options of the program

`Invocation.ofArguments` reads the arguments of the program into one of its commands. Arguments
that do not start with the name of a command belong to a scan. -/

namespace RouteAudit.Command

/-! ### What the commands are told -/

/-- What every command is told. -/
structure CommonArguments where
  noColor : Bool := false
  verbose : Bool := false
  logFile : Option String := none
deriving DecidableEq, Repr

/-- What a scan is told. -/
structure ScanArguments where
  common : CommonArguments := {}
  path : String := "."
  format : ReportFormat := .terminal
  file : Option String := none
  grouping : Option Grouping := none
  sortBy : SortKey := .severity
  descending : Bool := true
  quiet : Bool := false
  severity : Option Severity := none
  filter : ReportFilter := {}
  config : Option String := none
  parallel : Bool := false
  workers : Option Int := none
  failOn : Option Severity := none
deriving DecidableEq, Repr

/-! ### Options -/

variable {A α : Type}

/-- The value with a name among some choices. -/
def chosen (choices : List (String × α)) (name : String) : Except String α :=
  match choices.lookup name with
  | some a => .ok a
  | none =>
    .error ("invalid choice: " ++ Text.quoted name ++ " (choose from " ++
      Text.join ", " (choices.map fun c => Text.quoted c.1) ++ ")")

/-- An option whose value is one of some choices. -/
def choiceOption (names : List String) (choices : List (String × α)) (set : α → A → A) : Opt A :=
  ⟨names, .value fun text a => return set (← chosen choices text) a⟩

def textOption (names : List String) (set : String → A → A) : Opt A :=
  ⟨names, .value fun text a => .ok (set text a)⟩

def switchOption (names : List String) (set : A → A) : Opt A := ⟨names, .switch set⟩

def helpOption : Opt A := ⟨["-h", "--help"], .leave .help⟩

def severities : List (String × Severity) := Severity.all.map fun s => (s.name, s)

def exposures : List (String × Exposure) := Exposure.all.map fun e => (e.name, e)

def methods : List (String × Method) := Method.all.map fun m => (m.name, m)

def frameworks : List (String × Framework) := Framework.supported.map fun f => (f.name, f)

def formats : List (String × ReportFormat) := ReportFormat.all.map fun f => (f.name, f)

/-- The options of every command. -/
def commonOptions (change : (CommonArguments → CommonArguments) → A → A) : List (Opt A) :=
  [ helpOption,
    switchOption ["--no-color"] (change fun c => { c with noColor := true }),
    switchOption ["-v", "--verbose"] (change fun c => { c with verbose := true }),
    textOption ["--log-file"] fun text => change fun c => { c with logFile := some text } ]

/-- Change the filter of a scan's report. -/
def changeFilter (f : ReportFilter → ReportFilter) (a : ScanArguments) : ScanArguments :=
  { a with filter := f a.filter }

/-- The whole number of workers. -/
def workersOption : Opt ScanArguments :=
  ⟨["--workers"], .value fun text a =>
    match Numeral.readInt? text with
    | some n =>
      if 4300 < Numeral.digitCount text then .error ("invalid int value: " ++ Text.quoted text)
      else .ok { a with workers := some n }
    | none => .error ("invalid int value: " ++ Text.quoted text)⟩

def scanOptions : List (Opt ScanArguments) :=
  commonOptions (fun f a => { a with common := f a.common }) ++
  [ choiceOption ["-o", "--output"] formats fun f a => { a with format := f },
    textOption ["-f", "--file"] fun text a => { a with file := some text },
    choiceOption ["--group-by"] Grouping.choices fun g a => { a with grouping := some g },
    choiceOption ["--sort-by"] SortKey.choices fun k a => { a with sortBy := k },
    choiceOption ["--sort-dir"] [("asc", false), ("desc", true)] fun d a =>
      { a with descending := d },
    switchOption ["--show-suppressed"] (changeFilter fun f => { f with showSuppressed := true }),
    switchOption ["-q", "--quiet"] fun a => { a with quiet := true },
    choiceOption ["--severity"] severities fun s a => { a with severity := some s },
    choiceOption ["--classification"] exposures fun e =>
      changeFilter fun f => { f with exposures := f.exposures ++ [e] },
    ⟨["--method"], .value fun text a => do
      let m ← chosen methods (Text.upper text)
      return changeFilter (fun f => { f with methods := f.methods ++ [m] }) a⟩,
    textOption ["--route-contains"] fun text =>
      changeFilter fun f => { f with routePart := text },
    choiceOption ["--framework"] frameworks fun w =>
      changeFilter fun f => { f with frameworks := f.frameworks ++ [w] },
    textOption ["--rule"] fun text => changeFilter fun f => { f with rules := f.rules ++ [text] },
    textOption ["-c", "--config"] fun text a => { a with config := some text },
    switchOption ["--parallel"] fun a => { a with parallel := true },
    workersOption,
    choiceOption ["--fail-on"] severities fun s a => { a with failOn := some s } ]

/-! ### Commands -/

/-- What the program is asked to do. -/
inductive Invocation where
  | scan (a : ScanArguments)
  | rules (c : CommonArguments)
  | version (c : CommonArguments)
deriving DecidableEq, Repr

namespace Invocation

def commandNames : List String := ["scan", "rules", "version"]

/-- The options before the name of a command. -/
def programOptions : List (Opt Unit) := [helpOption, ⟨["--version"], .leave .version⟩]

/-- The line that says what is wrong with the arguments of a command. -/
def usageLine (command message : String) : String :=
  "apiposture" ++ (if command.isEmpty then "" else " " ++ command) ++ ": error: " ++ message

/-- A complaint with the name of the command that it comes from. -/
def complaintOf (command : String) : Stop → Stop
  | .usage message => .usage (usageLine command message)
  | other => other

/-- Read the arguments of a command; none may be left over. -/
def readAll (command : String) (options : List (Opt A)) (positional : Option (String → A → A))
    (start : A) (args : List String) : Except Stop A := do
  let (a, extras) ← (readArguments options positional start args).mapError (complaintOf command)
  unless extras.isEmpty do
    throw (.usage (usageLine "" ("unrecognized arguments: " ++ Text.join " " extras)))
  return a

/-- The arguments with the name of a command in front. -/
def withCommand (args : List String) : List String :=
  match args with
  | first :: _ =>
    if (commandNames ++ ["-h", "--help", "--version"]).contains first then args
    else "scan" :: args
  | [] => ["scan"]

def ofArguments (given : List String) : Except Stop Invocation := do
  let args := withCommand given
  let _ ← (marksOf programOptions args).mapError (complaintOf "")
  match args with
  | "scan" :: rest =>
    return .scan (← readAll "scan" scanOptions (some fun text a => { a with path := text }) {} rest)
  | "rules" :: rest => return .rules (← readAll "rules" (commonOptions id) none {} rest)
  | "version" :: rest => return .version (← readAll "version" (commonOptions id) none {} rest)
  | "--version" :: _ => throw .version
  | _ => throw .help

end Invocation

end RouteAudit.Command
