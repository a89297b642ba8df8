import RouteAudit.Command.Options
import RouteAudit.Command.Outcome
import RouteAudit.Config.File
import RouteAudit.Scan.Project

/-! # Running the program

`run` carries out the command that some arguments ask for, in a `World` of files and environment
variables, and yields all that the program writes. -/

namespace RouteAudit.Command

open ConsoleItem (styled)

/-- What a run finds around it. -/
structure World where
  files : FileSystem := {}
  environment : List (String × String) := []
  /-- Where cloned repositories are put. -/
  cloneDirectory : Path := ⟨"/", ["tmp", "apiposture_scan"]⟩
  /-- The files of the repository at an address, or why there are none. -/
  clone : String → Except String FileTree := fun _ => .error "cloning is not supported"
  /-- What happens while files are scanned side by side, before all workers have come to an end. -/
  events : List PoolEvent := []
  /-- The microseconds that a scan takes. -/
  elapsed : Nat := 0
  /-- The time at which a scan ends. -/
  ended : String := ""

/-! ### A scan -/

/-- The target is the address of a repository. -/
def isRepository (target : String) : Bool :=
  ["http://", "https://", "git@"].any fun start => Text.startsWith target start

/-- The state of a scan: what it left behind, and the console it speaks to. -/
structure Session where
  console : Console
  outcome : Outcome := {}

/-- The steps of a scan. A failure keeps what was done before it. -/
abbrev Step := ExceptT Failure (StateM Session)

def say (s : String) : Step Unit :=
  modify fun x => { x with console := { x.console with shown := x.console.shown ++ [.text s] } }

def display (items : List ConsoleItem) : Step Unit :=
  modify fun x =>
    { x with console := { x.console with shown := x.console.shown ++ items.map .item } }

def change (f : Outcome → Outcome) : Step Unit := modify fun x => { x with outcome := f x.outcome }

def note (entries : List LogEntry) : Step Unit :=
  change fun o => { o with journal := o.journal ++ entries }

/-- Clone a repository: the files with the clone among them, and its path. -/
def cloned (w : World) (address : String) : Step (FileSystem × String) := do
  say (styled "cyan" ("Cloning: " ++ address))
  match w.clone address with
  | .error reason => throw (.clone reason)
  | .ok tree =>
    say (styled "green" " Cloned")
    return ({ w.files with root := w.files.root.put w.cloneDirectory.parts tree },
      w.cloneDirectory.text)

/-- The settings of a scan: from the file that is named, else from the nearest one, else from the
environment. -/
def settingsFor (w : World) (fs : FileSystem) (a : ScanArguments) (target : String) :
    Step Settings := do
  let given := a.config.filter fun path => !path.isEmpty
  let settings ← match given.or (fs.findConfig? target) with
    | some path =>
      match Settings.ofFile fs path with
      | .ok s =>
        note [.ofConfig ("Loaded configuration from " ++ path)]
        pure s
      | .error e => throw (.config e)
    | none =>
      match Settings.ofEnvironment w.environment with
      | .ok s => pure s
      | .error e => throw (.config e)
  return { settings with workers := a.workers.getD settings.workers }

/-- The share of a step as a percentage. -/
def percentage (p : ProgressStep) : String :=
  ((Binary64.ofRatio false p.current p.total).mulNat 100).fixed 3

def progressUpdate (p : ProgressStep) : String × String :=
  ("[cyan]" ++ Text.take 25 (Path.ofText p.path).name, percentage p)

/-- Scan the target, with a progress bar. -/
def scanTarget (w : World) (fs : FileSystem) (a : ScanArguments) (settings : Settings)
    (target : String) : Step ScanResult := do
  match (Scanner.standard settings).scanPath? fs target a.parallel w.elapsed w.events with
  | none => throw (.missingPath target)
  | some run =>
    let bar : ProgressBar := ⟨a.format != .terminal || a.quiet, run.progress.map progressUpdate⟩
    change fun o => { o with progress := o.progress ++ [bar] }
    note run.log
    match run.result with
    | .ok result => return result
    | .error f => throw (.pattern f)

/-- The path of a report, with the ending of its format unless it has one. -/
def reportPath (format : ReportFormat) (file : String) : Except Failure Path :=
  let path := Path.ofText file
  if !path.suffix.isEmpty then .ok path
  else if path.name.isEmpty then .error (.unnamed path.text)
  else .ok (path.addSuffix format.extension)

/-- Put a report into a file, on the console or on standard output. -/
def deliver (fs : FileSystem) (a : ScanArguments) (report : Report) : Step Unit := do
  match a.file.filter fun file => !file.isEmpty with
  | some file =>
    let path ← liftExcept (reportPath a.format file)
    match fs.checkWrite path with
    | .error e => throw (.unwritable path.text e)
    | .ok () =>
      change fun o => { o with written := o.written ++ [(path, report)] }
      say (styled "green" (" Report written: " ++ path.text))
  | none =>
    match report with
    | .items is => display is
    | .text s => change fun o => { o with stdout := o.stdout ++ s ++ "\n" }
where
  liftExcept (r : Except Failure Path) : Step Path :=
    match r with
    | .ok p => pure p
    | .error f => throw f

/-- The findings that make a run fail. -/
def failing (a : ScanArguments) (r : ScanResult) : List Finding :=
  match a.failOn with
  | some s => r.findingsAtLeast s
  | none => []

/-- The end of a scan: a run with findings that are too severe fails. -/
def judge (a : ScanArguments) (r : ScanResult) : Step Unit := do
  let found := failing a r
  unless found.isEmpty do
    let level := (a.failOn.map Severity.name).getD ""
    say ("\n" ++ styled "bold red"
      (" Failed: " ++ natText found.length ++ " findings at or above " ++ level))
    change fun o => { o with exit := 1 }

/-- Scan a target that is there, and report. -/
def scanAndReport (w : World) (fs : FileSystem) (a : ScanArguments) (target : String) :
    Step Unit := do
  let settings ← settingsFor w fs a target
  let threshold := a.severity.getD settings.threshold
  let result ← scanTarget w fs a settings target
  let kept := a.filter.endpoints result.endpoints
  let endpoints := sortEndpoints a.sortBy a.descending kept
  let findings :=
    sortFindings a.sortBy a.descending (a.filter.findings kept threshold result.findings)
  deliver fs a (a.format.report w.ended result endpoints findings a.grouping)
  judge a result

/-- The steps of a scan. -/
def scanSteps (w : World) (a : ScanArguments) : Step Unit := do
  if isRepository a.path then
    let (fs, target) ← cloned w a.path
    scanAndReport w fs a target
  else
    match w.files.find a.path with
    | .error _ =>
      say (styled "red" ("Error: " ++ a.path ++ " not found"))
      change fun o => { o with exit := 1 }
    | .ok _ => scanAndReport w w.files a a.path

/-- Tell about a failure. One that was not expected is also noted, and accounted for on demand. -/
def tell (a : ScanArguments) (f : Failure) (x : Session) : Session :=
  let message := Shown.text ("\n" ++ styled "red" ("Error: " ++ f.message))
  let account := if !f.isExpected && a.common.verbose then [Shown.account f] else []
  let noted := if f.isExpected then [] else [LogEntry.ofCommand ("Scan failed: " ++ f.message)]
  { console := { x.console with shown := x.console.shown ++ [message] ++ account }
    outcome := { x.outcome with exit := 1, journal := x.outcome.journal ++ noted } }

def scan (w : World) (a : ScanArguments) : Outcome :=
  let start : Session :=
    { console := { onError := a.format != .terminal, noColor := a.common.noColor } }
  let ended := match (scanSteps w a).run.run start with
    | (.ok (), x) => x
    | (.error f, x) => tell a f x
  { ended.outcome with consoles := [ended.console] }

/-! ### The other commands -/

/-- A run that shows one item. -/
def showing (c : CommonArguments) (i : ConsoleItem) : Outcome :=
  { consoles := [{ noColor := c.noColor, shown := [.item i] }] }

def listRules (c : CommonArguments) : Outcome :=
  showing c (.table " ApiPosture Rules" ["ID", "Name", "Severity", "Description"]
    (Rule.catalogue.map fun r => [r.id, r.title, r.severity.name, r.description]))

def showVersion (c : CommonArguments) : Outcome :=
  showing c (.panel none (styled "bold cyan" ("ApiPosture v" ++ version) ++ "\n" ++
    styled "dim" "Go API authorization posture scanner: Gin | Echo | Chi | Fiber | net/http"))

/-! ### The program -/

def Invocation.common : Invocation → CommonArguments
  | .scan a => a.common
  | .rules c => c
  | .version c => c

def Invocation.run (w : World) : Invocation → Outcome
  | .scan a => Command.scan w a
  | .rules c => listRules c
  | .version c => showVersion c

/-- The journal holds warnings and errors, and everything when that is asked for. -/
def journalLevel (c : CommonArguments) : LogLevel := if c.verbose then .debug else .warning

/-- How the program is called. -/
def helpText : String :=
  "usage: apiposture [-h] [--version] \x7bscan,rules,version\x7d ...\n"

/-- The outcome of arguments that ask for nothing to be done. -/
def stopped : Stop → Outcome
  | .usage message => { exit := 2, usageError := some message }
  | .help => { stdout := helpText }
  | .version => { stdout := "apiposture " ++ version ++ "\n" }

/-- A file for the journal that cannot be opened. -/
structure JournalError where
  path : String
  reason : AccessError
deriving DecidableEq, Repr

/-- The file for the journal has to be writable. -/
def openJournal (w : World) (c : CommonArguments) : Except JournalError Unit :=
  match c.logFile.filter fun file => !file.isEmpty with
  | none => .ok ()
  | some file =>
    let path := w.files.resolve file
    (w.files.checkWrite path).mapError fun e => ⟨path.text, e⟩

/-- Run the program. -/
def run (w : World) (args : List String) : Except JournalError Outcome :=
  match Invocation.ofArguments args with
  | .error stop => .ok (stopped stop)
  | .ok invocation => do
    openJournal w invocation.common
    let o := invocation.run w
    return { o with journal := LogEntry.atLeast (journalLevel invocation.common) o.journal }

end RouteAudit.Command
