import RouteAudit.Command.Run
import RouteAudit.Data.Calendar
import RouteAudit.Report.Plain
import Std.Time.DateTime.Timestamp

/-! # The program

`main` looks up the files that the arguments speak of, runs the command on them, and writes what
the run leaves behind. -/

namespace RouteAudit.Program

open Command

/-! ### Looking up files -/

/-- The tree at a path. A link to a directory is not followed. -/
partial def readTree (path : String) : IO (Option FileTree) := do
  let here := (← IO.currentDir) / path
  unless ← here.pathExists do return none
  if ← here.isDir then
    let mut entries := []
    for entry in ← here.readDir do
      let isLink := (← entry.path.symlinkMetadata).type == .symlink
      if isLink && (← entry.path.isDir) then
        entries := (entry.fileName, FileTree.empty) :: entries
      else
        let tree ← readTree entry.path.toString
        entries := (entry.fileName, tree.getD .dangling) :: entries
    return some (.directory entries)
  else
    return some (.file (← IO.FS.readBinFile here).toList)

/-- Add what stands at a path to the files at hand. -/
def addTree (root : FileTree) (p : Path) : IO FileTree := do
  match ← readTree p.text with
  | some tree => return root.put p.parts tree
  | none => return root

/-- Add a directory without what is in it. -/
def addDirectory (root : FileTree) (p : Path) : IO FileTree := do
  let here := (← IO.currentDir) / p.text
  if (← here.isDir) && (root.at? p.parts).isNone then return root.put p.parts .empty
  else return root

/-- The files that a scan may read: the target, the configuration that is named, and those that can
be found in the directories above the target. -/
def filesFor (directory : Path) (a : ScanArguments) : IO FileTree := do
  let target := directory.resolve (Path.ofText a.path)
  let named := a.config.toList.map fun file => directory.resolve (Path.ofText file)
  let near := target.ancestors.flatMap fun d => configNames.map d.child
  let written := (a.file.toList ++ a.common.logFile.toList).map fun file =>
    directory.resolve (Path.ofText file)
  let mut root := FileTree.empty.put directory.parts .empty
  for p in written do
    root ← addDirectory root p.parent
    root ← addDirectory root p
  for p in near ++ named do
    root ← addTree root p
  addTree root target

/-- The environment variables that settings are read from. -/
def variableNames : List String :=
  ["MAX_FILE_SIZE", "WORKERS", "TIMEOUT", "MIN_SEVERITY", "ENABLED_RULES", "DISABLED_RULES",
   "AUTH_PATTERNS"].map ("APIPOSTURE_" ++ ·)

def environment : IO (List (String × String)) := do
  let mut found := []
  for name in variableNames do
    if let some value ← IO.getEnv name then
      found := found ++ [(name, value)]
  return found

/-- The time of day. -/
def now : IO Moment := do
  return .ofSeconds (← Std.Time.Timestamp.now).toSecondsSinceUnixEpoch.val.toNat

def world (args : List String) : IO World := do
  let directory := Path.ofText (← IO.currentDir).toString
  let root ← match Invocation.ofArguments args with
    | .ok (.scan a) => filesFor directory a
    | .ok other => filesFor directory { common := other.common }
    | .error _ => pure FileTree.empty
  return {
    files := { root, directory }
    environment := ← environment
    ended := (← now).exchangeText ++ "Z" }

/-! ### Writing -/

def shownText : Shown → String
  | .item i => i.plain
  | .account f => f.message ++ "\n"

def writeConsole (c : Console) : IO Unit := do
  for s in c.shown do
    if c.onError then IO.eprint (shownText s) else IO.print (shownText s)

/-- A line of the journal. -/
def journalLine (time : String) (e : LogEntry) : String :=
  "\x7b\"timestamp\": \"" ++ time ++ "\", \"level\": \"" ++ e.level.name ++ "\", \"logger\": \"" ++
    e.origin ++ "\", \"message\": \"" ++ e.message ++ "\"\x7d"

def appendJournal (file : String) (log : List LogEntry) : IO Unit := do
  let time := (← now).exchangeText
  let handle ← IO.FS.Handle.mk file .append
  for e in log do
    handle.putStrLn (journalLine time e)

def writeOutcome (o : Outcome) : IO Unit := do
  for f in o.written do
    IO.FS.writeFile f.1.text f.2.plain
  IO.print o.stdout
  for c in o.consoles do
    writeConsole c
  if let some message := o.usageError then
    IO.eprintln message

/-- The file that the arguments name for the journal. -/
def journalFile? (args : List String) : Option String :=
  match Invocation.ofArguments args with
  | .ok invocation => invocation.common.logFile.filter fun file => !file.isEmpty
  | .error _ => none

end RouteAudit.Program

open RouteAudit in
def main (args : List String) : IO UInt32 := do
  match Command.run (← Program.world args) args with
  | .error e =>
    IO.eprintln (e.reason.message e.path)
    return 1
  | .ok o =>
    if let some file := Program.journalFile? args then
      Program.appendJournal file o.journal
    Program.writeOutcome o
    return o.exit
