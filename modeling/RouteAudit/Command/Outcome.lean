import RouteAudit.Config.Load
import RouteAudit.Files.Tree
import RouteAudit.Report.Format
import RouteAudit.Scan.Journal

/-! # What a run of the program leaves behind

An `Outcome` is the exit code of a run together with all it wrote: on standard output, on consoles,
on progress bars, into files and into its journal. -/

namespace RouteAudit.Command

/-- Why a scan came to no report. -/
inductive Failure where
  | config (e : ConfigError)
  | missingPath (path : String)
  /-- The report cannot be written. -/
  | unwritable (path : String) (e : AccessError)
  /-- A path for the report has no name that could take an ending. -/
  | unnamed (path : String)
  /-- The repository was not cloned. -/
  | clone (reason : String)
  /-- The pattern of a suppression has a fault. -/
  | pattern (f : PatternFault)
deriving Repr

namespace Failure

def message : Failure → String
  | config e => e.message
  | missingPath path => "Scan path not found: " ++ path
  | unwritable path e => e.message path
  | unnamed path => "PosixPath(" ++ Text.quoted path ++ ") has an empty name"
  | clone reason => reason
  | pattern f => f.message

/-- The failure is one that users are told about and nothing more. -/
def isExpected : Failure → Bool
  | config e => e.isReported
  | missingPath _ => true
  | unwritable _ e => e == .missing
  | unnamed _ => false
  | clone _ => false
  | pattern _ => false

end Failure

/-- Something shown on a console: an item, or the account of a failure. -/
inductive Shown where
  | item (i : ConsoleItem)
  | account (f : Failure)

def Shown.text (s : String) : Shown := .item (.text s)

/-- A console and what it showed. -/
structure Console where
  /-- It writes to standard error. -/
  onError : Bool := false
  noColor : Bool := false
  shown : List Shown := []

/-- A progress bar and its labels and percentages. -/
structure ProgressBar where
  disabled : Bool
  updates : List (String × String)

/-- What a run leaves behind. -/
structure Outcome where
  exit : UInt32 := 0
  stdout : String := ""
  consoles : List Console := []
  progress : List ProgressBar := []
  /-- The files written, with their paths. -/
  written : List (Path × Report) := []
  journal : List LogEntry := []
  /-- What is wrong with the arguments. -/
  usageError : Option String := none

end RouteAudit.Command
