import RouteAudit.Config.Suppression
import RouteAudit.Data.Value
import RouteAudit.Http.Severity
import RouteAudit.Number.Shortest

/-! # Settings

`Settings` holds everything a scan can be told: which files to look at, which rules to run, what to
silence, and how to run. `Settings.toValue` writes settings in the form they are loaded from. -/

namespace RouteAudit

def Suppression.toValue (s : Suppression) : Value :=
  .object [("rule", .text s.rule), ("route", .text s.route), ("reason", .text s.reason)]

/-- The size in megabytes above which a file is passed over. -/
inductive SizeLimit where
  | whole (n : Int)
  | exact (x : Binary64)
deriving DecidableEq, Repr

namespace SizeLimit

/-- Ten megabytes. -/
def standard : SizeLimit := whole 10

def megabytes : SizeLimit → Binary64
  | whole n => .ofInt n
  | exact x => x

def text : SizeLimit → String
  | whole n => intText n
  | exact x => x.render

def toValue : SizeLimit → Value
  | whole n => .int n
  | exact x => .float x

/-- A file of this many bytes is too large. -/
def excludes (l : SizeLimit) (bytes : Nat) : Bool := l.megabytes.ratioExceeds bytes (1024 * 1024)

end SizeLimit

/-- What a scan is told. -/
structure Settings where
  /-- Globs of the files to look at. -/
  included : List String := ["**/*.go"]
  /-- Globs of the files and directories to leave out. -/
  excluded : List String :=
    ["**/vendor/**", "**/*_test.go", "**/testdata/**", "**/.git/**", "**/node_modules/**"]
  sizeLimit : SizeLimit := .standard
  enabledRules : List String := []
  disabledRules : List String := []
  suppressions : List Suppression := []
  /-- Further keywords that indicate authentication. -/
  authPatterns : List String := []
  minSeverity : String := "info"
  workers : Int := 4
  /-- Seconds that a file may take when files are scanned side by side. -/
  timeout : Int := 30
deriving DecidableEq, Repr

namespace Settings

/-- The globs of files to look at when none are given. -/
def standardIncluded : List String := ({} : Settings).included

/-! ### Rules -/

/-- The enabled rules less the disabled ones; `none` when no rule is named as enabled. -/
def activeRules (s : Settings) : Option (List String) :=
  if s.enabledRules.isEmpty then none
  else some (s.enabledRules.filter fun r => !s.disabledRules.contains r)

def isRuleEnabled (s : Settings) (ruleId : String) : Bool :=
  (s.enabledRules.isEmpty || s.enabledRules.contains ruleId) && !s.disabledRules.contains ruleId

/-- The severity from which on findings are reported. -/
def threshold (s : Settings) : Severity := Severity.parse s.minSeverity

/-! ### As a value -/

def toValue (s : Settings) : Value :=
  .object [
    ("include", .texts s.included),
    ("exclude", .texts s.excluded),
    ("rules", .object [
      ("enabled", .texts s.enabledRules),
      ("disabled", .texts s.disabledRules)]),
    ("suppressions", .list (s.suppressions.map Suppression.toValue)),
    ("auth_patterns", .texts s.authPatterns),
    ("min_severity", .text s.minSeverity),
    ("parallel_workers", .int s.workers),
    ("timeout_seconds", .int s.timeout),
    ("max_file_size_mb", s.sizeLimit.toValue)]

end Settings

end RouteAudit
