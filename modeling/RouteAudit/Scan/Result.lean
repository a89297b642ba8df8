import RouteAudit.Data.Assoc
import RouteAudit.Finding
import RouteAudit.Number.Binary64

/-! # Results of a scan

A `ScanResult` holds what a scan of a project found: endpoints, findings, the files looked at and
the reasons why files were passed over. Suppressed findings stay in it but count separately. -/

namespace RouteAudit

/-- What a scan found. -/
structure ScanResult where
  scanPath : String
  endpoints : List Endpoint := []
  findings : List Finding := []
  files : List String := []
  /-- Path and reason of the files that could not be scanned. -/
  parseErrors : List (String × String) := []
  frameworks : List Framework := []
  /-- The time the scan took in microseconds, once it has ended. -/
  elapsed : Option Nat := none
deriving DecidableEq, Repr

namespace ScanResult

/-- The time in whole milliseconds: seconds and milliseconds are both rounded to binary64 before the
fraction is dropped. -/
def durationMs (r : ScanResult) : Int :=
  match r.elapsed with
  | none => 0
  | some micros => (((Binary64.ofRatio false micros 1000000).mulNat 1000).truncate?).getD 0

def activeFindings (r : ScanResult) : List Finding := r.findings.filter fun f => !f.suppressed

def suppressedFindings (r : ScanResult) : List Finding := r.findings.filter fun f => f.suppressed

/-- The findings that count and are at least this severe. -/
def findingsAtLeast (r : ScanResult) (s : Severity) : List Finding :=
  r.activeFindings.filter fun f => f.severity.atLeast s

def hasCritical (r : ScanResult) : Bool := r.activeFindings.any fun f => f.severity == .critical

/-- How many of the findings have this severity. -/
def countSeverity (fs : List Finding) (s : Severity) : Nat := fs.countP fun f => f.severity == s

/-- The frameworks met, by name. -/
def frameworkNames (r : ScanResult) : List String :=
  ((Framework.all.filter fun f => r.frameworks.contains f).map Framework.name).mergeSort
    fun a b => decide (a ≤ b)

end ScanResult

end RouteAudit
