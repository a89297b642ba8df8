import RouteAudit.Endpoint
import RouteAudit.Http.Severity

/-! # Findings

A `Finding` is one rule's objection to one endpoint. -/

namespace RouteAudit

/-- A rule's objection to an endpoint. -/
structure Finding where
  ruleId : String
  ruleName : String
  severity : Severity
  message : String
  endpoint : Endpoint
  recommendation : String := ""
  suppressed : Bool := false
  suppressionReason : String := ""
deriving DecidableEq, Repr

namespace Finding

/-- The finding marked as suppressed for a reason. -/
def suppress (f : Finding) (reason : String) : Finding :=
  { f with suppressed := true, suppressionReason := reason }

def route (f : Finding) : String := f.endpoint.fullRoute

def location (f : Finding) : String := f.endpoint.location

end Finding

end RouteAudit
