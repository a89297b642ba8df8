import RouteAudit.Data.Value
import RouteAudit.Rule.Engine
import RouteAudit.Scan.Result

/-! # Records of results

The structured form of rules, endpoints, findings and scan results, as the reports list them. The
order of the fields is the order in which they are written. -/

namespace RouteAudit

open Value (object texts)

def Authorization.toValue (a : Authorization) : Value :=
  object [
    ("requires_auth", .bool a.requiresAuth),
    ("allows_anonymous", .bool a.allowsAnonymous),
    ("roles", texts a.roles),
    ("scopes", texts a.scopes),
    ("permissions", texts a.permissions),
    ("policies", texts a.policies),
    ("auth_dependencies", texts a.dependencies),
    ("inherited", .bool a.inherited),
    ("source", .text a.source.name)]

def Endpoint.toValue (e : Endpoint) : Value :=
  object [
    ("route", .text e.fullRoute),
    ("methods", texts e.methodNames),
    ("file_path", .text e.filePath),
    ("line_number", .nat e.line),
    ("framework", .text e.framework.name),
    ("classification", .text e.exposure.name),
    ("handler_name", .text e.handler),
    ("router_prefix", .text e.routerPrefix),
    ("middleware", texts e.middleware),
    ("authorization", e.authorization.toValue)]

/-- The part of an endpoint that a finding repeats. -/
def Endpoint.summary (e : Endpoint) : Value :=
  object [
    ("route", .text e.fullRoute),
    ("methods", texts e.methodNames),
    ("file_path", .text e.filePath),
    ("line_number", .nat e.line),
    ("framework", .text e.framework.name),
    ("handler_name", .text e.handler),
    ("classification", .text e.exposure.name)]

def Finding.toValue (f : Finding) : Value :=
  object [
    ("rule_id", .text f.ruleId),
    ("rule_name", .text f.ruleName),
    ("severity", .text f.severity.name),
    ("message", .text f.message),
    ("recommendation", .text f.recommendation),
    ("suppressed", .bool f.suppressed),
    ("suppression_reason", .text f.suppressionReason),
    ("endpoint", f.endpoint.summary)]

def Check.toValue (r : Check) : Value :=
  object [
    ("id", .text r.id),
    ("name", .text r.title),
    ("severity", .text r.severity.name),
    ("description", .text r.description)]

namespace ScanResult

/-- How many findings there are of each severity, the mildest first. -/
def severityCounts (r : ScanResult) : Value :=
  object (Severity.all.map fun s => (s.name, .nat (countSeverity r.activeFindings s)))

/-- The record of a result with the endpoints and findings chosen for a report. The counts are those
of the whole result. -/
def fields (r : ScanResult) (endpoints : List Endpoint) (findings : List Finding) :
    List (String × Value) :=
  [ ("scan_path", .text r.scanPath),
    ("files_scanned", .nat r.files.length),
    ("parse_errors", object (r.parseErrors.map fun e => (e.1, .text e.2))),
    ("frameworks_detected", texts r.frameworkNames),
    ("duration_ms", .int r.durationMs),
    ("summary", object [
      ("total_endpoints", .nat r.endpoints.length),
      ("total_findings", .nat r.activeFindings.length),
      ("suppressed_findings", .nat r.suppressedFindings.length),
      ("severity_counts", r.severityCounts)]),
    ("endpoints", .list (endpoints.map Endpoint.toValue)),
    ("findings", .list (findings.map Finding.toValue))]

def toValue (r : ScanResult) : Value := object (r.fields r.endpoints r.findings)

end ScanResult

end RouteAudit
