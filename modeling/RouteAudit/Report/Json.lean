import RouteAudit.Data.Json.Write
import RouteAudit.Report.Group
import RouteAudit.Report.Record

/-! # The report as JSON

The record of the result with the chosen endpoints and findings, the tool, and, when findings are
grouped, the groups. -/

namespace RouteAudit

/-- The version of the program. -/
def version : String := "1.0.0"

namespace JsonReport

def value (r : ScanResult) (endpoints : List Endpoint) (findings : List Finding)
    (grouping : Option Grouping := none) : Value :=
  .object (r.fields endpoints findings
    ++ [("tool", .object [("name", .text "apiposture"), ("version", .text version)])]
    ++ match grouping with
      | none => []
      | some g =>
        [("grouped_findings", .object ((groupFindings (some g) findings).map fun group =>
          (group.1, .list (group.2.map Finding.toValue))))])

def text (r : ScanResult) (endpoints : List Endpoint) (findings : List Finding)
    (grouping : Option Grouping := none) : String :=
  Json.indented (value r endpoints findings grouping)

end JsonReport

end RouteAudit
