import RouteAudit.Report.Markdown
import RouteAudit.Report.Sarif
import RouteAudit.Report.Terminal

/-! # Formats of reports

`ReportFormat.report` writes a result in one of four formats. The one for terminals is a list of
items, the others are texts. -/

namespace RouteAudit

inductive ReportFormat where
  | json
  | markdown
  | sarif
  | terminal
deriving DecidableEq, Repr

/-- A report: items for a terminal or a text. -/
inductive Report where
  | items (is : List ConsoleItem)
  | text (s : String)
deriving DecidableEq, Repr

namespace ReportFormat

/-- Every format, in the order of the names. -/
def all : List ReportFormat := [json, markdown, sarif, terminal]

def name : ReportFormat → String
  | json => "json"
  | markdown => "markdown"
  | sarif => "sarif"
  | terminal => "terminal"

def ofName? (s : String) : Option ReportFormat := all.find? fun f => f.name == s

/-- The ending of the names of files that hold a report. -/
def extension : ReportFormat → String
  | json => ".json"
  | markdown => ".md"
  | sarif => ".sarif"
  | terminal => ".txt"

/-- The report on a result with the endpoints and findings chosen for it. -/
def report (ended : String) (r : ScanResult) (endpoints : List Endpoint) (findings : List Finding)
    (grouping : Option Grouping) (limit : Nat := TerminalReport.standardRows) :
    ReportFormat → Report
  | json => .text (JsonReport.text r endpoints findings grouping)
  | markdown => .text (MarkdownReport.text r endpoints findings grouping)
  | sarif => .text (SarifReport.text ended r findings)
  | terminal => .items (TerminalReport.items r endpoints findings grouping limit)

end ReportFormat

end RouteAudit
