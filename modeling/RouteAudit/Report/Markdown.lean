import RouteAudit.Report.Group
import RouteAudit.Scan.Result

/-! # The report as Markdown

Counts, the findings that are not suppressed, a table of the endpoints, and the files that failed.
The findings stand under their group, or under their severity, the gravest first. -/

namespace RouteAudit

/-- A sign for a severity. -/
def Severity.sign : Severity → String
  | critical => "🔴"
  | high => "🟠"
  | medium => "🟡"
  | low => "🔵"
  | info => "⚪"

namespace MarkdownReport

/-- Text set as code. -/
def code (s : String) : String := "`" ++ s ++ "`"

/-- A labelled entry of a list. -/
def entry (label s : String) : String := "- **" ++ label ++ ":** " ++ s

/-- A row of a table. -/
def row (cells : List String) : String := "| " ++ Text.join " | " cells ++ " |"

/-! ### Summary -/

def countRows (active : List Finding) : List String :=
  Severity.descending.map fun s =>
    row [s.title, natText (ScanResult.countSeverity active s)]

def summaryLines (r : ScanResult) (endpoints : List Endpoint) (active : List Finding) :
    List String :=
  let frameworks := if r.frameworkNames.isEmpty then "None" else Text.join ", " r.frameworkNames
  [ "# ApiPosture Security Scan Report",
    "",
    "## Summary",
    "",
    entry "Scan Path" (code r.scanPath),
    entry "Files Scanned" (natText r.files.length),
    entry "Frameworks Detected" frameworks,
    entry "Endpoints Found" (natText endpoints.length),
    entry "Security Findings" (natText active.length),
    "",
    "### Findings by Severity",
    "",
    "| Severity | Count |",
    "|----------|-------|" ]
  ++ countRows active ++ [""]

/-! ### Findings -/

def findingLines (f : Finding) : List String :=
  [ "#### " ++ f.ruleId ++ ": " ++ f.ruleName,
    "",
    entry "Route" (code f.route),
    entry "Methods" f.endpoint.methodText,
    entry "Location" (code f.location),
    entry "Message" f.message ]
  ++ (if f.recommendation.isEmpty then [] else [entry "Recommendation" f.recommendation])
  ++ [""]

/-- A section of findings under a heading. -/
def chapter (heading : String) (fs : List Finding) : List String :=
  ["### " ++ heading, ""] ++ fs.flatMap findingLines

/-- The findings by severity, the gravest first, without empty sections. -/
def bySeverity (active : List Finding) : List (Severity × List Finding) :=
  (Severity.descending.map fun s => (s, active.filter fun f => f.severity == s)).filter
    fun g => !g.2.isEmpty

def findingSections (grouping : Option Grouping) (active : List Finding) : List String :=
  match grouping with
  | some g => (groupFindings (some g) active).flatMap fun group => chapter group.1 group.2
  | none => (bySeverity active).flatMap fun group =>
    chapter (group.1.sign ++ " " ++ group.1.title ++ " Severity") group.2

/-! ### Endpoints and failures -/

def endpointRow (e : Endpoint) : String :=
  row [code e.fullRoute, e.methodText, e.exposure.name, e.framework.name, e.handler,
    e.shortLocation]

def endpointLines (endpoints : List Endpoint) : List String :=
  [ "## Discovered Endpoints",
    "",
    "| Route | Methods | Classification | Framework | Function | Location |",
    "|-------|---------|----------------|-----------|----------|----------|" ]
  ++ endpoints.map endpointRow ++ [""]

def failureLines (failures : List (String × String)) : List String :=
  ["## Parse Errors", ""] ++ failures.map (fun e => "- " ++ code e.1 ++ ": " ++ e.2) ++ [""]

/-! ### The report -/

def lines (r : ScanResult) (endpoints : List Endpoint) (findings : List Finding)
    (grouping : Option Grouping := none) : List String :=
  let active := findings.filter fun f => !f.suppressed
  summaryLines r endpoints active
  ++ (if active.isEmpty then []
      else ["## Security Findings", ""] ++ findingSections grouping active)
  ++ (if endpoints.isEmpty then [] else endpointLines endpoints)
  ++ (if r.parseErrors.isEmpty then [] else failureLines r.parseErrors)

def text (r : ScanResult) (endpoints : List Endpoint) (findings : List Finding)
    (grouping : Option Grouping := none) : String :=
  Text.join "\n" (lines r endpoints findings grouping)

end MarkdownReport

end RouteAudit
