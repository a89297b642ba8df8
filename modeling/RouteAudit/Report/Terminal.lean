import RouteAudit.Report.Group
import RouteAudit.Report.Item
import RouteAudit.Scan.Result

/-! # The report for a terminal

A summary, a table of the endpoints, a table for each group of findings, and the files that failed.
A table shows a limited number of rows and says how many are left out. -/

namespace RouteAudit

open ConsoleItem (styled)

/-! ### Styles -/

def Severity.style : Severity → String
  | critical => "bold red"
  | high => "red"
  | medium => "yellow"
  | low => "cyan"
  | info => "dim"

def Exposure.style : Exposure → String
  | anyone => "red"
  | authenticated => "green"
  | roleRestricted => "blue"
  | policyRestricted => "magenta"

def Severity.markup (s : Severity) : String := styled s.style (Text.upper s.name)

def Exposure.markup (e : Exposure) : String := styled e.style e.name

namespace TerminalReport

/-- The rows that a table shows at most. -/
def standardRows : Nat := 200

/-! ### Summary -/

/-- A count under a label. -/
def countLine (label : String) (n : Nat) : String := "   " ++ label ++ ": " ++ natText n

def bold (label : String) : String := styled "bold" label

def summaryText (r : ScanResult) (endpoints : List Endpoint) (findings : List Finding) : String :=
  let active := findings.filter fun f => !f.suppressed
  let suppressed := findings.countP fun f => f.suppressed
  let frameworks := if r.frameworkNames.isEmpty then "none" else Text.join ", " r.frameworkNames
  let lines := [
    bold "Scan Path:" ++ " " ++ r.scanPath,
    bold "Files Scanned:" ++ " " ++ natText r.files.length ++ " | Parse Errors: " ++
      natText r.parseErrors.length,
    bold "Frameworks:" ++ " " ++ frameworks,
    bold "Endpoints:" ++ " " ++ natText endpoints.length,
    bold "Duration:" ++ " " ++ intText r.durationMs ++ "ms",
    "",
    styled "bold cyan" "By Classification:"]
    ++ Exposure.all.map (fun x => countLine x.markup (endpoints.countP fun e => e.exposure == x))
    ++ ["", styled "bold cyan" "Findings:"]
    ++ Severity.descending.map (fun s => countLine s.markup (ScanResult.countSeverity active s))
    ++ (if suppressed = 0 then []
        else ["   " ++ styled "dim" ("suppressed: " ++ natText suppressed)])
  Text.join "\n" lines

def summary (r : ScanResult) (endpoints : List Endpoint) (findings : List Finding) : ConsoleItem :=
  .panel (some " ApiPosture Scan Results") (summaryText r endpoints findings)

/-! ### Tables -/

/-- What a table says about the rows it leaves out. -/
def moreText (n : Nat) : String := "... +" ++ natText n ++ " more"

def endpointRow (number : Nat) (e : Endpoint) : List String :=
  [natText number, e.framework.name, e.methodText, e.fullRoute, e.exposure.markup, e.handler,
   e.shortLocation]

def endpointTable (limit : Nat) (es : List Endpoint) : ConsoleItem :=
  .table " Discovered Endpoints"
    ["#", "Framework", "Methods", "Route", "Classification", "Handler", "File:Line"]
    ((es.take limit).zipIdx.map (fun e => endpointRow (e.2 + 1) e.1) ++
      if limit < es.length then
        [["...", "...", "...", moreText (es.length - limit), "", "", ""]]
      else [])

def findingRow (f : Finding) : List String :=
  [f.severity.markup, f.ruleId, f.route, f.endpoint.methodText,
   if f.suppressed then styled "dim" ("(suppressed) " ++ f.message) else f.message,
   f.endpoint.shortLocation]

def findingTable (limit : Nat) (title : String) (fs : List Finding) : ConsoleItem :=
  .table title ["Severity", "Rule", "Route", "Methods", "Message", "File:Line"]
    ((fs.take limit).map findingRow ++
      if limit < fs.length then [["...", "...", moreText (fs.length - limit), "", "", ""]]
      else [])

/-- The title of the table for a group. -/
def groupTitle (key : String) : String :=
  if key.isEmpty then " Security Findings" else " Security Findings: " ++ key

/-! ### The report -/

def items (r : ScanResult) (endpoints : List Endpoint) (findings : List Finding)
    (grouping : Option Grouping := none) (limit : Nat := standardRows) : List ConsoleItem :=
  [summary r endpoints findings]
  ++ (if endpoints.isEmpty then [] else [endpointTable limit endpoints])
  ++ (if findings.isEmpty then [.text (styled "green" "No security findings.")]
      else (groupFindings grouping findings).map fun g =>
        findingTable limit (groupTitle g.1) g.2)
  ++ r.parseErrors.map fun e => .text (styled "yellow" "Parse error" ++ " " ++ e.1 ++ ": " ++ e.2)

end TerminalReport

end RouteAudit
