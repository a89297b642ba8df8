import RouteAudit.Report.Json

/-! # The report as SARIF

The rules of the catalogue and one result for each finding, with the place of its endpoint relative
to the scanned path, in version 2.1.0 of the format. -/

namespace RouteAudit

/-- The level of a severity in the format. -/
def Severity.level : Severity → String
  | critical => "error"
  | high => "error"
  | medium => "warning"
  | low => "note"
  | info => "note"

namespace SarifReport

open Value (object texts)

/-- A word with its first letter in upper case and the others in lower case. -/
def capitalized (word : List Char) : List Char :=
  match word with
  | [] => []
  | c :: rest => Text.upperChar c ++ (Text.lower (String.ofList rest)).toList

/-- A title as one name: its words, which blanks and slashes part, with capitals and joined. -/
def compoundName (title : String) : String :=
  let words := (Text.splitAt ' ' (title.toList.map fun c => if c == '/' then ' ' else c)).filter
    fun w => !w.isEmpty
  String.ofList (words.flatMap capitalized)

def ruleValue (r : Rule) : Value :=
  object [
    ("id", .text r.id),
    ("name", .text (compoundName r.title)),
    ("shortDescription", object [("text", .text r.title)]),
    ("fullDescription", object [("text", .text r.description)]),
    ("defaultConfiguration", object [("level", .text r.severity.level)]),
    ("properties", object [("severity", .text r.severity.name)])]

/-- The place of a file: its path relative to the scanned one, if it lies below. -/
def location (scanPath filePath : String) : String :=
  let path := Path.ofText filePath
  ((path.relativeTo? (Path.ofText scanPath)).getD path).text

def resultFields (scanPath : String) (f : Finding) : List (String × Value) :=
  [ ("ruleId", .text f.ruleId),
    ("level", .text f.severity.level),
    ("message", object [("text", .text f.message)]),
    ("locations", .list [object [
      ("physicalLocation", object [
        ("artifactLocation", object [("uri", .text (location scanPath f.endpoint.filePath))]),
        ("region", object [("startLine", .nat f.endpoint.line)])])]]),
    ("properties", object [
      ("route", .text f.route),
      ("methods", texts f.endpoint.methodNames),
      ("framework", .text f.endpoint.framework.name),
      ("classification", .text f.endpoint.exposure.name),
      ("recommendation", .text f.recommendation)]) ]
  ++ if f.suppressed then
      [("suppressions", .list [object [
        ("kind", .text "external"), ("justification", .text f.suppressionReason)]])]
    else []

/-- The address of the format's schema. -/
def schema : String :=
  "https://raw.githubusercontent.com/oasis-tcs/sarif-spec/master/Schemata/sarif-schema-2.1.0.json"

/-- The report; `ended` is the time at which the scan ended. -/
def value (ended : String) (r : ScanResult) (findings : List Finding) : Value :=
  object [
    ("$schema", .text schema),
    ("version", .text "2.1.0"),
    ("runs", .list [object [
      ("tool", object [
        ("driver", object [
          ("name", .text "ApiPosture"),
          ("version", .text version),
          ("rules", .list (Rule.catalogue.map ruleValue))])]),
      ("results", .list (findings.map fun f => object (resultFields r.scanPath f))),
      ("invocations", .list [object [
        ("executionSuccessful", .bool true), ("endTimeUtc", .text ended)]])]])]

def text (ended : String) (r : ScanResult) (findings : List Finding) : String :=
  Json.indented (value ended r findings)

end SarifReport

end RouteAudit
