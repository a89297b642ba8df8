import RouteAudit.Scan.Result

/-! # Choosing what a report shows

A `ReportFilter` chooses endpoints and findings, and `SortKey` is what they are ordered by. Sorting
is stable in both directions: what is equal by the key keeps its order. -/

namespace RouteAudit

/-- What a report is limited to; an empty list or text does not limit it. -/
structure ReportFilter where
  exposures : List Exposure := []
  methods : List Method := []
  frameworks : List Framework := []
  /-- A part of the route, in any letter case. -/
  routePart : String := ""
  rules : List String := []
  showSuppressed : Bool := false
deriving DecidableEq, Repr

namespace ReportFilter

def keepsEndpoint (f : ReportFilter) (e : Endpoint) : Bool :=
  (f.exposures.isEmpty || f.exposures.contains e.exposure) &&
  (f.methods.isEmpty || e.methods.any fun m => f.methods.contains m) &&
  (f.frameworks.isEmpty || f.frameworks.contains e.framework) &&
  (f.routePart.isEmpty || Text.contains (Text.lower e.fullRoute) (Text.lower f.routePart))

def endpoints (f : ReportFilter) (es : List Endpoint) : List Endpoint := es.filter f.keepsEndpoint

def keepsRule (f : ReportFilter) (ruleId : String) : Bool :=
  f.rules.isEmpty || (f.rules.map Text.upper).contains ruleId

/-- The findings about kept endpoints that are severe enough. -/
def findings (f : ReportFilter) (kept : List Endpoint) (threshold : Severity) (fs : List Finding) :
    List Finding :=
  fs.filter fun d =>
    kept.contains d.endpoint && d.severity.atLeast threshold && f.keepsRule d.ruleId &&
      (f.showSuppressed || !d.suppressed)

end ReportFilter

/-! ### Order -/

/-- What a report is sorted by. -/
inductive SortKey where
  | severity
  | route
  | method
  | exposure
deriving DecidableEq, Repr

namespace SortKey

def choices : List (String × SortKey) :=
  [("severity", severity), ("route", route), ("method", method), ("classification", exposure)]

def ofName? (s : String) : Option SortKey := choices.lookup s

/-- The first endpoint does not come after the second. -/
def endpointLe (a b : Endpoint) : SortKey → Bool
  | severity => true
  | route => decide (a.fullRoute ≤ b.fullRoute)
  | method => decide (a.methodText ≤ b.methodText)
  | exposure => decide (a.exposure.rank ≤ b.exposure.rank)

/-- The first finding does not come after the second. -/
def findingLe (f g : Finding) : SortKey → Bool
  | severity => decide (f.severity.rank ≤ g.severity.rank)
  | other => endpointLe f.endpoint g.endpoint other

end SortKey

variable {α : Type}

/-- A stable sort; in descending order too, equal elements keep their order. -/
def sortWith (descending : Bool) (le : α → α → Bool) (xs : List α) : List α :=
  xs.mergeSort fun a b => if descending then le b a else le a b

/-- The endpoints by a key. The severity is a matter of findings and leaves them alone. -/
def sortEndpoints (k : SortKey) (descending : Bool) (es : List Endpoint) : List Endpoint :=
  match k with
  | .severity => es
  | other => sortWith descending (fun a b => other.endpointLe a b) es

def sortFindings (k : SortKey) (descending : Bool) (fs : List Finding) : List Finding :=
  sortWith descending (fun f g => k.findingLe f g) fs

end RouteAudit
