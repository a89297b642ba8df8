import RouteAudit.Routing.Detector
import RouteAudit.Scan.Journal
import RouteAudit.Scan.Source

/-! # Discovery in one file

A `Finder` looks for the endpoints of one framework and may give up. `discover` runs the finders
that accept a file and puts what they found in the order of lines and frameworks, so that the order
of the finders does not show; when one gives up, nothing of the others is kept. -/

namespace RouteAudit

/-- A search for the endpoints of one framework. -/
structure Finder where
  framework : Framework
  accepts : Go.Imports → Bool
  find : (filePath : String) → Go.Node → Except String (List Endpoint)
  /-- The lines of the registrations that the search passes over. -/
  skipped : (filePath : String) → Go.Node → List Nat

/-- A detector as a finder: it never gives up. -/
def Detector.finder (d : Detector) : Finder where
  framework := d.framework
  accepts := d.accepts
  find path root := .ok (d.discover path root)
  skipped := d.skippedLines

/-- A finder that gives up for a reason wherever it is used. -/
def Finder.failing (f : Finder) (reason : String) : Finder :=
  { f with find := fun _ _ => .error reason, skipped := fun _ _ => [] }

/-- What was found in a file. -/
structure Discovery where
  endpoints : List Endpoint := []
  frameworks : List Framework := []
deriving DecidableEq, Repr

/-- The order of the endpoints of a file. -/
def Endpoint.comesBefore (a b : Endpoint) : Bool :=
  decide (a.line < b.line) ||
    (a.line == b.line && decide (a.framework.name ≤ b.framework.name))

/-- Run the finders that accept a file. -/
def discover (finders : List Finder) (file : SourceFile) : Except FileError Discovery :=
  let accepted := finders.filter fun f => f.accepts file.imports
  match accepted.mapM fun f => f.find file.path file.root with
  | .ok found => .ok ⟨found.flatten.mergeSort Endpoint.comesBefore, accepted.map (·.framework)⟩
  | .error reason => .error (.failed reason)

/-- The registrations that finders passed over, up to the first finder that gives up. -/
def skippedBy (file : SourceFile) : List Finder → List Nat
  | [] => []
  | f :: rest =>
    f.skipped file.path file.root ++
      match f.find file.path file.root with
      | .ok _ => skippedBy file rest
      | .error _ => []

/-- The messages of a discovery. -/
def discoveryLog (finders : List Finder) (file : SourceFile) : List LogEntry :=
  let accepted := finders.filter fun f => f.accepts file.imports
  (skippedBy file accepted).map (fun line =>
    .ofDetectors (file.path ++ ":" ++ natText line ++ ": route path is not a literal, skipped")) ++
  match discover finders file with
  | .error (.failed reason) =>
    [.ofAnalyzer .error ("Unexpected error scanning " ++ file.path ++ ": " ++ reason)]
  | _ => []

end RouteAudit
