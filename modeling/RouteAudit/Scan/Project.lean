import RouteAudit.Data.Assoc
import RouteAudit.Files.Select
import RouteAudit.Rule.Engine
import RouteAudit.Scan.Discovery
import RouteAudit.Scan.Result
import RouteAudit.Scan.Schedule

/-! # Scanning a project

A `Scanner` has settings, a parser, finders, rules and a way to look for the patterns of
suppressions. `Scanner.scanPath?` scans the files that the settings select below a path,
`Scanner.scanContent` a single file given as bytes. Each file is scanned by itself, so that one that
fails contributes nothing but its reason; `Scanner.finish` puts the outcomes together, classifies
the endpoints, runs the rules and marks the findings that the settings suppress. A fault in a
pattern that is looked for on the way ends the scan without a result. -/

namespace RouteAudit

/-- What became of one file. -/
structure FileScan where
  path : String
  outcome : Except FileError Discovery

/-- What a pass through files gives: what became of each, and the steps on the way. -/
structure FilePass where
  scans : List FileScan
  progress : List ProgressStep
  /-- The scan of some file did not end in time. -/
  timedOut : Bool := false

/-- A scan with what was said about its course. -/
structure ScanRun where
  result : Except PatternFault ScanResult
  log : List LogEntry
  progress : List ProgressStep := []
  /-- The scan of some file did not end in time. -/
  timedOut : Bool := false

/-- All that a scan depends on besides the files. -/
structure Scanner where
  settings : Settings := {}
  parser : GoParser := Go.parseFile
  finders : List Finder
  rules : List Check := Check.standard
  /-- How the patterns of suppressions are looked for. -/
  search : RouteSearch := Suppression.finds

namespace Scanner

/-- The vocabulary with the keywords that the settings add. -/
def vocabularyFor (settings : Settings) (v : Vocabulary) : Vocabulary :=
  v.withAuthPatterns settings.authPatterns

/-- A scanner for all supported frameworks. -/
def standard (settings : Settings) (v : Vocabulary := .standard) : Scanner where
  settings
  finders := (Detector.standard (vocabularyFor settings v)).map Detector.finder

def ruleSet (s : Scanner) : RuleSet := ⟨s.settings.activeRules, s.rules⟩

def selection (s : Scanner) : Selection := ⟨s.settings.included, s.settings.excluded⟩

/-! ### One file -/

/-- Scan a file that was loaded, or keep the reason why it was not. -/
def scanLoaded (s : Scanner) (path : String) (loaded : Except FileError SourceFile) : FileScan :=
  ⟨path, loaded.bind (discover s.finders)⟩

def load (s : Scanner) (fs : FileSystem) (path : String) : Except FileError SourceFile :=
  SourceFile.load s.parser fs (some s.settings.sizeLimit) path

def scanFile (s : Scanner) (fs : FileSystem) (path : String) : FileScan :=
  s.scanLoaded path (s.load fs path)

/-- The messages about a file that was read from disk. -/
def fileLog (s : Scanner) (fs : FileSystem) (path : String) : List LogEntry :=
  match s.load fs path with
  | .ok file => discoveryLog s.finders file
  | .error e => [.ofSource ("Parse failure " ++ path ++ ": " ++ e.message)]

/-- The messages about a file of a pass. What a worker may still say about a file that was given up
is not among them. -/
def passLog (s : Scanner) (fs : FileSystem) (scan : FileScan) : List LogEntry :=
  match scan.outcome with
  | .error (.timedOut seconds) =>
    [.ofAnalyzer .error
      ("Timed out scanning " ++ scan.path ++ " after " ++ intText seconds ++ "s")]
  | .error .unawaited =>
    [.ofAnalyzer .error ("Task error for " ++ scan.path ++ ": " ++ FileError.waitMessage)]
  | _ => s.fileLog fs scan.path

/-! ### Putting files together -/

/-- The endpoints of a file, none if it failed. -/
def endpointsOf (scan : FileScan) : List Endpoint :=
  match scan.outcome with
  | .ok d => d.endpoints
  | .error _ => []

def frameworksOf (scan : FileScan) : List Framework :=
  match scan.outcome with
  | .ok d => d.frameworks
  | .error _ => []

/-- Path and reason of a file that failed. -/
def failureOf? (scan : FileScan) : Option (String × String) :=
  match scan.outcome with
  | .ok _ => none
  | .error e => some (scan.path, e.message)

/-- A finding, marked if the settings suppress it. -/
def reviewed (s : Scanner) (f : Finding) : Except PatternFault Finding := do
  match ← Suppression.reason? s.search f.ruleId f.route s.settings.suppressions with
  | some reason => return f.suppress reason
  | none => return f

/-- The findings of enabled rules about classified endpoints. -/
def findingsOf (s : Scanner) (endpoints : List Endpoint) : Except PatternFault (List Finding) :=
  ((s.ruleSet.evaluateAll endpoints).filter fun f =>
    s.settings.isRuleEnabled f.ruleId).mapM s.reviewed

/-- The classified endpoints of some files. -/
def classifiedIn (scans : List FileScan) : List Endpoint :=
  (scans.flatMap endpointsOf).map Endpoint.classified

/-- The result for what became of some files, with the findings about them. -/
def resultOf (scanPath : String) (files : List String) (elapsed : Nat) (scans : List FileScan)
    (findings : List Finding) : ScanResult where
  scanPath
  endpoints := classifiedIn scans
  findings
  files
  parseErrors := (scans.filterMap failureOf?).foldl (fun es e => Assoc.set e.1 e.2 es) []
  frameworks := (scans.flatMap frameworksOf).eraseDups
  elapsed := some elapsed

/-- The result of a scan from what became of its files. -/
def finish (s : Scanner) (scanPath : String) (files : List String) (elapsed : Nat)
    (scans : List FileScan) : Except PatternFault ScanResult :=
  (s.findingsOf (classifiedIn scans)).map (resultOf scanPath files elapsed scans)

/-- The message about a result. -/
def resultLog : Except PatternFault ScanResult → List LogEntry
  | .ok r =>
    [.ofAnalyzer .info ("Scan complete: " ++ natText r.endpoints.length ++ " endpoints, " ++
      natText r.activeFindings.length ++ " findings from " ++ natText r.files.length ++
      " files in " ++ intText r.durationMs ++ "ms")]
  | .error _ => []

/-- The messages at the end of a scan. -/
def finishLog (s : Scanner) (scans : List FileScan) (result : Except PatternFault ScanResult) :
    List LogEntry :=
  (scans.filterMap failureOf?).map (fun e =>
    .ofAnalyzer .debug ("Skipping " ++ e.1 ++ ": " ++ e.2)) ++
  [.ofRules ("Rule engine produced " ++
    natText (s.ruleSet.evaluateAll (classifiedIn scans)).length ++ " findings")] ++
  resultLog result

/-! ### Scans -/

/-- Scan bytes as if they were the only file of a project. -/
def scanContent (s : Scanner) (path : String) (bytes : List UInt8) (elapsed : Nat := 0) : ScanRun :=
  let loaded := SourceFile.parse s.parser path bytes
  let scans := [s.scanLoaded path loaded]
  let result := s.finish path [path] elapsed scans
  let log := match loaded with
    | .ok file => discoveryLog s.finders file
    | .error _ => []
  { result, log := log ++ s.finishLog scans result }

/-- The steps through some files. -/
def progressThrough (files : List String) : List ProgressStep :=
  files.zipIdx.map fun f => ⟨f.2 + 1, files.length, f.1⟩

/-- Scan files one after the other. -/
def scanInTurn (s : Scanner) (fs : FileSystem) (files : List String) : FilePass :=
  ⟨files.map (s.scanFile fs), progressThrough files, false⟩

/-- The scans of files as tasks. -/
def job (s : Scanner) (fs : FileSystem) (files : List String) : Job FileScan where
  tasks := files
  work := s.scanFile fs
  limit := s.settings.timeout
  late path := ⟨path, .error (.timedOut s.settings.timeout)⟩
  unawaited path := ⟨path, .error .unawaited⟩

/-- Scan files side by side. Some events happen first; what they leave open happens after them. -/
def scanSideBySide (s : Scanner) (fs : FileSystem) (files : List String)
    (events : List PoolEvent) : FilePass :=
  let p := Pool.run (s.job fs files) (events ++ Pool.closing files.length)
  ⟨p.results, p.progress, p.timedOut⟩

/-- Scan files, side by side when there are several of them and that is asked for. -/
def scanFiles (s : Scanner) (fs : FileSystem) (parallel : Bool) (files : List String)
    (events : List PoolEvent := []) : FilePass :=
  if parallel && decide (1 < files.length) then s.scanSideBySide fs files events
  else s.scanInTurn fs files

/-- The messages while files are scanned. -/
def scanLog (s : Scanner) (fs : FileSystem) (parallel : Bool) (target : Path)
    (files : List String) (pass : FilePass) : List LogEntry :=
  [.ofAnalyzer .info
    ("Scanning " ++ natText files.length ++ " Go files under " ++ target.text)] ++
  (if parallel && decide (1 < files.length) then
    [.ofAnalyzer .info
      ("Starting parallel scan with " ++ intText s.settings.workers ++ " workers")]
  else []) ++
  pass.scans.flatMap (s.passLog fs)

/-- Scan the files to scan at a target. -/
def scanTree (s : Scanner) (fs : FileSystem) (target : Path) (parallel : Bool) (elapsed : Nat)
    (events : List PoolEvent) (tree : FileTree) : ScanRun :=
  let files := (s.selection.collect target tree).map Path.text
  let pass := s.scanFiles fs parallel files events
  let result := s.finish target.text files elapsed pass.scans
  { result
    log := s.scanLog fs parallel target files pass ++ s.finishLog pass.scans result
    progress := pass.progress
    timedOut := pass.timedOut }

/-- Scan a file or the selected files below a directory; nothing is done where nothing stands. -/
def scanPath? (s : Scanner) (fs : FileSystem) (path : String) (parallel : Bool := false)
    (elapsed : Nat := 0) (events : List PoolEvent := []) : Option ScanRun :=
  let target := fs.resolve path
  (fs.at? target).map (s.scanTree fs target parallel elapsed events)

end Scanner

end RouteAudit
