import RouteAudit.Proofs.DiscoveryOrder
import RouteAudit.Proofs.ProjectScan
import RouteAudit.Proofs.SourceOrder
import RouteAudit.Proofs.StandardFiles
import RouteAudit.Report.Sarif

/-! # Which file a SARIF result names

The place of a result is the path of its file relative to what was scanned. Below a directory
this is the rest of the path, and its last segment is the name of the file
(`lastSegment_location`). Relative to itself a path is a dot (`location_self`), and a dot is no
name. So the results of a directory name their files, and those of a single file or of given
bytes never do (`names_file_iff_directory`).

Both need that a finding is about an endpoint of a scanned file and that the endpoint has the
path under which the file was scanned (`exists_scan_of_mem_findings`). -/

namespace RouteAudit

open Go (Node)

/-! ### Paths and texts -/

namespace Path

theorem name_ofText_ne_dot (s : String) : (ofText s).name ≠ "." := by
  rw [name, List.getLastD_eq_getLast?]
  cases hlast : (ofText s).parts.getLast? with
  | none => simp
  | some p =>
      have hp : p ∈ partsOf s := List.mem_of_getLast? hlast
      rw [partsOf, List.mem_filter] at hp
      simpa using (Bool.and_eq_true_iff.mp hp.2).2

theorem text_relativeTo?_self (p : Path) : ((p.relativeTo? p).getD p).text = "." := by
  rw [relativeTo?]
  split
  · -- the empty path is returned as it is
    next hempty => split <;> exact if_pos hempty
  · simp [text]

theorem relativeTo?_append (above rest : List String) :
    relativeTo? ⟨"/", above ++ rest⟩ ⟨"/", above⟩ = some ⟨"", rest⟩ := by
  simp [relativeTo?]

end Path

namespace SarifReport

/-- What stands after the last slash. -/
def lastSegment (uri : String) : String := (Text.split '/' uri).getLastD ""

theorem location_self (path : String) : location path path = "." :=
  (Path.ofText path).text_relativeTo?_self

section below
variable {above rest : List String} (hnames : ∀ p ∈ above ++ rest, Path.isName p = true)

include hnames

theorem location_below (hne : rest ≠ []) :
    location (Path.text ⟨"/", above⟩) (Path.text ⟨"/", above ++ rest⟩) =
      Selection.relative rest := by
  have habove : ∀ p ∈ above, Path.isName p = true := fun p hp =>
    hnames p (List.mem_append_left rest hp)
  rw [location, Path.ofText_text hnames, Path.ofText_text habove, Path.relativeTo?_append,
    Option.getD_some]
  simp [Path.text, Selection.relative, hne]

theorem lastSegment_location (hne : rest ≠ []) :
    lastSegment (location (Path.text ⟨"/", above⟩) (Path.text ⟨"/", above ++ rest⟩)) =
      (Path.ofText (Path.text ⟨"/", above ++ rest⟩)).name := by
  have hslash : ∀ p ∈ rest, '/' ∉ p.toList := fun p hp =>
    (Path.isName_iff.mp (hnames p (List.mem_append_right above hp))).2.2.2
  have hsplit : Text.split '/' (Selection.relative rest) = rest := by
    rw [Text.split, Selection.splitAt_relative hslash hne]
    simp
  rw [location_below hnames hne, lastSegment, hsplit, Path.ofText_text hnames, Path.name,
    List.getLastD_eq_getLast?, List.getLastD_eq_getLast?, List.getLast?_append_of_ne_nil _ hne]

end below

end SarifReport

/-! ### The file of a finding -/

theorem FileTree.eq_directory_of_isDirectory {t : FileTree} (h : t.isDirectory = true) :
    ∃ entries, t = .directory entries := by
  cases t with
  | directory entries => exact ⟨entries, rfl⟩
  | file content => cases h
  | dangling => cases h

theorem Selection.eq_target_of_mem_collect {s : Selection} {target p : Path} {t : FileTree}
    (ht : t.isDirectory = false) (hp : p ∈ s.collect target t) : p = target := by
  have hone : s.collect target t = if target.suffix == ".go" then [target] else [] := by
    cases t with
    | directory entries => cases ht
    | file content => rfl
    | dangling => rfl
  rw [hone, List.mem_ite_nil_right] at hp
  exact List.mem_singleton.mp hp.2

theorem Detector.filePath_of_mem_discover {d : Detector} {path : String} {root : Node}
    {e : Endpoint} (he : e ∈ d.discover path root) : e.filePath = path :=
  forall_mem_discover (P := fun e => e.filePath = path) (fun _ _ _ _ _ => rfl) e he

theorem SourceFile.path_of_parse {parser : GoParser} {path : String} {bytes : List UInt8}
    {file : SourceFile} (h : parse parser path bytes = .ok file) : file.path = path := by
  rw [parse] at h
  split at h
  · cases h
    rfl
  · cases h

theorem SourceFile.path_of_load {parser : GoParser} {fs : FileSystem} {limit : Option SizeLimit}
    {path : String} {file : SourceFile} (h : load parser fs limit path = .ok file) :
    file.path = path := by
  obtain ⟨t, -, hsize⟩ := Except.exists_of_bind_eq_ok h
  obtain ⟨_, -, hread⟩ := Except.exists_of_bind_eq_ok hsize
  obtain ⟨bytes, -, hparse⟩ := Except.exists_of_bind_eq_ok hread
  exact path_of_parse hparse

/-- The endpoints of a file have the path under which it was scanned. -/
def FileScan.KeepsPath (scan : FileScan) : Prop :=
  ∀ e ∈ Scanner.endpointsOf scan, e.filePath = scan.path

namespace Scanner

variable {s : Scanner}

theorem scanPath_of_finish {scanPath : String} {files : List String} {elapsed : ℕ}
    {scans : List FileScan} {r : ScanResult} (h : s.finish scanPath files elapsed scans = .ok r) :
    r.scanPath = scanPath := by
  obtain ⟨fs, -, rfl⟩ := exists_of_finish h
  rfl

/-- Every finding is about a file that was scanned. -/
theorem exists_scan_of_mem_findings (hlocal : ∀ r ∈ s.rules, r.Local) {scanPath : String}
    {files : List String} {elapsed : ℕ} {scans : List FileScan}
    (hscans : ∀ scan ∈ scans, scan.KeepsPath) {r : ScanResult}
    (hr : s.finish scanPath files elapsed scans = .ok r) {f : Finding} (h : f ∈ r.findings) :
    ∃ scan ∈ scans, f.endpoint.filePath = scan.path := by
  obtain ⟨fs, hfs, rfl⟩ := exists_of_finish hr
  obtain ⟨e, he, hclassified⟩ := List.mem_map.mp (endpoint_mem_of_findingsOf hlocal hfs h)
  obtain ⟨scan, hscan, he'⟩ := List.mem_flatMap.mp he
  refine ⟨scan, hscan, ?_⟩
  rw [← hclassified]
  exact hscans scan hscan e he'

section detectors
variable {ds : List Detector} (hfinders : s.finders = ds.map Detector.finder)

include hfinders

theorem keepsPath_scanLoaded {path : String} {loaded : Except FileError SourceFile}
    (hpath : ∀ file, loaded = .ok file → file.path = path) :
    (s.scanLoaded path loaded).KeepsPath := by
  intro e he
  cases hloaded : loaded with
  | error reason =>
      rw [hloaded] at he
      cases he
  | ok file =>
      obtain ⟨found, hfound, hsorted⟩ := discover_detectors file ds
      rw [← hfinders] at hfound
      have hkept : endpointsOf (s.scanLoaded path loaded) = found.endpoints := by
        rw [hloaded, scanLoaded, Except.bind, hfound]
        rfl
      have he' : e ∈ foundBy file ds := by
        rw [hkept, hsorted] at he
        exact List.mem_mergeSort.mp he
      obtain ⟨d, -, hd⟩ := List.mem_flatMap.mp he'
      exact (Detector.filePath_of_mem_discover hd).trans (hpath file hloaded)

theorem keepsPath_scanFile (fs : FileSystem) (path : String) : (s.scanFile fs path).KeepsPath :=
  keepsPath_scanLoaded hfinders fun _ => SourceFile.path_of_load

theorem keepsPath_of_passes {fs : FileSystem} {path : String} {scan : FileScan}
    (h : s.Passes fs path scan) : scan.KeepsPath := by
  cases hup : scan.isGivenUp with
  | false =>
      rw [h.2 hup]
      exact keepsPath_scanFile hfinders fs path
  | true =>
      obtain ⟨name, outcome⟩ := scan
      cases outcome with
      | ok found => cases hup
      | error e => exact fun _ he => absurd he List.not_mem_nil

theorem keepsPath_scanFiles {fs : FileSystem} {parallel : Bool} {files : List String}
    {events : List PoolEvent} :
    ∀ scan ∈ (s.scanFiles fs parallel files events).scans, scan.KeepsPath := by
  intro scan hscan
  obtain ⟨i, hi, rfl⟩ := List.getElem_of_mem hscan
  obtain ⟨hlength, hget⟩ := List.forall₂_iff_get.mp (s.forall₂_passes fs parallel files events)
  exact keepsPath_of_passes hfinders (hget i (hlength ▸ hi) hi)

variable (hlocal : ∀ r ∈ s.rules, r.Local)

include hlocal

/-- Every finding of a scan is about one of the collected files. -/
theorem filePath_mem_files {fs : FileSystem} {files : List String} {parallel : Bool}
    {elapsed : ℕ} {events : List PoolEvent} {scanPath : String} {r : ScanResult}
    (hr : s.finish scanPath files elapsed (s.scanFiles fs parallel files events).scans = .ok r)
    {f : Finding} (h : f ∈ r.findings) : f.endpoint.filePath ∈ files := by
  obtain ⟨scan, hscan, hpath⟩ :=
    exists_scan_of_mem_findings hlocal (keepsPath_scanFiles hfinders) hr h
  have hmem := List.mem_map_of_mem (f := fun scan => scan.path) hscan
  rw [map_path_of_passes (s.forall₂_passes fs parallel files events)] at hmem
  exact hpath ▸ hmem

theorem filePath_of_scanContent {path : String} {bytes : List UInt8} {elapsed : ℕ}
    {r : ScanResult} (hr : (s.scanContent path bytes elapsed).result = .ok r) {f : Finding}
    (h : f ∈ r.findings) : f.endpoint.filePath = path := by
  have hscans : ∀ scan ∈ [s.scanLoaded path (SourceFile.parse s.parser path bytes)],
      scan.KeepsPath := by
    intro scan hscan
    rw [List.mem_singleton.mp hscan]
    exact keepsPath_scanLoaded hfinders fun _ => SourceFile.path_of_parse
  obtain ⟨scan, hscan, hpath⟩ := exists_scan_of_mem_findings hlocal hscans hr h
  rw [List.mem_singleton.mp hscan] at hpath
  exact hpath

end detectors

end Scanner

/-! ### The report -/

namespace SarifReport

/-- The results that a report lists for its run. -/
def results (report : Value) : List Value :=
  match report.get? "runs" with
  | some (.list [run]) =>
    match run.get? "results" with
    | some (.list entries) => entries
    | _ => []
  | _ => []

/-- The place that a result gives for its file. -/
def uri? (entry : Value) : Option String :=
  match entry.get? "locations" with
  | some (.list [place]) =>
    let artifact := (place.get? "physicalLocation").bind (·.get? "artifactLocation")
    match artifact.bind (·.get? "uri") with
    | some (.text uri) => some uri
    | _ => none
  | _ => none

/-- The place in a result ends with the name of the file that the finding is about. -/
def NamesFile (f : Finding) (entry : Value) : Prop :=
  (uri? entry).map lastSegment = some (Path.ofText f.endpoint.filePath).name

theorem results_value (ended : String) (r : ScanResult) (findings : List Finding) :
    results (value ended r findings) =
      findings.map fun f => Value.object (resultFields r.scanPath f) := rfl

theorem uri?_resultFields (scanPath : String) (f : Finding) :
    uri? (.object (resultFields scanPath f)) = some (location scanPath f.endpoint.filePath) := rfl

theorem forall₂_results {P : Finding → Value → Prop} {ended : String} {r : ScanResult}
    {findings : List Finding}
    (h : ∀ f ∈ findings, P f (.object (resultFields r.scanPath f))) :
    List.Forall₂ P findings (results (value ended r findings)) := by
  rw [results_value, List.forall₂_map_right_iff, List.forall₂_same]
  exact h

theorem namesFile_iff {scanPath : String} {f : Finding} :
    NamesFile f (.object (resultFields scanPath f)) ↔
      lastSegment (location scanPath f.endpoint.filePath) =
        (Path.ofText f.endpoint.filePath).name := by
  rw [NamesFile, uri?_resultFields, Option.map_some, Option.some_inj]

theorem not_namesFile_self {scanPath : String} {f : Finding} (h : f.endpoint.filePath = scanPath) :
    ¬ NamesFile f (.object (resultFields scanPath f)) := by
  rw [namesFile_iff, h, location_self]
  exact fun hdot => Path.name_ofText_ne_dot scanPath hdot.symm

/-! ### Scans -/

theorem namesFile_below {s : Scanner} {fs : FileSystem} (hproper : fs.root.isProper = true)
    {path : String} {entries : List (String × FileTree)}
    (hdir : fs.at? (fs.resolve path) = some (.directory entries)) {f : Finding}
    (h : f.endpoint.filePath ∈ (s.filesBelow fs path entries).map Path.text) :
    NamesFile f (.object (resultFields (fs.resolve path).text f)) := by
  obtain ⟨p, hp, hpath⟩ := List.mem_map.mp h
  obtain ⟨rest, leaf, hparts, hne, -, hlists⟩ := s.exists_of_mem_filesBelow hproper hdir hp
  have hnames : ∀ q ∈ (fs.resolve path).parts ++ rest, Path.isName q = true := by
    rw [← hparts]
    exact FileTree.isName_of_listed? hproper hlists.entry
  have htext : f.endpoint.filePath = Path.text ⟨"/", (fs.resolve path).parts ++ rest⟩ := by
    rw [← hpath, ← hparts, ← hlists.absolute]
  rw [namesFile_iff, htext]
  exact lastSegment_location hnames hne

/-- Let the rules make findings about the endpoints that they look at. Then the results of a report
name the files of their findings exactly when a directory was scanned: not one of them does after
the scan of a single file or of given bytes. -/
theorem names_file_iff_directory (s : Scanner) (ds : List Detector)
    (hfinders : s.finders = ds.map Detector.finder) (hlocal : ∀ r ∈ s.rules, r.Local)
    (ended : String) :
    (∀ (fs : FileSystem) (path : String) (tree : FileTree) (parallel : Bool) (elapsed : ℕ)
        (events : List PoolEvent),
      fs.root.isProper = true → fs.at? (fs.resolve path) = some tree →
        ∃ run, s.scanPath? fs path parallel elapsed events = some run ∧
          ∀ r, run.result = .ok r → ∀ findings ⊆ r.findings,
            List.Forall₂ (fun f entry => NamesFile f entry ↔ tree.isDirectory = true) findings
              (results (value ended r findings))) ∧
    (∀ (path : String) (bytes : List UInt8) (elapsed : ℕ) (r : ScanResult),
      (s.scanContent path bytes elapsed).result = .ok r → ∀ findings ⊆ r.findings,
        List.Forall₂ (fun f entry => ¬ NamesFile f entry) findings
          (results (value ended r findings))) := by
  constructor
  · intro fs path tree parallel elapsed events hproper htree
    rw [Scanner.scanPath?, htree]
    refine ⟨_, rfl, ?_⟩
    intro r hr findings hsub
    refine forall₂_results ?_
    intro f hf
    have hfile := Scanner.filePath_mem_files hfinders hlocal hr (hsub hf)
    rw [Scanner.scanPath_of_finish hr]
    cases hdir : tree.isDirectory with
    | true =>
        obtain ⟨entries, rfl⟩ := FileTree.eq_directory_of_isDirectory hdir
        exact iff_of_true (namesFile_below hproper htree hfile) rfl
    | false =>
        obtain ⟨p, hp, hpath⟩ := List.mem_map.mp hfile
        rw [Selection.eq_target_of_mem_collect hdir hp] at hpath
        exact iff_of_false (not_namesFile_self hpath.symm) Bool.false_ne_true
  · intro path bytes elapsed r hr findings hsub
    refine forall₂_results ?_
    intro f hf
    rw [Scanner.scanPath_of_finish hr]
    exact not_namesFile_self (Scanner.filePath_of_scanContent hfinders hlocal hr (hsub hf))

/-- A file two directories down, with one route that anyone may read. -/
def shopFiles : FileSystem :=
  let source := "package main\n\nimport \"github.com/gin-gonic/gin\"\n\n" ++
    "func main() \x7b\n\tr := gin.New()\n\tr.GET(\"/items\", listItems)\n\x7d\n"
  { root := .directory [("shop", .directory [("api", .directory
      [("main.go", .file (source.toList.map fun c => UInt8.ofNat c.toNat))])])] }

/-- The scan of its directory has findings, and their results name the file. -/
theorem shopFiles_names_file :
    ∃ run r, (Scanner.standard {}).scanPath? shopFiles "/shop" = some run ∧ run.result = .ok r ∧
      r.findings ≠ [] ∧
      List.Forall₂ NamesFile r.findings (results (value "" r r.findings)) := by
  obtain ⟨tree, htree, hdir⟩ : ∃ tree, shopFiles.at? (shopFiles.resolve "/shop") = some tree ∧
      tree.isDirectory = true := ⟨_, rfl, rfl⟩
  obtain ⟨run, hrun, hnames⟩ := (names_file_iff_directory (Scanner.standard {}) _ rfl
    (fun _ => Check.local_of_mem_standard) "").1 shopFiles "/shop" tree false 0 [] (by decide) htree
  have hfound : ((Scanner.standard {}).scanPath? shopFiles "/shop").map
      (fun run => run.result.toOption.map fun r => r.findings.isEmpty) = some (some false) := by
    decide +kernel
  rw [hrun, Option.map_some, Option.some_inj] at hfound
  cases hr : run.result with
  | error f =>
      rw [hr] at hfound
      cases hfound
  | ok r =>
      rw [hr] at hfound
      refine ⟨run, r, hrun, hr, List.isEmpty_eq_false_iff.mp (Option.some.inj hfound), ?_⟩
      refine (hnames r hr _ (List.Subset.refl _)).imp ?_
      intro f entry hiff
      exact hiff.mpr hdir

/-- The scan of the file itself has findings too, but their results give a dot for its name. -/
theorem shopFiles_file_unnamed :
    (((Scanner.standard {}).scanPath? shopFiles "/shop/api/main.go").bind
      fun run => run.result.toOption).map (fun r =>
        (r.findings.map fun f => (Path.ofText f.endpoint.filePath).name,
          (results (value "" r r.findings)).map uri?)) =
      some (["main.go", "main.go"], [some ".", some "."]) := by
  decide +kernel

end SarifReport

end RouteAudit
