import Mathlib.Data.List.Nodup
import RouteAudit.Proofs.FileSelection
import RouteAudit.Proofs.FindingReview
import RouteAudit.Proofs.ParallelScan

/-! # A project is scanned file by file

A scan of a directory reads the selected files, joins what was found in them, and only then
classifies the endpoints, runs the rules and reviews the findings. `project_scan_joins_iff` says
that nothing is gained or lost by that: the result is the join of the results that each file gives
when its bytes are scanned alone, where a file that is too large or cannot be read has its reason to
contribute and nothing else. So a file has no influence on what is found in the others, whatever its
content is, with one exception: if the pattern of a suppression has a fault, and it is looked for on
a finding about one file, then the whole project has no result (`fault_loses_other_files`).

The steps are taken one by one: joining commutes with classifying, with the rules and with the
review (`joins_finish`), and reading a selected file by its text finds the bytes at its path
(`alone_scanFile`). -/

namespace RouteAudit

/-! ### Collecting reasons -/

namespace Assoc

variable {α : Type}

theorem set_of_not_mem {key : String} {value : α} {xs : List (String × α)}
    (h : key ∉ xs.map Prod.fst) : set key value xs = xs ++ [(key, value)] := by
  induction xs with
  | nil => rfl
  | cons x rest ih =>
      rw [List.map_cons, List.mem_cons, not_or] at h
      have hrest : update key (fun _ => value) rest = rest ++ [(key, value)] := ih h.2
      rw [set, update, if_neg (Ne.symm h.1), hrest, List.cons_append]

theorem foldl_set {xs : List (String × α)} : ∀ {done : List (String × α)},
    ((done ++ xs).map Prod.fst).Nodup →
      xs.foldl (fun es e => set e.1 e.2 es) done = done ++ xs := by
  induction xs with
  | nil => intro done _; simp
  | cons x rest ih =>
      intro done h
      have hnew : x.1 ∉ done.map Prod.fst := by
        rw [List.map_append, List.nodup_append] at h
        exact fun hmem => h.2.2 x.1 hmem x.1 (by simp) rfl
      rw [List.foldl_cons, set_of_not_mem hnew, ih (by simpa using h), List.append_assoc,
        List.singleton_append]

end Assoc

/-! ### Results that are joined -/

/-- A result holds what some results hold, one after the other; frameworks are a set. -/
structure ScanResult.JoinOf (r : ScanResult) (parts : List ScanResult) : Prop where
  endpoints : r.endpoints = parts.flatMap fun q => q.endpoints
  findings : r.findings = parts.flatMap fun q => q.findings
  parseErrors : r.parseErrors = parts.flatMap fun q => q.parseErrors
  frameworks : ∀ f, f ∈ r.frameworks ↔ ∃ q ∈ parts, f ∈ q.frameworks

/-- What putting parts together comes to: their join, or the first fault among them. -/
inductive Joins :
    Except PatternFault ScanResult → List (Except PatternFault ScanResult) → Prop where
  | join {r : ScanResult} {qs : List ScanResult} (h : r.JoinOf qs) : Joins (.ok r) (qs.map .ok)
  | fault (before : List ScanResult) (f : PatternFault)
      (after : List (Except PatternFault ScanResult)) :
      Joins (.error f) (before.map .ok ++ .error f :: after)

theorem Joins.exists_ok_iff {x : Except PatternFault ScanResult}
    {parts : List (Except PatternFault ScanResult)} (h : Joins x parts) :
    (∃ r, x = .ok r) ↔ ∀ q ∈ parts, ∃ r, q = .ok r := by
  cases h with
  | join h =>
      refine iff_of_true ⟨_, rfl⟩ ?_
      intro q hq
      obtain ⟨r, -, rfl⟩ := List.mem_map.mp hq
      exact ⟨r, rfl⟩
  | fault before f after =>
      refine iff_of_false (fun ⟨r, hr⟩ => by cases hr) fun hall => ?_
      obtain ⟨r, hr⟩ := hall (.error f) (List.mem_append_right _ List.mem_cons_self)
      cases hr

namespace Scanner

variable (s : Scanner)

/-- The result of a project with a single file. -/
def alone (scan : FileScan) : Except PatternFault ScanResult :=
  s.finish scan.path [scan.path] 0 [scan]

theorem findingsOf_flatMap {α : Type} (f : α → List Endpoint) (xs : List α) :
    s.findingsOf (xs.flatMap f) = List.flatten <$> xs.mapM fun x => s.findingsOf (f x) := by
  rw [findingsOf, RuleSet.evaluateAll, List.flatMap_assoc, List.filter_flatMap, mapM_flatMap]
  rfl

theorem classifiedIn_eq_flatMap (scans : List FileScan) :
    classifiedIn scans = scans.flatMap fun scan => classifiedIn [scan] := by
  simp only [classifiedIn, List.map_flatMap, List.flatMap_singleton]

theorem failures_sublist (scans : List FileScan) :
    ((scans.filterMap failureOf?).map Prod.fst).Sublist (scans.map fun scan => scan.path) := by
  induction scans with
  | nil => exact List.Sublist.refl _
  | cons scan rest ih =>
      rw [List.filterMap_cons, List.map_cons]
      cases h : scan.outcome with
      | ok d =>
          simp only [failureOf?, h]
          exact ih.cons _
      | error e =>
          simp only [failureOf?, h, List.map_cons]
          exact ih.cons_cons _

theorem parseErrors_resultOf {scans : List FileScan} (h : (scans.map fun scan => scan.path).Nodup)
    (scanPath : String) (files : List String) (elapsed : ℕ) (findings : List Finding) :
    (resultOf scanPath files elapsed scans findings).parseErrors = scans.filterMap failureOf? :=
  Assoc.foldl_set ((failures_sublist scans).nodup h)

theorem joinOf_resultOf {scans : List FileScan} (h : (scans.map fun scan => scan.path).Nodup)
    (scanPath : String) (files : List String) (elapsed : ℕ) (found : FileScan → List Finding) :
    (resultOf scanPath files elapsed scans (scans.flatMap found)).JoinOf
      (scans.map fun scan => resultOf scan.path [scan.path] 0 [scan] (found scan)) where
  endpoints := by
    rw [List.flatMap_map]
    exact classifiedIn_eq_flatMap scans
  findings := by
    rw [List.flatMap_map]
    rfl
  parseErrors := by
    have hone : ∀ scan, (resultOf scan.path [scan.path] 0 [scan] (found scan)).parseErrors =
        (failureOf? scan).toList := by
      intro scan
      have hnodup : ([scan].map fun scan => scan.path).Nodup := List.nodup_singleton scan.path
      rw [parseErrors_resultOf hnodup]
      cases hf : failureOf? scan <;> simp [hf]
    rw [parseErrors_resultOf h, List.flatMap_map, List.filterMap_eq_flatMap_toList]
    simp only [hone]
  frameworks := by
    intro f
    simp [resultOf, List.mem_eraseDups]

variable {s} in
theorem map_alone {scans : List FileScan} {found : FileScan → List Finding}
    (h : ∀ scan ∈ scans, s.findingsOf (classifiedIn [scan]) = .ok (found scan)) :
    scans.map s.alone =
      (scans.map fun scan => resultOf scan.path [scan.path] 0 [scan] (found scan)).map .ok := by
  rw [List.map_map]
  refine List.map_congr_left fun scan hscan => ?_
  rw [alone, finish, h scan hscan]
  rfl

/-- The result for some files is the join of the results for each of them alone, or the first fault
among these. -/
theorem joins_finish {scans : List FileScan} (h : (scans.map fun scan => scan.path).Nodup)
    (scanPath : String) (files : List String) (elapsed : ℕ) :
    Joins (s.finish scanPath files elapsed scans) (scans.map s.alone) := by
  have hall := s.findingsOf_flatMap (fun scan => classifiedIn [scan]) scans
  rw [← classifiedIn_eq_flatMap] at hall
  obtain hok | ⟨before, scan, after, f, hsplit, hbefore, hscan, herr⟩ :=
    mapM_cases (fun scan => s.findingsOf (classifiedIn [scan])) scans
  · choose! found hfound using hok
    rw [finish, hall, mapM_eq_map hfound, map_alone hfound]
    exact .join (joinOf_resultOf h scanPath files elapsed found)
  · choose! found hfound using hbefore
    have hfault : s.alone scan = .error f := by
      rw [alone, finish, hscan]
      rfl
    rw [finish, hall, herr, hsplit, List.map_append, List.map_cons, hfault, map_alone hfound]
    exact .fault _ f _

/-! ### The share of one file -/

/-- What a file contributes that yields nothing but its reason. -/
def passedOver (path : String) (e : FileError) : ScanResult where
  scanPath := path
  files := [path]
  parseErrors := [(path, e.message)]
  elapsed := some 0

/-- What some bytes at a path contribute. -/
def shareOf (path : String) (bytes : List UInt8) : Except PatternFault ScanResult :=
  if s.settings.sizeLimit.excludes bytes.length then
    .ok (passedOver path (.tooLarge bytes.length s.settings.sizeLimit))
  else (s.scanContent path bytes).result

/-- What the file at a path contributes. -/
def share (fs : FileSystem) (p : Path) : Except PatternFault ScanResult :=
  match fs.at? p with
  | some (.file bytes) => s.shareOf p.text bytes
  | _ => .ok (passedOver p.text (.unreadable p.text .missing))

/-- What a file may add to the scan of a project: its share, or the reason why it was given up. -/
inductive Adds (path : String) (share : Except PatternFault ScanResult) :
    Except PatternFault ScanResult → Prop where
  | share : Adds path share share
  | givenUp {e : FileError} (h : e.isGivenUp = true) : Adds path share (.ok (passedOver path e))

theorem alone_error (path : String) (e : FileError) :
    s.alone ⟨path, .error e⟩ = .ok (passedOver path e) := rfl

end Scanner

/-- A path from the root on at which something is listed that is no directory. -/
structure FileSystem.Lists (fs : FileSystem) (p : Path) (leaf : FileTree) : Prop where
  absolute : p.root = "/"
  below : p.parts ≠ []
  entry : fs.root.listed? p.parts = some leaf
  isLeaf : leaf.isDirectory = false

/-- The files with other bytes at a path. -/
def FileSystem.replace (fs : FileSystem) (p : Path) (bytes : List UInt8) : FileSystem :=
  { fs with root := fs.root.put p.parts (.file bytes) }

namespace FileSystem

variable {fs : FileSystem} {p : Path} {leaf : FileTree}

theorem root_replace (fs : FileSystem) (p : Path) (bytes : List UInt8) :
    (fs.replace p bytes).root = fs.root.put p.parts (.file bytes) := rfl

theorem resolve_replace (fs : FileSystem) (p : Path) (bytes : List UInt8) (path : String) :
    (fs.replace p bytes).resolve path = fs.resolve path := rfl

theorem Lists.find_text (h : fs.Lists p leaf) (hproper : fs.root.isProper = true) :
    fs.find p.text = if leaf.stands then .ok leaf else .error .missing := by
  obtain ⟨root, parts⟩ := p
  obtain rfl : root = "/" := h.absolute
  exact FileSystem.find_text hproper h.below h.entry

theorem Lists.ofText_text (h : fs.Lists p leaf) (hproper : fs.root.isProper = true) :
    Path.ofText p.text = p := by
  obtain ⟨root, parts⟩ := p
  obtain rfl : root = "/" := h.absolute
  exact Path.ofText_text (FileTree.isName_of_listed? hproper h.entry)

theorem Lists.at? (h : fs.Lists p leaf) : fs.at? p = if leaf.stands then some leaf else none := by
  rw [FileSystem.at?, FileTree.at?_eq_filter h.below, h.entry]
  cases leaf <;> rfl

theorem at?_replace_of_ne {q : Path} {leaf' : FileTree} (hp : fs.Lists p leaf)
    (hq : fs.Lists q leaf') (hne : q ≠ p) (bytes : List UInt8) :
    (fs.replace p bytes).at? q = fs.at? q := by
  have hparts : q.parts ≠ p.parts := by
    intro hparts
    apply hne
    obtain ⟨root, parts⟩ := p
    obtain ⟨root', parts'⟩ := q
    obtain rfl : parts' = parts := hparts
    rw [show root' = root from hq.absolute.trans hp.absolute.symm]
  rw [FileSystem.at?, FileSystem.at?, FileTree.at?_eq_filter hq.below,
    FileTree.at?_eq_filter hq.below, root_replace, FileTree.listed?_put_of_not_isPrefix _ _
      (FileTree.not_isPrefix_of_leaf hp.entry hp.isLeaf hq.entry hparts)
      (FileTree.not_isPrefix_of_leaf hq.entry hq.isLeaf hp.entry (Ne.symm hparts))]

theorem at?_replace_self (fs : FileSystem) (p : Path) (bytes : List UInt8) :
    (fs.replace p bytes).at? p = some (.file bytes) :=
  FileTree.at?_of_listed? (FileTree.listed?_put_self _ _ _) rfl

end FileSystem

namespace Scanner

variable (s : Scanner) {fs : FileSystem} (hproper : fs.root.isProper = true)

include hproper

theorem alone_scanFile {p : Path} {leaf : FileTree} (h : fs.Lists p leaf) :
    s.alone (s.scanFile fs p.text) = s.share fs p := by
  have hfind := h.find_text hproper
  rw [scanFile, load, SourceFile.load, h.ofText_text hproper, share, h.at?, FileSystem.read, hfind]
  cases hleaf : leaf with
  | directory es =>
      rw [hleaf] at h
      cases h.isLeaf
  | dangling => exact s.alone_error p.text (.unreadable p.text .missing)
  | file bytes =>
      change s.alone (s.scanLoaded p.text (SourceFile.checkSize _ (.file bytes) >>= fun _ =>
        SourceFile.parse s.parser p.text bytes)) = s.shareOf p.text bytes
      rw [shareOf, SourceFile.checkSize, FileTree.size]
      split
      · exact s.alone_error p.text _
      · rfl

end Scanner

/-! ### The files of a scan -/

namespace Scanner

/-- The files that the scan of a directory goes through. -/
def filesBelow (s : Scanner) (fs : FileSystem) (path : String)
    (entries : List (String × FileTree)) : List Path :=
  s.selection.collect (fs.resolve path) (.directory entries)

/-- The scan of a path joins what some files add, in this order. In turn each of them adds its
share; side by side one that is given up adds its reason instead. There is a result exactly when no
file adds a fault. -/
def JoinsFiles (s : Scanner) (fs : FileSystem) (path : String) (files : List Path) : Prop :=
  ∀ parallel elapsed events, ∃ run parts, s.scanPath? fs path parallel elapsed events = some run ∧
    (∀ r, run.result = .ok r → r.files = files.map Path.text) ∧
    List.Forall₂ (fun p part => Adds p.text (s.share fs p) part) files parts ∧
    (parallel = false → parts = files.map (s.share fs)) ∧
    Joins run.result parts ∧
    ((∃ r, run.result = .ok r) ↔ ∀ part ∈ parts, ∃ r, part = .ok r)

theorem result_scanPath? (s : Scanner) {fs : FileSystem} {path : String}
    {entries : List (String × FileTree)}
    (hdir : fs.at? (fs.resolve path) = some (.directory entries)) (parallel : Bool) (elapsed : ℕ)
    (events : List PoolEvent) :
    ∃ run, s.scanPath? fs path parallel elapsed events = some run ∧
      run.result = s.finish (fs.resolve path).text ((s.filesBelow fs path entries).map Path.text)
        elapsed (s.scanFiles fs parallel ((s.filesBelow fs path entries).map Path.text)
          events).scans := by
  rw [scanPath?, hdir]
  exact ⟨_, rfl, rfl⟩

variable (s : Scanner) {fs : FileSystem} (hproper : fs.root.isProper = true) {path : String}
  {entries : List (String × FileTree)} (hdir : fs.at? (fs.resolve path) = some (.directory entries))

include hproper hdir

theorem isProper_directory : (FileTree.directory entries).isProper = true :=
  FileTree.isProper_of_listed? hproper (FileTree.listed?_of_at? hdir)

theorem exists_of_mem_filesBelow {p : Path} (hp : p ∈ s.filesBelow fs path entries) :
    ∃ rest leaf, p.parts = (fs.resolve path).parts ++ rest ∧ rest ≠ [] ∧
      (FileTree.directory entries).listed? rest = some leaf ∧ fs.Lists p leaf := by
  obtain ⟨parts, hparts, rfl⟩ := List.mem_map.mp hp
  obtain ⟨rest, leaf, hne, hrest_eq, hrest, hleaf⟩ :=
    Selection.exists_listed?_of_mem_select (isProper_directory hproper hdir) hparts
  obtain rfl : rest = parts := hrest_eq.symm
  have hentry : fs.root.listed? ((fs.resolve path).parts ++ rest) = some leaf := by
    rw [FileTree.listed?_append, FileTree.listed?_of_at? hdir, Option.bind_some, hrest]
  exact ⟨rest, leaf, rfl, hne, hrest, rfl, by simp [hne], hentry, hleaf⟩

theorem nodup_filesBelow : (s.filesBelow fs path entries).Nodup := by
  refine List.Nodup.map ?_ (Selection.nodup_select (isProper_directory hproper hdir))
  intro a b hab
  simpa using hab

theorem nodup_text_filesBelow : ((s.filesBelow fs path entries).map Path.text).Nodup := by
  refine List.Nodup.map_on ?_ (nodup_filesBelow s hproper hdir)
  intro p hp q hq heq
  obtain ⟨_, _, -, -, -, hlists⟩ := exists_of_mem_filesBelow s hproper hdir hp
  obtain ⟨_, _, -, -, -, hlists'⟩ := exists_of_mem_filesBelow s hproper hdir hq
  rw [← hlists.ofText_text hproper, ← hlists'.ofText_text hproper, heq]

theorem adds_of_passes {p : Path} {scan : FileScan} (hp : p ∈ s.filesBelow fs path entries)
    (h : s.Passes fs p.text scan) : Adds p.text (s.share fs p) (s.alone scan) := by
  obtain ⟨name, outcome⟩ := scan
  obtain ⟨hpath, hscan⟩ := h
  obtain rfl : name = p.text := hpath
  cases hup : FileScan.isGivenUp ⟨p.text, outcome⟩ with
  | false =>
      obtain ⟨_, leaf, -, -, -, hlists⟩ := exists_of_mem_filesBelow s hproper hdir hp
      rw [hscan hup, s.alone_scanFile hproper hlists]
      exact .share
  | true =>
      cases outcome with
      | ok found => cases hup
      | error e => exact .givenUp hup

/-- The scan of a directory joins what its files add. -/
theorem joinsFiles_filesBelow :
    s.JoinsFiles fs path (s.filesBelow fs path entries) := by
  intro parallel elapsed events
  obtain ⟨run, hrun, hresult⟩ := s.result_scanPath? hdir parallel elapsed events
  have hpaths : ((s.scanFiles fs parallel ((s.filesBelow fs path entries).map Path.text)
      events).scans.map fun scan => scan.path).Nodup := by
    rw [map_path_of_passes (s.forall₂_passes fs parallel _ events)]
    exact nodup_text_filesBelow s hproper hdir
  have hjoins := s.joins_finish hpaths (fs.resolve path).text
    ((s.filesBelow fs path entries).map Path.text) elapsed
  rw [← hresult] at hjoins
  have hpasses := s.forall₂_passes fs parallel ((s.filesBelow fs path entries).map Path.text) events
  rw [List.forall₂_map_left_iff, List.forall₂_iff_zip] at hpasses
  have hadds : List.Forall₂ (fun p part => Adds p.text (s.share fs p) part)
      (s.filesBelow fs path entries) _ :=
    List.forall₂_map_right_iff.mpr (List.forall₂_iff_zip.mpr ⟨hpasses.1, fun hmem =>
      s.adds_of_passes hproper hdir (List.of_mem_zip hmem).1 (hpasses.2 hmem)⟩)
  refine ⟨run, _, hrun, ?_, hadds, ?_, hjoins, hjoins.exists_ok_iff⟩
  · intro r hr
    rw [hresult] at hr
    obtain ⟨found, -, rfl⟩ := exists_of_finish hr
    rfl
  · rintro rfl
    rw [scanFiles, Bool.false_and, if_neg Bool.false_ne_true, scanInTurn, List.map_map,
      List.map_map]
    refine List.map_congr_left fun p hp => ?_
    obtain ⟨_, leaf, -, -, -, hlists⟩ := exists_of_mem_filesBelow s hproper hdir hp
    rw [Function.comp_apply, Function.comp_apply]
    exact s.alone_scanFile hproper hlists

theorem filesBelow_replace {p : Path} (hp : p ∈ s.filesBelow fs path entries)
    (bytes : List UInt8) : ∃ entries',
    (fs.replace p bytes).root.isProper = true ∧
      (fs.replace p bytes).at? ((fs.replace p bytes).resolve path) = some (.directory entries') ∧
      s.filesBelow (fs.replace p bytes) path entries' = s.filesBelow fs path entries := by
  obtain ⟨rest, leaf, hparts, hne, hrest, hlists⟩ := exists_of_mem_filesBelow s hproper hdir hp
  obtain ⟨entries', hput⟩ : ∃ entries',
      (FileTree.directory entries).put rest (.file bytes) = .directory entries' := by
    obtain ⟨q, rest, rfl⟩ := List.exists_cons_of_ne_nil hne
    exact ⟨_, rfl⟩
  have hselect : s.selection.select [] (.directory entries') =
      s.selection.select [] (.directory entries) := by
    rw [← hput]
    exact Selection.select_put bytes hlists.isLeaf [] hne hrest
  refine ⟨entries', FileTree.isProper_put rfl hproper hlists.entry, ?_, ?_⟩
  · rw [fs.resolve_replace p bytes path, FileSystem.at?, FileSystem.root_replace, hparts, ← hput]
    exact FileTree.at?_of_listed?
      (FileTree.listed?_put_append _ _ (FileTree.listed?_of_at? hdir)) (by rw [hput]; rfl)
  · rw [filesBelow, filesBelow, fs.resolve_replace p bytes path, Selection.collect_directory,
      Selection.collect_directory, hselect]

theorem share_replace_of_ne {p q : Path} (hp : p ∈ s.filesBelow fs path entries)
    (hq : q ∈ s.filesBelow fs path entries) (hne : q ≠ p) (bytes : List UInt8) :
    s.share (fs.replace p bytes) q = s.share fs q := by
  obtain ⟨_, _, -, -, -, hp'⟩ := exists_of_mem_filesBelow s hproper hdir hp
  obtain ⟨_, _, -, -, -, hq'⟩ := exists_of_mem_filesBelow s hproper hdir hq
  rw [share, share, FileSystem.at?_replace_of_ne hp' hq' hne]

/-- A project scan joins the scans of its files: its files are the selected ones, and endpoints,
findings and reasons come file by file as when the bytes of each file are scanned alone; a file that
is too large or unreadable gives its reason only. Other bytes in one file, parsed or not, give
another share for this file and leave all others as they were. There is a result exactly when each
file alone has one, as it has where no pattern of a suppression has a fault; else the first fault is
all that comes of the scan. -/
theorem project_scan_joins_iff :
    s.JoinsFiles fs path (s.filesBelow fs path entries) ∧
    (∀ p ∈ s.filesBelow fs path entries, ∀ bytes,
      s.JoinsFiles (fs.replace p bytes) path (s.filesBelow fs path entries) ∧
      s.share (fs.replace p bytes) p = s.shareOf p.text bytes ∧
      ∀ q ∈ s.filesBelow fs path entries, q ≠ p →
        s.share (fs.replace p bytes) q = s.share fs q) ∧
    ∀ holds, s.search = .ofPredicate holds → ∀ text bytes, ∃ r, s.shareOf text bytes = .ok r := by
  refine ⟨s.joinsFiles_filesBelow hproper hdir, ?_, ?_⟩
  · intro p hp bytes
    obtain ⟨entries', hproper', hdir', hsame⟩ := s.filesBelow_replace hproper hdir hp bytes
    refine ⟨?_, ?_, fun q hq hne => s.share_replace_of_ne hproper hdir hp hq hne bytes⟩
    · rw [← hsame]
      exact s.joinsFiles_filesBelow hproper' hdir'
    · rw [share, FileSystem.at?_replace_self]
  · intro holds hsearch text bytes
    unfold shareOf scanContent
    split
    · exact ⟨_, rfl⟩
    · exact exists_finish hsearch _ _ _ _

end Scanner

/-- A directory with two entries, the later one first. -/
def pairEntries (a b : FileTree) : List (String × FileTree) := [("b.go", b), ("a.go", a)]

def pairFiles (a b : FileTree) : FileSystem where
  root := .directory [("app", .directory (pairEntries a b))]

section pair
variable {a b : FileTree}

theorem resolve_pairFiles : (pairFiles a b).resolve "/app" = ⟨"/", ["app"]⟩ := by
  have h : ({} : FileSystem).resolve "/app" = ⟨"/", ["app"]⟩ := by decide +kernel
  exact h

theorem at?_pairFiles : (pairFiles a b).at? ((pairFiles a b).resolve "/app") =
    some (.directory (pairEntries a b)) := by
  rw [resolve_pairFiles]
  rfl

variable {s : Scanner} (ha : s.selection.takes ["a.go"] = true)
  (hb : s.selection.takes ["b.go"] = true) (hleaf : a.isDirectory = false)
  (hleaf' : b.isDirectory = false)

include ha hb hleaf hleaf'

theorem filesBelow_pairFiles :
    s.filesBelow (pairFiles a b) "/app" (pairEntries a b) =
      [⟨"/", ["app", "a.go"]⟩, ⟨"/", ["app", "b.go"]⟩] := by
  have hsorted : ¬ "b.go" ≤ "a.go" := by decide
  have hselect : s.selection.selectEntries [] (pairEntries a b) =
      [⟨"b.go", false, [["b.go"]]⟩, ⟨"a.go", false, [["a.go"]]⟩] := by
    rw [Selection.selectEntries_eq_map]
    simp [pairEntries, Selection.branchOf, hleaf, hleaf', ha, hb]
  simp [Scanner.filesBelow, resolve_pairFiles, Selection.collect, Selection.select, hselect,
    Selection.inOrder, List.mergeSort, hsorted]

theorem run_pairFiles :
    ∃ run, s.scanPath? (pairFiles a b) "/app" = some run ∧
      run.result = s.finish "/app" ["/app/a.go", "/app/b.go"] 0
        [s.scanFile (pairFiles a b) "/app/a.go", s.scanFile (pairFiles a b) "/app/b.go"] := by
  obtain ⟨run, hrun, hresult⟩ := s.result_scanPath? (at?_pairFiles (a := a) (b := b)) false 0 []
  rw [filesBelow_pairFiles ha hb hleaf hleaf', resolve_pairFiles] at hresult
  exact ⟨run, hrun, hresult⟩

end pair

/-- A link that leads nowhere costs the scan one reason, and a file in its place leaves the other
file's share. -/
theorem linked_project_scan_joins :
    let s := Scanner.standard {}
    let fs := pairFiles (.file [112]) .dangling
    (∃ run, s.scanPath? fs "/app" = some run ∧ Joins run.result [s.shareOf "/app/a.go" [112],
      .ok (Scanner.passedOver "/app/b.go" (.unreadable "/app/b.go" .missing))]) ∧
    ∃ run, s.scanPath? (fs.replace ⟨"/", ["app", "b.go"]⟩ [123]) "/app" = some run ∧
      Joins run.result [s.shareOf "/app/a.go" [112], s.shareOf "/app/b.go" [123]] := by
  intro s fs
  have hfiles : s.filesBelow fs "/app" (pairEntries (.file [112]) .dangling) =
      [⟨"/", ["app", "a.go"]⟩, ⟨"/", ["app", "b.go"]⟩] :=
    filesBelow_pairFiles (by decide +kernel) (by decide +kernel) rfl rfl
  have hproper : fs.root.isProper = true := by decide +kernel
  obtain ⟨hjoins, hreplace, -⟩ := s.project_scan_joins_iff hproper at?_pairFiles
  rw [hfiles] at hjoins hreplace
  obtain ⟨hjoins', -, -⟩ := hreplace ⟨"/", ["app", "b.go"]⟩ (by decide) [123]
  obtain ⟨run, parts, hrun, -, -, hparts, hjoin, -⟩ := hjoins false 0 []
  obtain ⟨run', parts', hrun', -, -, hparts', hjoin', -⟩ := hjoins' false 0 []
  rw [hparts rfl] at hjoin
  rw [hparts' rfl] at hjoin'
  exact ⟨⟨run, hrun, hjoin⟩, run', hrun', hjoin'⟩

/-- The bytes of a Go file with one route. -/
def routeSource (route : String) : List UInt8 :=
  let source := "package main\n\nimport \"github.com/gin-gonic/gin\"\n\n" ++
    "func main() \x7b\n\tr := gin.New()\n\tr.GET(" ++ route ++ ")\n\x7d\n"
  source.toList.map fun c => UInt8.ofNat c.toNat

/-- A file without routes beside one with a protected route. -/
def guardedFiles : FileSystem :=
  pairFiles (.file []) (.file (routeSource "\"/orders\", AuthMiddleware(), list"))

/-- A suppression whose pattern has a fault does no harm as long as there is nothing to suppress.
With an open route in the one file, the other file's endpoint is lost as well. -/
theorem fault_loses_other_files :
    let s := Scanner.standard { suppressions := [{ rule := "*", route := "(?a)(?u)b" }] }
    (∃ run r, s.scanPath? guardedFiles "/app" = some run ∧ run.result = .ok r ∧
      r.endpoints.map (·.fullRoute) = ["/orders"]) ∧
    ∃ run f, s.scanPath? (guardedFiles.replace ⟨"/", ["app", "a.go"]⟩
        (routeSource "\"/open\", list")) "/app" = some run ∧ run.result = .error f := by
  intro s
  have htakes : s.selection.takes ["a.go"] = true ∧ s.selection.takes ["b.go"] = true := by
    decide +kernel
  constructor
  · obtain ⟨run, hrun, hresult⟩ := run_pairFiles htakes.1 htakes.2 (a := .file [])
      (b := .file (routeSource "\"/orders\", AuthMiddleware(), list")) rfl rfl
    have hroutes : run.result.toOption.map (fun r => r.endpoints.map (·.fullRoute)) =
        some ["/orders"] := by
      rw [hresult]
      decide +kernel
    cases hr : run.result with
    | error f =>
        rw [hr] at hroutes
        cases hroutes
    | ok r =>
        rw [hr] at hroutes
        exact ⟨run, r, hrun, hr, Option.some.inj hroutes⟩
  · obtain ⟨run, hrun, hresult⟩ := run_pairFiles htakes.1 htakes.2
      (a := .file (routeSource "\"/open\", list"))
      (b := .file (routeSource "\"/orders\", AuthMiddleware(), list")) rfl rfl
    have hnone : run.result.toOption.isSome = false := by
      rw [hresult]
      decide +kernel
    cases hr : run.result with
    | error f => exact ⟨run, f, hrun, hr⟩
    | ok r =>
        rw [hr] at hnone
        cases hnone

end RouteAudit
