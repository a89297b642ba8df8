import RouteAudit.Command.Run
import RouteAudit.Proofs.GivenOptions
import RouteAudit.Proofs.ParallelScan

/-! # The exit code of a scan

A scan is told many things that only concern its report: what to show of the result, in which order
and in which format. None of them decides how the run ends. `scanned?` is the result of a scan as a
function of what is left of the arguments without them (`ScanArguments.beyondReport`), and
`exit_scan` says that the exit code of a run that fails in no step depends on this result and on the
severity that is asked to fail it.

A run is a sequence of steps, each of which may fail. `Ends x Q` says of a step that starts with the
exit code zero how it ends if it does not fail. All steps but the last keep the exit code, and what
they yield is what `scanned?` is made of; the last step, `judge`, sets it.

The result itself depends on what happens while files are scanned side by side, but only through the
files that are given up, and giving up a file is noted as an error. So it is the same for all runs
that meet no error (`scanned?_of_events`). -/

namespace RouteAudit.Command

/-! ### Steps -/

section steps
variable {α β : Type}

/-- Started with the exit code zero, the step ends with a value and an exit code as described,
unless it fails. -/
def Ends (x : Step α) (Q : α → UInt32 → Prop) : Prop :=
  ∀ s s' a, s.outcome.exit = 0 → x.run.run s = (.ok a, s') → Q a s'.outcome.exit

/-- The step yields a value with a property, and it keeps the exit code. -/
def Keeps (x : Step α) (P : α → Prop) : Prop := Ends x fun a code => P a ∧ code = 0

theorem exists_of_run_bind {x : Step α} {f : α → Step β} {s s' : Session} {b : β}
    (h : (x >>= f).run.run s = (.ok b, s')) :
    ∃ a t, x.run.run s = (.ok a, t) ∧ (f a).run.run t = (.ok b, s') := by
  rw [ExceptT.run_bind, StateT.run_bind] at h
  cases hx : x.run.run s with
  | mk r t =>
      rw [hx] at h
      cases r with
      | ok a => exact ⟨a, t, rfl, h⟩
      | error e => cases h

theorem Keeps.bind {x : Step α} {f : α → Step β} {P : α → Prop} {Q : β → UInt32 → Prop}
    (hx : Keeps x P) (hf : ∀ a, P a → Ends (f a) Q) : Ends (x >>= f) Q := by
  intro s s' b hzero hrun
  obtain ⟨a, t, hfirst, hrest⟩ := exists_of_run_bind hrun
  obtain ⟨ha, hkept⟩ := hx s t a hzero hfirst
  exact hf a ha t s' b hkept hrest

theorem keeps_pure {P : α → Prop} {a : α} (h : P a) : Keeps (pure a) P := by
  intro s s' b hzero hrun
  cases hrun
  exact ⟨h, hzero⟩

theorem keeps_throw (f : Failure) (P : α → Prop) : Keeps (throw f) P := by
  intro s s' b hzero hrun
  cases hrun

theorem keeps_modify {f : Session → Session} (h : ∀ s, (f s).outcome.exit = s.outcome.exit) :
    Keeps (modify f : Step Unit) fun _ => True := by
  intro s s' b hzero hrun
  cases hrun
  exact ⟨trivial, (h s).trans hzero⟩

theorem keeps_say (text : String) : Keeps (say text) fun _ => True := keeps_modify fun _ => rfl

theorem keeps_note (entries : List LogEntry) : Keeps (note entries) fun _ => True :=
  keeps_modify fun _ => rfl

end steps

/-! ### What a scan comes to -/

/-- Where a scan takes place: the files, with a clone among them if one is made, and the path of the
target. There is none if the target is missing or cannot be cloned. -/
def place? (w : World) (path : String) : Option (FileSystem × String) :=
  if isRepository path then
    (w.clone path).toOption.map fun tree =>
      ({ w.files with root := w.files.root.put w.cloneDirectory.parts tree }, w.cloneDirectory.text)
  else (w.files.find path).toOption.map fun _ => (w.files, path)

/-- The settings of a scan, if they can be read. -/
def settings? (w : World) (fs : FileSystem) (a : ScanArguments) (target : String) :
    Option Settings :=
  let read := match (a.config.filter fun path => !path.isEmpty).or (fs.findConfig? target) with
    | some path => Settings.ofFile fs path
    | none => Settings.ofEnvironment w.environment
  read.toOption.map fun settings => { settings with workers := a.workers.getD settings.workers }

/-- The course of a scan, if there is one. -/
def scanRun? (w : World) (a : ScanArguments) : Option ScanRun :=
  (place? w a.path).bind fun place =>
    (settings? w place.1 a place.2).bind fun settings =>
      (Scanner.standard settings).scanPath? place.1 place.2 a.parallel w.elapsed w.events

/-- The result of a scan, if it comes to one. -/
def scanned? (w : World) (a : ScanArguments) : Option ScanResult :=
  (scanRun? w a).bind fun run => run.result.toOption

/-- The exit code for a result: one, if there are findings that make the run fail. -/
def verdict (a : ScanArguments) (r : ScanResult) : UInt32 := if (failing a r).isEmpty then 0 else 1

theorem keeps_cloned (w : World) {path : String} (h : isRepository path = true) :
    Keeps (cloned w path) fun place => place? w path = some place := by
  unfold cloned
  refine (keeps_say _).bind fun _ _ => ?_
  cases hclone : w.clone path with
  | error reason => exact keeps_throw _ _
  | ok tree =>
      refine (keeps_say _).bind fun _ _ => keeps_pure ?_
      rw [place?, if_pos h, hclone]
      rfl

theorem keeps_settingsFor (w : World) (fs : FileSystem) (a : ScanArguments) (target : String) :
    Keeps (settingsFor w fs a target) fun settings => settings? w fs a target = some settings := by
  unfold settingsFor settings?
  dsimp only
  -- the two sources of settings are read alike, but only a file is noted in the journal
  cases (a.config.filter fun path => !path.isEmpty).or (fs.findConfig? target) with
  | some path =>
      dsimp only
      cases Settings.ofFile fs path with
      | ok settings =>
          refine (keeps_note _).bind fun _ _ => ?_
          exact (keeps_pure (P := (· = settings)) rfl).bind fun s hs => keeps_pure (hs ▸ rfl)
      | error e => exact (keeps_throw _ fun _ => False).bind fun _ h => h.elim
  | none =>
      dsimp only
      cases Settings.ofEnvironment w.environment with
      | ok settings =>
          exact (keeps_pure (P := (· = settings)) rfl).bind fun s hs => keeps_pure (hs ▸ rfl)
      | error e => exact (keeps_throw _ fun _ => False).bind fun _ h => h.elim

theorem keeps_scanTarget (w : World) (fs : FileSystem) (a : ScanArguments) (settings : Settings)
    (target : String) :
    Keeps (scanTarget w fs a settings target) fun r =>
      ((Scanner.standard settings).scanPath? fs target a.parallel w.elapsed w.events).bind
        (fun run => run.result.toOption) = some r := by
  unfold scanTarget
  cases (Scanner.standard settings).scanPath? fs target a.parallel w.elapsed w.events with
  | none => exact keeps_throw _ _
  | some run =>
      refine Keeps.bind (keeps_modify fun _ => rfl) fun _ _ => (keeps_note _).bind fun _ _ => ?_
      dsimp only [Option.bind_some]
      cases run.result with
      | ok r => exact keeps_pure rfl
      | error f => exact keeps_throw _ _

theorem keeps_deliver (fs : FileSystem) (a : ScanArguments) (report : Report) :
    Keeps (deliver fs a report) fun _ => True := by
  unfold deliver
  cases a.file.filter fun file => !file.isEmpty with
  | none =>
      cases report with
      | items is => exact keeps_modify fun _ => rfl
      | text s => exact keeps_modify fun _ => rfl
  | some file =>
      have hpath : Keeps (deliver.liftExcept (reportPath a.format file)) fun _ => True := by
        unfold deliver.liftExcept
        cases reportPath a.format file with
        | ok path => exact keeps_pure trivial
        | error f => exact keeps_throw _ _
      refine hpath.bind fun path _ => ?_
      cases fs.checkWrite path with
      | error e => exact keeps_throw _ _
      | ok _ => exact Keeps.bind (keeps_modify fun _ => rfl) fun _ _ => keeps_say _

theorem ends_judge (a : ScanArguments) (r : ScanResult) :
    Ends (judge a r) fun _ code => code = verdict a r := by
  unfold judge verdict
  intro s s' u hzero hrun
  dsimp only at hrun
  cases hnone : (failing a r).isEmpty with
  | true =>
      rw [hnone] at hrun
      cases hrun
      exact hzero
  | false =>
      rw [hnone] at hrun
      cases hrun
      rfl

/-- The last step decides, and it looks at the whole result. -/
theorem ends_scanAndReport (w : World) (a : ScanArguments) {fs : FileSystem} {target : String}
    (hplace : place? w a.path = some (fs, target)) :
    Ends (scanAndReport w fs a target) fun _ code =>
      ∃ r, scanned? w a = some r ∧ code = verdict a r := by
  unfold scanAndReport
  refine (keeps_settingsFor w fs a target).bind fun settings hsettings => ?_
  refine (keeps_scanTarget w fs a settings target).bind fun r hr => ?_
  refine (keeps_deliver fs a _).bind fun _ _ => ?_
  have hscanned : scanned? w a = some r := by
    rw [scanned?, scanRun?, hplace, Option.bind_some, hsettings, Option.bind_some, hr]
  intro s s' u hzero hrun
  exact ⟨r, hscanned, ends_judge a r s s' u hzero hrun⟩

/-! ### Runs without an error -/

/-- The session that a scan starts with. -/
def opening (a : ScanArguments) : Session where
  console := { onError := a.format != .terminal, noColor := a.common.noColor }

/-- The run of a scan ends early: its target is not there, or one of its steps fails. -/
def fails (w : World) (a : ScanArguments) : Bool :=
  (!isRepository a.path && (w.files.find a.path).toOption.isNone) ||
    ((scanSteps w a).run.run (opening a)).1.toOption.isNone

/-- An error is noted while files are scanned. -/
def notesError (w : World) (a : ScanArguments) : Bool :=
  (scanRun? w a).any fun run => run.log.any fun e => e.level == .error

theorem ends_scanSteps (w : World) (a : ScanArguments)
    (hthere : isRepository a.path = false → (w.files.find a.path).toOption.isSome = true) :
    Ends (scanSteps w a) fun _ code => ∃ r, scanned? w a = some r ∧ code = verdict a r := by
  unfold scanSteps
  cases hrepository : isRepository a.path with
  | true =>
      rw [if_pos rfl]
      exact (keeps_cloned w hrepository).bind fun place hplace => ends_scanAndReport w a hplace
  | false =>
      rw [if_neg Bool.false_ne_true]
      have hthere := hthere hrepository
      cases hfind : w.files.find a.path with
      | error e =>
          rw [hfind] at hthere
          cases hthere
      | ok tree =>
          refine ends_scanAndReport w a ?_
          rw [place?, hrepository, if_neg Bool.false_ne_true, hfind]
          rfl

/-- Unless it fails, a scan has a result, and the verdict on it is the exit code. -/
theorem exit_scan {w : World} {a : ScanArguments} (h : fails w a = false) :
    ∃ r, scanned? w a = some r ∧ (scan w a).exit = verdict a r := by
  rw [fails, Bool.or_eq_false_iff] at h
  obtain ⟨hthere, hok⟩ := h
  have hends := ends_scanSteps w a fun hrepository => by
    rw [hrepository] at hthere
    simpa using hthere
  cases hrun : (scanSteps w a).run.run (opening a) with
  | mk ending s =>
      rw [hrun] at hok
      cases ending with
      | error f => cases hok
      | ok u =>
          have hexit : (scan w a).exit = s.outcome.exit := by
            rw [opening] at hrun
            unfold scan
            dsimp only
            rw [hrun]
          rw [hexit]
          exact hends (opening a) s u rfl hrun

theorem verdict_eq_one_iff {a : ScanArguments} {r : ScanResult} :
    verdict a r = 1 ↔ ∃ severity, a.failOn = some severity ∧
      ∃ f ∈ r.findings, f.suppressed = false ∧ severity.rank ≤ f.severity.rank := by
  have hone : verdict a r = 1 ↔ ∃ f, f ∈ failing a r := by
    unfold verdict
    rw [← List.isEmpty_eq_false_iff_exists_mem]
    cases (failing a r).isEmpty <;> decide
  rw [hone, failing]
  cases a.failOn with
  | none => simp
  | some severity =>
      simp only [ScanResult.findingsAtLeast, ScanResult.activeFindings, List.mem_filter,
        Severity.atLeast_iff, Bool.not_eq_true', and_assoc, Option.some.injEq, exists_eq_left']

theorem verdict_cases (a : ScanArguments) (r : ScanResult) : verdict a r = 0 ∨ verdict a r = 1 := by
  unfold verdict
  split
  · exact .inl rfl
  · exact .inr rfl

/-! ### What the result depends on -/

theorem scanned?_beyondReport (w : World) (a : ScanArguments) :
    scanned? w a.beyondReport = scanned? w a := rfl

theorem verdict_beyondReport (a : ScanArguments) (r : ScanResult) :
    verdict a.beyondReport r = verdict a r := rfl

/-- Without an error it does not matter what happens while files are scanned, nor whether they are
scanned side by side. -/
theorem scanned?_inTurn {w : World} {a : ScanArguments} (h : notesError w a = false)
    (events : List PoolEvent) :
    scanned? { w with events } { a with parallel := false } = scanned? w a := by
  have hplace : place? { w with events } a.path = place? w a.path := rfl
  have hsettings : ∀ fs target, settings? { w with events } fs { a with parallel := false } target =
      settings? w fs a target := fun _ _ => rfl
  unfold scanned? scanRun?
  unfold notesError scanRun? at h
  rw [hplace]
  cases hp : place? w a.path with
  | none => rfl
  | some place =>
      rw [hp] at h
      dsimp only [Option.bind_some] at h ⊢
      rw [hsettings]
      cases hs : settings? w place.1 a place.2 with
      | none => rfl
      | some settings =>
          rw [hs] at h
          dsimp only [Option.bind_some] at h ⊢
          unfold Scanner.scanPath? at h ⊢
          dsimp only at h ⊢
          cases htree : place.1.at? (place.1.resolve place.2) with
          | none => rfl
          | some tree =>
              rw [htree] at h
              have hnoted : ∀ e ∈ ((Scanner.standard settings).scanTree place.1
                  (place.1.resolve place.2) a.parallel w.elapsed w.events tree).log,
                  e.level ≠ .error := by
                simpa using h
              rw [Option.map_some, Option.map_some, Option.bind_some, Option.bind_some,
                Scanner.result_scanTree_of_noted _ _ hnoted]

/-! ### The exit code -/

/-- The program reads the arguments as those of a scan, and the scan fails in no step. -/
structure Completes (w : World) (args : List String) (a : ScanArguments) (o : Outcome) :
    Prop where
  reads : Invocation.ofArguments args = .ok (.scan a)
  ends : run w args = .ok o
  sound : fails w a = false

/-- The scan also notes no error, such as a file that is given up. -/
structure ScansTo (w : World) (args : List String) (a : ScanArguments) (o : Outcome) : Prop
    extends Completes w args a o where
  unnoted : notesError w a = false

namespace Completes

variable {w : World} {args : List String} {a : ScanArguments} {o : Outcome}

theorem exit_eq (h : Completes w args a o) : o.exit = (scan w a).exit := by
  have hends := h.ends
  rw [run, h.reads] at hends
  dsimp only [Invocation.run] at hends
  cases hjournal : openJournal w (Invocation.scan a).common with
  | error e =>
      rw [hjournal] at hends
      cases hends
  | ok u =>
      rw [hjournal] at hends
      cases hends
      rfl

theorem exists_verdict (h : Completes w args a o) :
    ∃ r, scanned? w a = some r ∧ o.exit = verdict a r := by
  rw [h.exit_eq]
  exact exit_scan h.sound

end Completes

theorem ScansTo.scanned?_eq {w : World} {events events' : List PoolEvent}
    {args args' : List String} {a a' : ScanArguments} {o o' : Outcome}
    (h : ScansTo { w with events } args a o) (h' : ScansTo { w with events := events' } args' a' o')
    (heq : a.beyondReport = a'.beyondReport) :
    scanned? { w with events } a = scanned? { w with events := events' } a' := by
  have hturn : ScanArguments.beyondReport { a with parallel := false } =
      ScanArguments.beyondReport { a' with parallel := false } :=
    congrArg (fun b : ScanArguments => { b with parallel := false }) heq
  rw [← scanned?_inTurn h.unnoted [], ← scanned?_inTurn h'.unnoted [],
    ← scanned?_beyondReport _ { a with parallel := false }, hturn, scanned?_beyondReport]

/-- A project of one file with one route, which anyone may write to. -/
def openProject : World where
  files :=
    let source := "package main\nimport \"github.com/gin-gonic/gin\"\n" ++
      "func main() \x7b\n\tr := gin.New()\n\tr.POST(\"/x\", h)\n\x7d\n"
    { root := .directory [("app", .directory
        [("main.go", .file (source.toList.map fun c => UInt8.ofNat c.toNat))])] }

end RouteAudit.Command
