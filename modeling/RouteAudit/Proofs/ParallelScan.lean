import RouteAudit.Proofs.Fallible
import RouteAudit.Scan.Project

/-! # Files scanned side by side

While files are scanned side by side, workers end them in any order. None of this shows, as long as
the collector gives no file up. At every moment it has come through some first files, in order: it
has put a result into the slot of each, and it has reported them as they are reported one after the
other. The result is what the worker ended with, or what stands for a file that was given up
(`Job.Yields`). `Pool.Sound` puts this down for a moment of a pool; it holds at the start, each
event keeps it (`sound_step`), and so it holds after any events (`sound_run`).

The collector waits for one file at a time and could wait forever. It does not, because what has
ended stays so (`hasEnded_foldl`) and a look at a file that has ended goes on to the next
(`completed_collect`). -/

namespace RouteAudit

theorem Scanner.getElem?_progressThrough (files : List String) (i : ℕ) :
    (progressThrough files)[i]? = files[i]?.map fun file => ⟨i + 1, files.length, file⟩ := by
  rw [progressThrough, List.getElem?_map, List.getElem?_zipIdx, Option.map_map, Nat.zero_add]
  rfl

theorem Scanner.length_progressThrough (files : List String) :
    (progressThrough files).length = files.length := by
  rw [progressThrough, List.length_map, List.length_zipIdx]

namespace Pool

variable {β : Type}

/-- Slots that are filled from the left. -/
def filled (found : List β) (free : ℕ) : List (Option β) :=
  found.map some ++ List.replicate free none

theorem set_filled (found : List β) (free : ℕ) (b : β) :
    (filled found (free + 1)).set found.length (some b) = filled (found ++ [b]) free := by
  have hlength : (found.map some).length = found.length := List.length_map some
  rw [filled, filled, List.set_append_right _ _ (Nat.le_of_eq hlength), hlength, Nat.sub_self,
    List.replicate_succ, List.set_cons_zero, List.map_append, List.append_assoc]
  rfl

theorem filterMap_filled (found : List β) (free : ℕ) :
    (filled found free).filterMap id = found := by
  rw [filled, List.filterMap_append, List.filterMap_map, Function.id_comp, List.filterMap_some,
    List.filterMap_replicate_of_none rfl, List.append_nil]

end Pool

/-- What may be collected for a task: what its worker ended with, or what stands for a task that was
given up, for the one reason or the other. -/
inductive Job.Yields {β : Type} (job : Job β) (timedOut : Bool) (task : String) : β → Prop where
  | done : Yields job timedOut task (job.work task)
  | late (h : timedOut = true) : Yields job timedOut task (job.late task)
  | unawaited (h : longestWait < job.limit) : Yields job timedOut task (job.unawaited task)

theorem Job.Yields.mono {β : Type} {job : Job β} {timedOut timedOut' : Bool} {task : String} {b : β}
    (h : job.Yields timedOut task b) (himp : timedOut = true → timedOut' = true) :
    job.Yields timedOut' task b := by
  cases h with
  | done => exact .done
  | late hlate => exact .late (himp hlate)
  | unawaited hlimit => exact .unawaited hlimit

namespace Pool

variable {β : Type} (job : Job β)

/-- What holds at every moment: a task that has ended has its result, and the first `completed`
tasks are those that are no longer awaited, whose slots are filled and that are reported. -/
structure Sound (p : Pool β) : Prop where
  length_outcomes : p.outcomes.length = job.tasks.length
  outcome : ∀ (i : ℕ) found, p.outcomes[i]? = some (some found) →
    (job.tasks.map job.work)[i]? = some found
  completed_le : p.completed ≤ job.tasks.length
  awaited : p.awaited = job.tasks.zipIdx.drop p.completed
  slots : ∃ found, p.slots = filled found (job.tasks.length - p.completed) ∧
    List.Forall₂ (job.Yields p.timedOut) (job.tasks.take p.completed) found
  progress : p.progress = (Scanner.progressThrough job.tasks).take p.completed

/-- A task has ended. -/
def HasEnded (p : Pool β) (i : ℕ) : Prop := ∃ found, p.outcomes[i]? = some (some found)

variable {job} {p : Pool β}

/-! ### One event -/

theorem sound_start : Sound job (start job) where
  length_outcomes := List.length_replicate
  outcome := by
    intro i found hfound
    have hmem : some found ∈ List.replicate job.tasks.length none := List.mem_of_getElem? hfound
    cases List.eq_of_mem_replicate hmem
  completed_le := Nat.zero_le _
  awaited := rfl
  slots := ⟨[], rfl, .nil⟩
  progress := rfl

theorem getElem?_outcomes_finish (h : Sound job p) (index i : ℕ) :
    (p.finish job index).outcomes[i]? =
      if i = index then (job.tasks.map job.work)[i]?.map some else p.outcomes[i]? := by
  unfold finish
  split
  · rename_i task htask
    have hlt : index < p.outcomes.length :=
      h.length_outcomes ▸ (List.getElem?_eq_some_iff.mp htask).1
    by_cases hi : i = index
    · subst hi
      rw [if_pos rfl, List.getElem?_set_self hlt, List.getElem?_map, htask]
      rfl
    · rw [if_neg hi, List.getElem?_set_ne (Ne.symm hi)]
  · rename_i htask
    by_cases hi : i = index
    · subst hi
      have hle : p.outcomes.length ≤ i := h.length_outcomes ▸ List.getElem?_eq_none_iff.mp htask
      rw [if_pos rfl, List.getElem?_map, htask, List.getElem?_eq_none hle]
      rfl
    · rw [if_neg hi]

theorem finish_eq (p : Pool β) (index : ℕ) :
    p.finish job index = { p with outcomes := (p.finish job index).outcomes } := by
  unfold finish
  split <;> rfl

theorem sound_finish (h : Sound job p) (index : ℕ) : Sound job (p.finish job index) := by
  have houtcome := getElem?_outcomes_finish h index
  have hlength : (p.finish job index).outcomes.length = job.tasks.length := by
    rw [← h.length_outcomes]
    unfold finish
    split
    · exact List.length_set
    · rfl
  rw [finish_eq]
  refine ⟨hlength, ?_, h.completed_le, h.awaited, h.slots, h.progress⟩
  intro i found hfound
  rw [houtcome] at hfound
  split at hfound
  · obtain ⟨b, hb, hsome⟩ := Option.map_eq_some_iff.mp hfound
    rw [hb, Option.some.inj hsome]
  · exact h.outcome i found hfound

/-- What the collector does about its task: nothing, or it takes something for the first task that
is not yet collected. It does nothing only if this task has not ended. -/
theorem collect_cases (h : Sound job p) (expired : Bool) :
    (p.collect job expired = p ∧ (p.completed < job.tasks.length → ¬p.HasEnded p.completed)) ∨
      ∃ task found timedOut, job.tasks[p.completed]? = some task ∧
        job.Yields timedOut task found ∧ (p.timedOut = true → timedOut = true) ∧
        p.collect job expired = { p.take job task p.completed found with timedOut } := by
  by_cases hlt : p.completed < job.tasks.length
  · have htask : job.tasks[p.completed]? = some job.tasks[p.completed] :=
      List.getElem?_eq_getElem hlt
    have hawaited : p.awaited =
        (job.tasks[p.completed], p.completed) :: job.tasks.zipIdx.drop (p.completed + 1) := by
      rw [h.awaited, List.drop_eq_getElem_cons (by rwa [List.length_zipIdx]), List.getElem_zipIdx,
        Nat.zero_add]
    unfold collect
    rw [hawaited]
    dsimp only
    split
    · rename_i found hfound
      have hwork : found = job.work job.tasks[p.completed] := by
        have hout := h.outcome _ _ hfound
        rw [List.getElem?_map, htask] at hout
        exact (Option.some.inj hout).symm
      exact .inr ⟨_, found, p.timedOut, htask, hwork ▸ .done, id, rfl⟩
    · rename_i hopen
      split
      · exact .inl ⟨rfl, fun _ ⟨found, hfound⟩ => hopen found hfound⟩
      · exact .inr ⟨_, _, true, htask, .late rfl, fun _ => rfl, rfl⟩
      · rename_i hrefuses
        have hlimit : longestWait < job.limit := by
          unfold Patience.of at hrefuses
          split at hrefuses
          · assumption
          · split at hrefuses <;> cases hrefuses
        exact .inr ⟨_, _, p.timedOut, htask, .unawaited hlimit, id, rfl⟩
  · have hnil : p.awaited = [] := by
      rw [h.awaited, List.drop_eq_nil_of_le (by rw [List.length_zipIdx]; omega)]
    refine .inl ⟨?_, fun hlt' => absurd hlt' hlt⟩
    unfold collect
    rw [hnil]

theorem sound_take (h : Sound job p) {task : String} {found : β} {timedOut : Bool}
    (htask : job.tasks[p.completed]? = some task) (hfound : job.Yields timedOut task found)
    (himp : p.timedOut = true → timedOut = true) :
    Sound job { p.take job task p.completed found with timedOut } := by
  have hlt : p.completed < job.tasks.length := (List.getElem?_eq_some_iff.mp htask).1
  obtain ⟨before, hslots, hbefore⟩ := h.slots
  have hlength : before.length = p.completed := by
    rw [← hbefore.length_eq, List.length_take, Nat.min_eq_left h.completed_le]
  refine ⟨h.length_outcomes, h.outcome, hlt, ?_, ⟨before ++ [found], ?_, ?_⟩, ?_⟩
  · show p.awaited.tail = _
    rw [h.awaited, List.tail_drop]
    rfl
  · have hfree : job.tasks.length - p.completed = job.tasks.length - (p.completed + 1) + 1 := by
      omega
    have hset := set_filled before (job.tasks.length - (p.completed + 1)) found
    rw [hlength] at hset
    show p.slots.set p.completed (some found) = _
    rw [hslots, hfree, hset]
    rfl
  · show List.Forall₂ (job.Yields timedOut) (job.tasks.take (p.completed + 1)) _
    rw [List.take_add_one, htask]
    have hkept := hbefore.imp fun _ _ hyields => hyields.mono himp
    exact List.rel_append hkept (.cons hfound .nil)
  · show p.progress ++ _ = (Scanner.progressThrough job.tasks).take (p.completed + 1)
    rw [h.progress, List.take_add_one, Scanner.getElem?_progressThrough, htask]
    rfl

theorem sound_collect (h : Sound job p) (expired : Bool) : Sound job (p.collect job expired) := by
  obtain ⟨heq, -⟩ | ⟨task, found, timedOut, htask, hfound, himp, heq⟩ := collect_cases h expired
  · rwa [heq]
  · rw [heq]
    exact sound_take h htask hfound himp

theorem sound_step (h : Sound job p) (event : PoolEvent) : Sound job (p.step job event) := by
  cases event with
  | ended index => exact sound_finish h index
  | looked => exact sound_collect h false
  | expired => exact sound_collect h true

theorem outcomes_collect (h : Sound job p) (expired : Bool) :
    (p.collect job expired).outcomes = p.outcomes := by
  obtain ⟨heq, -⟩ | ⟨_, _, _, -, -, -, heq⟩ := collect_cases h expired
  · rw [heq]
  · rw [heq]
    rfl

/-- Where all tasks have ended, a look goes on to the next one, if there is one. -/
theorem completed_collect (h : Sound job p) (hended : ∀ i < job.tasks.length, p.HasEnded i) :
    (p.collect job false).completed = min job.tasks.length (p.completed + 1) := by
  have hle := h.completed_le
  obtain ⟨heq, hopen⟩ | ⟨_, _, _, htask, -, -, heq⟩ := collect_cases h false
  · have hall : ¬p.completed < job.tasks.length := fun hlt => hopen hlt (hended _ hlt)
    rw [heq]
    omega
  · have hlt : p.completed < job.tasks.length := (List.getElem?_eq_some_iff.mp htask).1
    rw [heq]
    exact (Nat.min_eq_right hlt).symm

theorem hasEnded_finish (h : Sound job p) {i index : ℕ} (hi : i < job.tasks.length)
    (hended : i = index ∨ p.HasEnded i) : (p.finish job index).HasEnded i := by
  unfold HasEnded
  rw [getElem?_outcomes_finish h]
  split
  · exact ⟨job.work job.tasks[i], by rw [List.getElem?_map, List.getElem?_eq_getElem hi]; rfl⟩
  · rename_i hne
    exact hended.resolve_left hne

theorem hasEnded_collect (h : Sound job p) (expired : Bool) {i : ℕ} (hended : p.HasEnded i) :
    (p.collect job expired).HasEnded i := by
  unfold HasEnded
  rwa [outcomes_collect h]

/-! ### Any events -/

theorem sound_foldl (events : List PoolEvent) (h : Sound job p) :
    Sound job (events.foldl (step job) p) := by
  induction events generalizing p with
  | nil => exact h
  | cons event events ih => exact ih (sound_step h event)

variable (job) in
/-- Every moment of every schedule is sound. -/
theorem sound_run (events : List PoolEvent) : Sound job (run job events) :=
  sound_foldl events sound_start

theorem hasEnded_foldl {i : ℕ} (hi : i < job.tasks.length) (events : List PoolEvent)
    (h : Sound job p) (hended : PoolEvent.ended i ∈ events ∨ p.HasEnded i) :
    (events.foldl (step job) p).HasEnded i := by
  induction events generalizing p with
  | nil => exact hended.resolve_left List.not_mem_nil
  | cons event events ih =>
      refine ih (sound_step h event) ?_
      rw [List.mem_cons, or_assoc] at hended
      obtain hnow | hlater | hbefore := hended
      · subst hnow
        exact .inr (hasEnded_finish h hi (.inl rfl))
      · exact .inl hlater
      · right
        cases event with
        | ended index => exact hasEnded_finish h hi (.inr hbefore)
        | looked => exact hasEnded_collect h false hbefore
        | expired => exact hasEnded_collect h true hbefore

theorem completed_foldl_looked (looks : ℕ) (h : Sound job p)
    (hended : ∀ i < job.tasks.length, p.HasEnded i) :
    ((List.replicate looks PoolEvent.looked).foldl (step job) p).completed =
      min job.tasks.length (p.completed + looks) := by
  induction looks generalizing p with
  | zero => exact (Nat.min_eq_right h.completed_le).symm
  | succ looks ih =>
      have hnext : ∀ i < job.tasks.length, (p.collect job false).HasEnded i := fun i hi =>
        hasEnded_collect h false (hended i hi)
      rw [List.replicate_succ, List.foldl_cons]
      refine (ih (sound_collect h false) hnext).trans ?_
      rw [completed_collect h hended]
      omega

variable (job) in
theorem completed_run_closing (events : List PoolEvent) :
    (run job (events ++ closing job.tasks.length)).completed = job.tasks.length := by
  have hsound := sound_run job (events ++ (List.range job.tasks.length).map .ended)
  have hended : ∀ i < job.tasks.length,
      (run job (events ++ (List.range job.tasks.length).map .ended)).HasEnded i := by
    intro i hi
    refine hasEnded_foldl hi _ sound_start (.inl ?_)
    exact List.mem_append_right _ (List.mem_map_of_mem (List.mem_range.mpr hi))
  have hcompleted := completed_foldl_looked job.tasks.length hsound hended
  rw [closing, ← List.append_assoc, run, List.foldl_append]
  refine hcompleted.trans ?_
  omega

/-! ### What is seen -/

theorem Sound.yields_results (h : Sound job p) :
    List.Forall₂ (job.Yields p.timedOut) (job.tasks.take p.completed) p.results := by
  obtain ⟨found, hslots, hfound⟩ := h.slots
  rwa [results, hslots, filterMap_filled]

variable (job) in
theorem yields_run_closing (events : List PoolEvent) :
    List.Forall₂ (job.Yields (run job (events ++ closing job.tasks.length)).timedOut) job.tasks
      (run job (events ++ closing job.tasks.length)).results := by
  have hyields := (sound_run job (events ++ closing job.tasks.length)).yields_results
  rwa [completed_run_closing, List.take_length] at hyields

variable (job) in
theorem progress_run_closing (events : List PoolEvent) :
    (run job (events ++ closing job.tasks.length)).progress =
      Scanner.progressThrough job.tasks := by
  rw [(sound_run job _).progress, completed_run_closing,
    List.take_of_length_le (Nat.le_of_eq (Scanner.length_progressThrough job.tasks))]

end Pool

/-! ### Files that are given up -/

/-- The reason why the collector did not get the scan of a file from its worker. -/
def FileError.isGivenUp : FileError → Bool
  | timedOut _ => true
  | unawaited => true
  | _ => false

/-- The collector did not get the scan of the file from its worker. -/
def FileScan.isGivenUp (scan : FileScan) : Bool :=
  match scan.outcome with
  | .error e => e.isGivenUp
  | .ok _ => false

theorem FileError.isGivenUp_of_mapError {α : Type} {path : String} {x : Except AccessError α}
    {e : FileError} (h : x.mapError (.unreadable path) = .error e) : e.isGivenUp = false := by
  cases x with
  | error reason =>
      cases h
      rfl
  | ok a => cases h

theorem SourceFile.isGivenUp_of_load {parser : GoParser} {fs : FileSystem}
    {limit : Option SizeLimit} {path : String} {e : FileError}
    (h : load parser fs limit path = .error e) : e.isGivenUp = false := by
  obtain hfind | ⟨t, -, h⟩ := Except.error_of_bind h
  · exact FileError.isGivenUp_of_mapError hfind
  obtain hsize | ⟨_, -, h⟩ := Except.error_of_bind h
  · unfold checkSize at hsize
    split at hsize
    · split at hsize
      · cases hsize
        rfl
      · cases hsize
    · cases hsize
  obtain hread | ⟨bytes, -, h⟩ := Except.error_of_bind h
  · exact FileError.isGivenUp_of_mapError hread
  unfold parse at h
  split at h
  · cases h
  · cases h
    rfl

theorem isGivenUp_of_discover {finders : List Finder} {file : SourceFile} {e : FileError}
    (h : discover finders file = .error e) : e.isGivenUp = false := by
  unfold discover at h
  dsimp only at h
  split at h
  · cases h
  · cases h
    rfl

namespace Scanner

variable (s : Scanner) (fs : FileSystem)

theorem isGivenUp_scanFile (path : String) : (s.scanFile fs path).isGivenUp = false := by
  rw [scanFile, scanLoaded, FileScan.isGivenUp]
  cases hload : s.load fs path with
  | error e => exact SourceFile.isGivenUp_of_load hload
  | ok file =>
      rw [Except.bind]
      cases hfound : discover s.finders file with
      | error e => exact isGivenUp_of_discover hfound
      | ok found => rfl

/-- What a pass may have for a file: its scan, or a reason why the collector gave it up. -/
def Passes (path : String) (scan : FileScan) : Prop :=
  scan.path = path ∧ (scan.isGivenUp = false → scan = s.scanFile fs path)

variable {s fs} in
theorem passes_of_yields {files : List String} {timedOut : Bool} {path : String} {scan : FileScan}
    (h : (s.job fs files).Yields timedOut path scan) : s.Passes fs path scan := by
  cases h with
  | done => exact ⟨rfl, fun _ => rfl⟩
  | late _ => exact ⟨rfl, fun hup => by cases hup⟩
  | unawaited _ => exact ⟨rfl, fun hup => by cases hup⟩

theorem forall₂_passes_sideBySide (files : List String) (events : List PoolEvent) :
    List.Forall₂ (s.Passes fs) files (s.scanSideBySide fs files events).scans :=
  (Pool.yields_run_closing (s.job fs files) events).imp fun _ _ => passes_of_yields

/-- Every file is passed once and in order, whatever happens. -/
theorem forall₂_passes (parallel : Bool) (files : List String) (events : List PoolEvent) :
    List.Forall₂ (s.Passes fs) files (s.scanFiles fs parallel files events).scans := by
  unfold scanFiles
  split
  · exact s.forall₂_passes_sideBySide fs files events
  · rw [scanInTurn, List.forall₂_map_right_iff, List.forall₂_same]
    exact fun path _ => ⟨rfl, fun _ => rfl⟩

variable {s fs} in
theorem map_path_of_passes {files : List String} {scans : List FileScan}
    (h : List.Forall₂ (s.Passes fs) files scans) : scans.map (·.path) = files := by
  have hpaths := h.imp fun _ _ hpass => hpass.1.symm
  rw [← List.forall₂_map_right_iff, List.forall₂_eq_eq_eq] at hpaths
  exact hpaths.symm

theorem progress_scanFiles (parallel : Bool) (files : List String) (events : List PoolEvent) :
    (s.scanFiles fs parallel files events).progress = progressThrough files := by
  unfold scanFiles
  split
  · exact Pool.progress_run_closing (s.job fs files) events
  · rfl

/-- A pass shows that it was made side by side only by the files that were given up. -/
theorem scans_scanFiles_iff (parallel : Bool) (files : List String) (events : List PoolEvent) :
    (s.scanFiles fs parallel files events).scans = (s.scanInTurn fs files).scans ↔
      ∀ scan ∈ (s.scanFiles fs parallel files events).scans, scan.isGivenUp = false := by
  constructor
  · intro heq scan hscan
    rw [heq, scanInTurn] at hscan
    obtain ⟨path, -, rfl⟩ := List.mem_map.mp hscan
    exact s.isGivenUp_scanFile fs path
  · intro hnone
    have hsame : List.Forall₂ (fun path scan => s.scanFile fs path = scan) files
        (s.scanFiles fs parallel files events).scans :=
      (List.forall₂_iff_zip.mp (s.forall₂_passes fs parallel files events)).elim
        fun hlength hzip => List.forall₂_iff_zip.mpr ⟨hlength, fun {path scan} hmem =>
          ((hzip hmem).2 (hnone scan (List.of_mem_zip hmem).2)).symm⟩
    rw [← List.forall₂_map_left_iff, List.forall₂_eq_eq_eq] at hsame
    rw [← hsame, scanInTurn]

theorem exists_error_of_isGivenUp {scan : FileScan} (h : scan.isGivenUp = true) :
    ∃ e ∈ s.passLog fs scan, e.level = .error := by
  obtain ⟨path, outcome⟩ := scan
  unfold passLog
  cases outcome with
  | ok found => cases h
  | error e =>
      cases e with
      | timedOut seconds => exact ⟨_, List.mem_singleton_self _, rfl⟩
      | unawaited => exact ⟨_, List.mem_singleton_self _, rfl⟩
      | _ => cases h

/-- A scan that notes no error has the result that scanning in turn gives. -/
theorem result_scanTree_of_noted {target : Path} {parallel : Bool} {elapsed : ℕ}
    {events : List PoolEvent} {tree : FileTree}
    (h : ∀ e ∈ (s.scanTree fs target parallel elapsed events tree).log, e.level ≠ .error)
    (events' : List PoolEvent) :
    (s.scanTree fs target false elapsed events' tree).result =
      (s.scanTree fs target parallel elapsed events tree).result := by
  have hscans := (s.scans_scanFiles_iff fs parallel
      ((s.selection.collect target tree).map Path.text) events).mpr fun scan hscan => by
    rw [Bool.eq_false_iff]
    intro hup
    obtain ⟨e, he, herror⟩ := s.exists_error_of_isGivenUp fs hup
    exact h e (List.mem_append_left _ (List.mem_append_right _
      (List.mem_flatMap.mpr ⟨scan, hscan, he⟩))) herror
  unfold scanTree
  dsimp only
  rw [hscans]
  rfl

/-- Without a time-out no file is given up, provided that the wait for one can begin. -/
theorem map_scanFile_of_yields (hlimit : s.settings.timeout ≤ longestWait) {files : List String}
    {paths : List String} {scans : List FileScan}
    (h : List.Forall₂ ((s.job fs files).Yields false) paths scans) :
    scans = paths.map (s.scanFile fs) := by
  induction h with
  | nil => rfl
  | cons hyields _ ih =>
      rw [List.map_cons, ih]
      cases hyields with
      | done => rfl
      | late hlate => cases hlate
      | unawaited hlong => exact absurd hlong (Int.not_lt.mpr hlimit)

theorem scanSideBySide_eq (hlimit : s.settings.timeout ≤ longestWait) {files : List String}
    {events : List PoolEvent} (h : (s.scanSideBySide fs files events).timedOut = false) :
    s.scanSideBySide fs files events = s.scanInTurn fs files := by
  have hyields := Pool.yields_run_closing (s.job fs files) events
  have hprogress := Pool.progress_run_closing (s.job fs files) events
  unfold scanSideBySide at h ⊢
  dsimp only [job] at h hyields hprogress ⊢
  rw [h] at hyields
  rw [h, hprogress, map_scanFile_of_yields s fs hlimit hyields, scanInTurn]

theorem scans_scanFiles_of_timedOut (hlimit : s.settings.timeout ≤ longestWait) {parallel : Bool}
    {files : List String} {events : List PoolEvent}
    (h : (s.scanFiles fs parallel files events).timedOut = false) :
    (s.scanFiles fs parallel files events).scans = (s.scanInTurn fs files).scans := by
  unfold scanFiles at h ⊢
  split at h
  · rw [if_pos ‹_›, s.scanSideBySide_eq fs hlimit h]
  · rw [if_neg ‹_›]

end Scanner

/-- What a result says about a project. -/
def ScanResult.contents (r : ScanResult) :
    List Endpoint × List Finding × List (String × String) × List Framework :=
  (r.endpoints, r.findings, r.parseErrors, r.frameworks)

namespace Scanner

theorem map_contents_finish (s : Scanner) (scanPath : String) (files : List String)
    (elapsed elapsed' : ℕ) (scans : List FileScan) :
    (s.finish scanPath files elapsed scans).map ScanResult.contents =
      (s.finish scanPath files elapsed' scans).map ScanResult.contents := by
  rw [finish, finish]
  cases s.findingsOf (classifiedIn scans) with
  | error f => rfl
  | ok found => rfl

/-- **Scanning side by side does not show.** Whatever happens while workers scan files, the pass has
one scan for each file, in the order of the files, and the steps that scanning them in turn gives.
If the wait for a file can begin, and no file takes too long, the scans are those that scanning in
turn gives. Before that, as many files are reported as are collected, and these are the first ones.
So the scan of a path side by side agrees with that in turn in endpoints, findings, reasons,
frameworks and steps, or in the fault of a pattern, whatever time they take. -/
theorem parallel_scan_unobservable (s : Scanner) (fs : FileSystem) (events : List PoolEvent)
    (hlimit : s.settings.timeout ≤ longestWait) :
    (∀ files, (s.scanSideBySide fs files events).scans.map (·.path) = files ∧
      (s.scanSideBySide fs files events).progress = (s.scanInTurn fs files).progress ∧
      ((s.scanSideBySide fs files events).timedOut = false →
        s.scanSideBySide fs files events = s.scanInTurn fs files)) ∧
    (∀ files, ∃ count ≤ files.length,
      (Pool.run (s.job fs files) events).awaited = files.zipIdx.drop count ∧
      (Pool.run (s.job fs files) events).progress = (s.scanInTurn fs files).progress.take count ∧
      ((Pool.run (s.job fs files) events).timedOut = false →
        (Pool.run (s.job fs files) events).results =
          (s.scanInTurn fs files).scans.take count)) ∧
    ∀ path elapsed elapsed' run, s.scanPath? fs path true elapsed events = some run →
      run.timedOut = false →
      ∃ run', s.scanPath? fs path false elapsed' = some run' ∧ run.progress = run'.progress ∧
        run.result.map ScanResult.contents = run'.result.map ScanResult.contents := by
  refine ⟨?_, ?_, ?_⟩
  · intro files
    exact ⟨map_path_of_passes (s.forall₂_passes_sideBySide fs files events),
      Pool.progress_run_closing (s.job fs files) events, s.scanSideBySide_eq fs hlimit⟩
  · intro files
    have hsound := Pool.sound_run (s.job fs files) events
    refine ⟨_, hsound.completed_le, hsound.awaited, hsound.progress, fun htime => ?_⟩
    have hyields := hsound.yields_results
    rw [htime] at hyields
    rw [map_scanFile_of_yields s fs hlimit hyields, scanInTurn, List.map_take]
    rfl
  · intro path elapsed elapsed' run hrun htime
    obtain ⟨tree, htree, rfl⟩ := Option.map_eq_some_iff.mp hrun
    refine ⟨_, by rw [scanPath?, htree]; rfl, ?_, ?_⟩
    · exact s.progress_scanFiles fs true _ events
    · have hscans : (s.scanFiles fs true _ events).scans = _ :=
        s.scans_scanFiles_of_timedOut fs hlimit htime
      unfold scanTree
      dsimp only
      rw [hscans]
      exact s.map_contents_finish _ _ _ _ _

/-- The second of two files ends first, and the collector looks for the first one in vain. -/
theorem overtaken_scan_unobservable :
    let s : Scanner := standard {}
    let events := [.looked, .ended 1, .looked, .ended 0, .looked]
    s.settings.timeout ≤ longestWait ∧
      (s.scanSideBySide {} ["a.go", "b.go"] events).timedOut = false ∧
      s.scanSideBySide {} ["a.go", "b.go"] events = s.scanInTurn {} ["a.go", "b.go"] := by
  intro s events
  have hlimit : s.settings.timeout ≤ longestWait := by decide
  have htime : (s.scanSideBySide {} ["a.go", "b.go"] events).timedOut = false := by
    decide +kernel
  exact ⟨hlimit, htime, ((parallel_scan_unobservable s {} events hlimit).1 _).2.2 htime⟩

/-- A file is given up without a time-out if the wait for it is too long to begin. -/
example : ((standard { timeout := longestWait + 1 }).scanSideBySide {} ["a.go", "b.go"]
    [.looked]).scans.map (·.isGivenUp) = [true, false] := by decide +kernel

end Scanner

end RouteAudit
