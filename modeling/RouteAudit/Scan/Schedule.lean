/-! # Work side by side

Workers end tasks in any order, while a collector waits for the tasks in the order in which they
were given. It takes what a task ended with, puts it into the slot of the task, counts it and
reports it. The collector waits for each task up to a limit, from the moment on at which it comes to
the task. A task that has not ended by then is given up: something that stands for it is put into
its slot, and its worker is left alone. There is a longest wait, and the collector cannot begin one
that is longer; it gives the task up at once.

A `Job` is what the tasks are and what stands for those that are given up. A `Pool` is one moment of
the work, and `Pool.step` says what an event makes of it. Which events happen, and in which order,
is not up to the program. `Pool.run` goes through given ones; `Pool.closing` are events after which
everything has ended and is collected, whatever happened before them. -/

namespace RouteAudit

/-- Progress through the files: how many of how many, and the one at hand. -/
structure ProgressStep where
  current : Nat
  total : Nat
  path : String
deriving DecidableEq, Repr

/-- What happens next while tasks run side by side. -/
inductive PoolEvent where
  /-- A worker ends the task at an index. -/
  | ended (index : Nat)
  /-- The collector looks whether the task it waits for has ended. -/
  | looked
  /-- The time for which the collector waits for its task is over. -/
  | expired
deriving DecidableEq, Repr

/-- Tasks to be worked on side by side. -/
structure Job (β : Type) where
  tasks : List String
  work : String → β
  /-- The seconds for which the collector waits for a task. -/
  limit : Int
  /-- What stands for a task that did not end in time. -/
  late : String → β
  /-- What stands for a task for which the wait is too long to begin. -/
  unawaited : String → β

/-- Tasks that run side by side, at one moment. -/
structure Pool (β : Type) where
  /-- What each task ended with, once it has. -/
  outcomes : List (Option β)
  /-- The tasks that are still to be collected, with their indices. -/
  awaited : List (String × Nat)
  /-- What was collected, each result in the slot of its task. -/
  slots : List (Option β)
  completed : Nat := 0
  progress : List ProgressStep := []
  /-- Some task did not end in time. -/
  timedOut : Bool := false

/-- What the collector does about a task that has not ended. -/
inductive Patience where
  | waits
  | timesOut
  /-- The wait cannot begin. -/
  | refuses
deriving DecidableEq, Repr

/-- The longest wait in seconds. -/
def longestWait : Int := 9223372036

/-- A wait of no time is over at once. -/
def Patience.of (limit : Int) (expired : Bool) : Patience :=
  if longestWait < limit then refuses
  else if limit ≤ 0 || expired then timesOut
  else waits

namespace Pool

variable {β : Type}

/-- No task has ended and nothing is collected. -/
def start (job : Job β) : Pool β where
  outcomes := List.replicate job.tasks.length none
  awaited := job.tasks.zipIdx
  slots := List.replicate job.tasks.length none

/-- A worker ends a task. -/
def finish (job : Job β) (p : Pool β) (index : Nat) : Pool β :=
  match job.tasks[index]? with
  | some task => { p with outcomes := p.outcomes.set index (some (job.work task)) }
  | none => p

/-- The pool with a result in the slot of its next task. -/
def take (job : Job β) (p : Pool β) (task : String) (index : Nat) (found : β) : Pool β :=
  { p with
    awaited := p.awaited.tail
    slots := p.slots.set index (some found)
    completed := p.completed + 1
    progress := p.progress ++ [⟨p.completed + 1, job.tasks.length, task⟩] }

/-- The collector takes the result of the task it waits for. If there is none, it goes on waiting or
gives the task up. -/
def collect (job : Job β) (expired : Bool) (p : Pool β) : Pool β :=
  match p.awaited with
  | [] => p
  | (task, index) :: _ =>
    match p.outcomes[index]? with
    | some (some found) => p.take job task index found
    | _ =>
      match Patience.of job.limit expired with
      | .waits => p
      | .timesOut => { p.take job task index (job.late task) with timedOut := true }
      | .refuses => p.take job task index (job.unawaited task)

def step (job : Job β) (p : Pool β) : PoolEvent → Pool β
  | .ended index => p.finish job index
  | .looked => p.collect job false
  | .expired => p.collect job true

/-- Go through some events. -/
def run (job : Job β) (events : List PoolEvent) : Pool β := events.foldl (step job) (start job)

/-- Every one of so many tasks ends, and then the collector looks once for each. -/
def closing (count : Nat) : List PoolEvent :=
  (List.range count).map .ended ++ List.replicate count .looked

/-- The collected results, in the order of the tasks. -/
def results (p : Pool β) : List β := p.slots.filterMap id

end Pool

end RouteAudit
