import MacConsent.Diagnostic
import MacConsent.Queue.Serial

/-!
# MacConsent.Queue.Gated

A queue of jobs that do nothing but report when they start and end, with any
number of pauses in between: a job may give way, or wait at a gate. Gates are
known by name, and only the latest gate of a name can be opened; a new gate of
the same name opens the one before. A job that only gives way goes on at once,
since nobody else wants the worker. A flush is a barrier; its ticket is resolved
when the barrier is passed or lost.
-/

namespace MacConsent.Queue

/-- Where a job stops on its way. -/
inductive Pause
  /-- It gives way once. -/
  | turn
  /-- It waits until the gate of a number is open. -/
  | gate (n : Nat)
deriving DecidableEq, Repr

/-- A job that reports. -/
structure GatedJob where
  name : String
  /-- The pauses that are still before it. -/
  pauses : List Pause
deriving DecidableEq, Repr

/-- A job as it is submitted: each of its pauses is to give way, or at a gate of a name. -/
structure Order where
  name : String
  pauses : List (Option String)
deriving DecidableEq, Repr

/-- A job with a gate of its own name, if asked for. -/
def Order.ofGate (job : String × Bool) : Order := ⟨job.1, if job.2 then [some job.1] else []⟩

instance : Coe (List (String × Bool)) (List Order) := ⟨List.map Order.ofGate⟩

/-- What has happened in a yard. -/
inductive Report
  | started (job : String)
  | ended (job : String)
  | noted (d : Diagnostic)
deriving DecidableEq

/-- Whether what was asked of a queue was done. -/
abbrev Served := Except Remedy.Fault Unit

/-- What jobs see and leave behind. -/
structure Track where
  /-- The numbers of the gates that are shut. -/
  shut : List Nat := []
  reports : List Report := []
  resolved : List (Nat × Served) := []

/-- A queue of reporting jobs and its gates. -/
structure Yard where
  queue : Serial GatedJob GatedJob := {}
  track : Track := {}
  /-- The latest gate of each name, as long as it was not opened. -/
  gates : List (String × Nat) := []
  gatesMade : Nat := 0
  flushes : Nat := 0

/-- What opening a gate comes to. -/
inductive Opening
  | opened
  /-- The job of the gate was lost. -/
  | gone
  | noGate
deriving DecidableEq, Repr

namespace Track

/-- One more report. -/
def report (t : Track) (r : Report) : Track := { t with reports := t.reports ++ [r] }

/-- One more ticket that is resolved. -/
def resolve (t : Track) (ticket : Nat) (result : Served) : Track :=
  { t with resolved := t.resolved ++ [(ticket, result)] }

/-- Whether a pause does not hold a job up. -/
def isPassable (t : Track) : Pause → Bool
  | .turn => true
  | .gate n => !t.shut.contains n

/-- Goes on with a job up to a gate that is shut, or to its end. -/
def goOn (t : Track) (job : GatedJob) : Track × Option GatedJob :=
  match job.pauses.dropWhile t.isPassable with
  | [] => (t.report (.ended job.name), none)
  | pauses => (t, some { job with pauses })

/-- Begins a job, and goes on with it. -/
def start (t : Track) (job : GatedJob) : Track × Option GatedJob :=
  (t.report (.started job.name)).goOn job

end Track

/-- The name of the queue in a yard. -/
def yardName : String := "test"

/-- How the worker of a yard does its work. -/
def yardWork : Work GatedJob GatedJob Track where
  start job t := t.start job
  pass ticket t := t.resolve ticket (.ok ())
  drain t := t.report (.noted (.queueDrained yardName))

namespace Yard

/-- Lets the worker go on as far as it can. -/
def settle (y : Yard) : Yard :=
  let go (queue : Serial GatedJob GatedJob) (track : Track) : Yard :=
    let (queue, track) := queue.settle yardWork track
    { y with queue, track }
  match y.queue.current with
  | some job =>
    match y.track.goOn job with
    | (track, some job) => { y with queue := { y.queue with current := some job }, track }
    | (track, none) => go y.queue.finish track
  | none => go y.queue y.track

/-- Puts up a gate of a name; the one before it is opened. -/
def makeGate (y : Yard) (name : String) : Yard :=
  { y with
    gates := (name, y.gatesMade) :: y.gates.filter fun g => g.1 != name
    gatesMade := y.gatesMade + 1
    track := { y.track with
      shut := y.gatesMade :: y.track.shut.filter fun n => some n != y.gates.lookup name } }

/-- Puts up the gates of a job's pauses. -/
def makePauses (y : Yard) : List (Option String) → List Pause × Yard
  | [] => ([], y)
  | none :: rest =>
    let (pauses, y) := y.makePauses rest
    (.turn :: pauses, y)
  | some name :: rest =>
    let (pauses, made) := (y.makeGate name).makePauses rest
    (.gate y.gatesMade :: pauses, made)

/-- Submits a job. -/
def submit (y : Yard) (order : Order) : Served × Yard :=
  let (pauses, y) := y.makePauses order.pauses
  match y.queue.submit? (.job ⟨order.name, pauses⟩) with
  | none => (.error .queueClosed, y)
  | some queue => (.ok (), { y with queue })

/-- Begins to wait for all that was submitted; gives the ticket. -/
def flush (y : Yard) : Nat × Yard :=
  let ticket := y.flushes
  let y := { y with flushes := ticket + 1 }
  match y.queue.submit? (.barrier ticket) with
  | none => (ticket, { y with track := y.track.resolve ticket (.error .queueClosed) })
  | some queue => (ticket, { y with queue })

/-- Whether a job that is not done waits, or will wait, at a gate. -/
def awaits (y : Yard) (gate : Nat) : Bool :=
  y.queue.current.any (·.pauses.contains (.gate gate)) ||
    y.queue.waiting.any fun
      | .job job => job.pauses.contains (.gate gate)
      | .barrier _ => false

/-- Opens the latest gate of a name. -/
def openGate (y : Yard) (name : String) : Opening × Yard :=
  match y.gates.lookup name with
  | none => (.noGate, y)
  | some gate =>
    (if y.awaits gate then .opened else .gone,
      { y with
        gates := y.gates.filter fun g => g.1 != name
        track := { y.track with shut := y.track.shut.filter (· != gate) } })

/-- Stops the worker; all that is not done is lost. -/
def stop (y : Yard) : Yard :=
  let (queue, _, waiting) := y.queue.stop
  let track := (tickets waiting).foldl (fun t n => t.resolve n (.error .queueClosed)) y.track
  { y with queue, track }

/-- Lets go of the queue. -/
def release (y : Yard) : Yard := { y with queue := y.queue.release }

/-- The yard with nothing reported yet. -/
def quiet (y : Yard) : Yard := { y with track := { y.track with reports := [], resolved := [] } }

/-! ## Steps -/

/-- Something that happens from outside. -/
inductive Step
  /-- Submits jobs in order. -/
  | submit (orders : List Order)
  | flush
  | openGate (name : String)
  | stop
  | release
deriving DecidableEq, Repr

/-- What a step gives back. -/
inductive Answer
  | done
  | submitted (results : List Served)
  | ticket (n : Nat)
  | opening (o : Opening)
  /-- The owner has let go of the queue. -/
  | noQueue

/-- Submits jobs in order. -/
def submitAll (y : Yard) : List Order → List Served × Yard
  | [] => ([], y)
  | order :: orders =>
    let (result, y) := y.submit order
    let (results, y) := y.submitAll orders
    (result :: results, y)

/-- What a step does at once. Jobs and flushes need a hold on the queue. -/
def act (y : Yard) : Step → Answer × Yard
  | .submit orders =>
    if y.queue.held then
      let (results, y) := y.submitAll orders
      (.submitted results, y)
    else (.noQueue, y)
  | .flush =>
    if y.queue.held then
      let (ticket, y) := y.flush
      (.ticket ticket, y)
    else (.noQueue, y)
  | .openGate name =>
    let (opening, y) := y.openGate name
    (.opening opening, y)
  | .stop => (.done, y.stop)
  | .release => (.done, y.release)

/-- A step, and all that moves after it. -/
def step (y : Yard) (e : Step) : Answer × Yard :=
  let (answer, y) := y.act e
  (answer, y.settle)

end Yard

end MacConsent.Queue
