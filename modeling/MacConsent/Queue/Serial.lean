/-!
# MacConsent.Queue.Serial

A queue with one worker. Items are taken in the order in which they came, and
the next one is not begun before the last one is done. An item is a job or a
barrier; a barrier is passed at once when its turn comes. A job that has to wait
for something outside keeps the worker until it is resumed.

The worker ends in one of two ways. It runs dry once no handle to the queue is
left and nothing waits any more; a barrier that waits holds a handle of its own.
Or it is stopped, and everything that has not been done is lost.
-/

namespace MacConsent.Queue

/-- What can stand in a queue. -/
inductive Item (α : Type)
  | job (a : α)
  | barrier (ticket : Nat)
deriving DecidableEq, Repr

/-- What has become of a worker. -/
inductive Worker
  | running
  | drained
  | stopped
deriving DecidableEq, Repr

/-- A queue of jobs `α`; a job that has begun and waits is held as a `ρ`. -/
structure Serial (α ρ : Type) where
  /-- What has not been begun, first in first out. -/
  waiting : List (Item α) := []
  /-- The job that has begun and waits. -/
  current : Option ρ := none
  worker : Worker := .running
  /-- Whether the owner still holds a handle. -/
  held : Bool := true
deriving DecidableEq, Repr

/-- How a worker does its work, on a state `σ`. -/
structure Work (α ρ σ : Type) where
  /-- Begins a job; the job is done unless it is given back as waiting. -/
  start : α → σ → σ × Option ρ
  /-- Passes a barrier. -/
  pass : Nat → σ → σ
  /-- Takes note that the worker has run dry. -/
  drain : σ → σ

namespace Serial

variable {α ρ σ : Type}

/-- The queue with one more item; without a worker nothing is taken. -/
def submit? (q : Serial α ρ) (item : Item α) : Option (Serial α ρ) :=
  if q.worker = .running then some { q with waiting := q.waiting ++ [item] } else none

/-- Does items until one waits or none is left: what has begun and waits, and the rest. -/
def consume (w : Work α ρ σ) (s : σ) : List (Item α) → σ × Option ρ × List (Item α)
  | [] => (s, none, [])
  | .barrier ticket :: rest => consume w (w.pass ticket s) rest
  | .job a :: rest =>
    match w.start a s with
    | (s, none) => consume w s rest
    | (s, some r) => (s, some r, rest)

/-- Lets the worker go on as far as it can. -/
def settle (w : Work α ρ σ) (q : Serial α ρ) (s : σ) : Serial α ρ × σ :=
  match q.worker, q.current with
  | .running, none =>
    match consume w s q.waiting with
    | (s, some r, rest) => ({ q with waiting := rest, current := some r }, s)
    | (s, none, rest) =>
      if q.held then ({ q with waiting := rest }, s)
      else ({ q with waiting := rest, worker := .drained }, w.drain s)
  | _, _ => (q, s)

/-- The queue once the job that waits is done. -/
def finish (q : Serial α ρ) : Serial α ρ := { q with current := none }

/-- The queue once its owner has let go of it. -/
def release (q : Serial α ρ) : Serial α ρ := { q with held := false }

/-- Stops the worker: the queue, the job that was waiting and the items not begun. -/
def stop (q : Serial α ρ) : Serial α ρ × Option ρ × List (Item α) :=
  if q.worker = .running then
    ({ q with waiting := [], current := none, worker := .stopped }, q.current, q.waiting)
  else (q, none, [])

end Serial

/-- The tickets of the barriers among items, in order. -/
def tickets {α : Type} (items : List (Item α)) : List Nat :=
  items.filterMap fun
    | .job _ => none
    | .barrier ticket => some ticket

end MacConsent.Queue
