import MacConsent.Proofs.Queue.Turns
import MacConsent.Proofs.Session.Mishaps

/-!
# MacConsent.Proofs.Session.Shift

A session whose worker goes on by one request at a time.  Between two requests
anything may happen outside, listeners take what was sent to them when they come
to it, and whatever writes to a file may have mishaps (`Beat`).  Only the worker
is not stopped between requests: the code of a confirmation suspends at its
dialog and nowhere else, so that is where it can be dropped.

A shift keeps an account beside the session (`Shift`): the confirmations in the
order in which the queue took them on, each call with the confirmation that has
made it, the dialogs that wait, and the outcomes.  The account is kept from what
each beat does, never from what stands in the queue.
-/

namespace MacConsent.Session

open Desk (Asked Pending)
open Remedy (Outcome Plan)
open Store (Mishap)

/-- How far a confirmation is. -/
inductive Stage
  | checking (plan : Plan (Except Remedy.Fault Profile))
  /-- The dialog for a profile waits for a choice. -/
  | asking (p : Profile)
  | concluding (plan : Plan Outcome)

/-- A confirmation that the worker has in hand. -/
structure Hand where
  /-- How many were taken in hand before it. -/
  number : Nat
  asked : Asked
  stage : Stage

/-- A call, and the confirmation that has made it, if it was one. -/
structure Made where
  maker : Option (Nat × Asked)
  call : Call

/-- A confirmation that has come to an outcome. -/
structure Ended where
  number : Nat
  asked : Asked
  outcome : Outcome
deriving DecidableEq

/-- A session with what its worker is about, and an account of what has happened. -/
structure Shift where
  session : Session
  hand : Option Hand := none
  /-- The events on their way to the listeners, each with its channel. -/
  sent : List (Nat × TapEvent) := []
  /-- The confirmations that the queue took on, in order. -/
  submitted : List Asked := []
  /-- How many of them the worker has taken in hand. -/
  taken : Nat := 0
  made : List Made := []
  /-- The numbers of the confirmations whose dialogs wait. -/
  dialogs : List Nat := []
  ended : List Ended := []

/-- Something that happens in a shift. -/
inductive Beat
  /-- A step from outside, amid mishaps. -/
  | outside (e : Step) (mishaps : List (Option Mishap) := [])
  /-- The listener of a channel takes the next event that was sent to it. -/
  | listen (channel : Nat)
  /-- The worker goes on by one request, amid mishaps. -/
  | work (mishaps : List (Option Mishap) := [])

/-- The confirmation that waits for the choice of its dialog. -/
def Hand.pending? (h : Hand) : Option Pending :=
  match h.stage with
  | .asking p => some ⟨h.asked, p⟩
  | _ => none

/-- The confirmation that a listener asks for when it takes an event. -/
def heardAs (event : TapEvent) : List Asked :=
  (Router.hear event).2.toList.map fun (id, identity) => ⟨id, identity, none⟩

namespace Shift

variable (s : Shift)

/-- A new shift, with nothing asked for yet. -/
def begin (desk : Desk) (router : Router) (tickets : Nat) : Shift where
  session := { desk, router, tickets }
  made := desk.calls.map (Made.mk none)

/-- Takes note of the calls that have led to a desk, and of who has made them. -/
def noted (maker : Option (Nat × Asked)) (desk : Desk) : Shift :=
  { s with
    session := { s.session with desk }
    made := s.made ++ (desk.calls.drop s.session.desk.calls.length).map (Made.mk maker) }

/-- The confirmations that the queue has taken on, with those that are asked for now. -/
def submittedWith (asked : List Asked) : List Asked :=
  if s.session.queue.worker = .running then s.submitted ++ asked else s.submitted

/-! ## from outside -/

/-- Answers the dialog that waits; the worker goes on with the choice in its own time. -/
def reply (choice : Dialog.Choice) : Shift :=
  if s.session.desk.unanswered then
    let desk := { s.session.desk with unanswered := false }
    match s.hand with
    | some ⟨number, asked, .asking p⟩ =>
      let plan := Remedy.conclude desk.messages asked.id p choice
      { s with
        session := { s.session with desk, queue := s.session.queue.finish }
        hand := some ⟨number, asked, .concluding plan⟩
        dialogs := s.dialogs.filter (· != number) }
    | _ => { s with session := { s.session with desk } }
  else s

/-- Whether the worker is where it can be stopped. -/
def isSuspended : Bool := s.hand.all fun h => h.pending?.isSome

/-- Stops the worker, where it can be stopped. -/
def stop : Shift :=
  if s.isSuspended then
    { s with
      session := s.session.stop
      hand := none
      dialogs := s.dialogs.filter fun n => s.hand.all (·.number != n) }
  else s

/-- Changes a store in a document past the remedies. -/
def edit (c : Store.Change) (mishaps : List (Option Mishap)) : Shift :=
  match s.session.desk.store with
  | .memory _ => s
  | .durable store =>
    { s with session := { s.session with desk := (s.session.desk.changed mishaps store c).2 } }

/-- Sends events to whom a sender reaches. -/
def send (events : List TapEvent) : Shift :=
  let router := s.session.router
  { s with sent := s.sent ++ (router.heard events).map (router.sender.getD 0, ·) }

/-- What a step from outside does. -/
def outside (e : Step) (mishaps : List (Option Mishap)) : Shift :=
  match e with
  | .reply choice => s.reply choice
  | .stop => s.stop
  | .add p => s.edit (.add p) mishaps
  | .update p => s.edit (.update p directUid) mishaps
  | .notify id => s.noted none (s.session.act (.notify id)).2.desk
  | .route (.send events) => s.send events
  | .tap =>
    match s.session.desk.board.find? noticeNumber with
    | none => s
    | some notification => s.send [notification.tapAction]
  | .confirm id identity =>
    { s with
      session := (s.session.act (.confirm id identity)).2
      submitted := s.submittedWith [⟨id, identity, some s.session.tickets⟩] }
  | e => { s with session := (s.session.act e).2 }

/-- The listener of a channel takes an event. -/
def listen (channel : Nat) : Shift :=
  match s.sent.find? (·.1 == channel) with
  | none => s
  | some (_, event) =>
    { s with
      session := s.session.hear event
      sent := s.sent.eraseP (·.1 == channel)
      submitted := s.submittedWith (heardAs event) }

/-! ## the worker -/

/-- The worker takes the next item of its queue. -/
def take? : Option Shift :=
  let queue := s.session.queue
  match queue.worker, queue.waiting with
  | .running, .job asked :: waiting =>
    let plan := Remedy.check s.session.desk.messages asked.id asked.identity
    some { s with
      session := { s.session with queue := { queue with waiting } }
      hand := some ⟨s.taken, asked, .checking plan⟩
      taken := s.taken + 1 }
  | .running, .barrier ticket :: waiting =>
    let desk := Desk.work.pass ticket s.session.desk
    some { s with session := { s.session with desk, queue := { queue with waiting } } }
  | .running, [] =>
    if queue.held then none
    else
      let desk := Desk.work.drain s.session.desk
      some { s with session := { s.session with desk, queue := { queue with worker := .drained } } }
  | _, _ => none

variable {s} in
theorem take?_of_not_running (h : s.session.queue.worker ≠ .running) : s.take? = none := by
  unfold take?
  dsimp only
  split
  · next hrunning _ => exact absurd hrunning h
  · next hrunning _ => exact absurd hrunning h
  · next hrunning _ => exact absurd hrunning h
  · rfl

/-- A confirmation comes to its outcome. -/
def finish (h : Hand) (outcome : Outcome) : Shift :=
  let desk := s.session.desk.resolve h.asked.ticket (.outcome outcome)
  { s with
    session := { s.session with desk }
    hand := none
    ended := s.ended ++ [⟨h.number, h.asked, outcome⟩] }

/-- A confirmation opens its dialog, and waits unless there is a choice already. -/
def openDialog (h : Hand) (p : Profile) : Shift :=
  let messages := s.session.desk.messages
  let desk := s.session.desk.called (.dialog (Remedy.question messages p))
  match desk.answers with
  | choice :: answers =>
    let plan := Remedy.conclude messages h.asked.id p choice
    { s with hand := some { h with stage := .concluding plan } }.noted (some (h.number, h.asked))
      { desk with answers }
  | [] =>
    let queue := { s.session.queue with current := some ⟨h.asked, p⟩ }
    { s with
      session := { s.session with queue }
      hand := some { h with stage := .asking p }
      dialogs := s.dialogs ++ [h.number] }.noted (some (h.number, h.asked))
        { desk with unanswered := true }

/-- A confirmation makes a request. -/
def request (h : Hand) (r : Remedy.Request) (next : r.Answer → Stage)
    (mishaps : List (Option Mishap)) : Shift :=
  let (answer, desk) := (Desk.carryOutAmid mishaps r).run s.session.desk
  { s with hand := some { h with stage := next answer } }.noted (some (h.number, h.asked)) desk

/-- The worker goes on with the confirmation in hand. There is nothing to do while the dialog
waits. -/
def goOn? (h : Hand) (mishaps : List (Option Mishap)) : Option Shift :=
  match h.stage with
  | .checking (.call r next) => some (s.request h r (fun a => .checking (next a)) mishaps)
  | .checking (.done (.error fault)) => some (s.finish h (.invalidated fault))
  | .checking (.done (.ok p)) => some (s.openDialog h p)
  | .asking _ => none
  | .concluding (.call r next) => some (s.request h r (fun a => .concluding (next a)) mishaps)
  | .concluding (.done outcome) => some (s.finish h outcome)

/-- The next thing that the worker does, if there is one. -/
def work? (mishaps : List (Option Mishap)) : Option Shift :=
  match s.hand with
  | none => s.take?
  | some h => s.goOn? h mishaps

/-! ## runs -/

/-- The shift after one beat. -/
def beat : Beat → Shift
  | .outside e mishaps => s.outside e mishaps
  | .listen channel => s.listen channel
  | .work mishaps => (s.work? mishaps).getD s

/-- The shift after a number of beats. -/
def run (beats : List Beat) : Shift := beats.foldl beat s

end Shift

end MacConsent.Session
