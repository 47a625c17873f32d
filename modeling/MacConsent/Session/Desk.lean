import MacConsent.Queue.Serial
import MacConsent.Remedy.Confirmation
import MacConsent.Store.Backend

/-!
# MacConsent.Session.Desk

The world around the remedies of a session: a store with its files, a board of
notices, the choices that dialogs will lead to, and a log. Every request is
logged once it has been carried out; what the store tells the observer on the
way stands before it.
-/

namespace MacConsent.Session

open Remedy (Outcome)

/-! ## The log -/

/-- A request of a remedy, with its answer where that matters. -/
inductive Call
  | get (id : NetworkId) (found : Option Profile)
  | update (p : Profile) (uid : Uid) (result : Except Store.Fault Unit)
  | enable (id : NetworkId) (uid : Uid) (result : Except Store.Fault Unit)
  | post (number : UInt32) (notification : Notification)
  | dialog (request : Dialog.Request)
  | toast (message : String)
  | scan (source : WorkSource)

/-- A line of the log. -/
inductive Entry
  | traced (d : Diagnostic)
  | called (c : Call)

/-- Results of a flush are told apart by their errors. -/
local instance : DecidableEq (Except Remedy.Fault Unit)
  | .ok (), .ok () => isTrue rfl
  | .error fault, .error fault' =>
    decidable_of_iff (fault = fault') ⟨congrArg _, Except.error.inj⟩
  | .ok (), .error _ => isFalse fun h => by cases h
  | .error _, .ok () => isFalse fun h => by cases h

/-- What has become of a ticket. -/
inductive Resolution
  | outcome (o : Outcome)
  /-- The confirmation was lost. -/
  | dropped
  | flushed (result : Except Remedy.Fault Unit)
deriving DecidableEq

/-! ## The desk -/

/-- The world around the remedies. -/
structure Desk where
  store : Store.Backend
  messages : Messages := {}
  tree : Files.Tree := {}
  board : NoticeBoard := {}
  posts : Nat := 0
  /-- The choices of the dialogs to come. -/
  answers : List Dialog.Choice := []
  /-- Whether a dialog was opened for which there was no choice yet. -/
  unanswered : Bool := false
  log : List Entry := []
  resolved : List (Nat × Resolution) := []

namespace Desk

/-- Logs something that was observed. -/
def traced (d : Desk) (e : Diagnostic) : Desk := { d with log := d.log ++ [.traced e] }

/-- Logs a request. -/
def called (d : Desk) (c : Call) : Desk := { d with log := d.log ++ [.called c] }

/-- Resolves a ticket, if there is one. -/
def resolve (d : Desk) (ticket : Option Nat) (r : Resolution) : Desk :=
  match ticket with
  | none => d
  | some ticket => { d with resolved := d.resolved ++ [(ticket, r)] }

/-- Uses the files, and logs what the observer is told. -/
def withFiles {α : Type} (d : Desk) (use : StateM Store.Bench α) : α × Desk :=
  let (a, bench) := use.run ⟨d.tree, []⟩
  (a, { d with tree := bench.tree, log := d.log ++ bench.notes.map .traced })

/-- Changes the store by one of its operations. -/
def onStore (d : Desk)
    (op : Store.Backend → StateM Store.Bench (Except Store.Fault Unit × Store.Backend)) :
    Except Store.Fault Unit × Desk :=
  let ((result, store), d) := d.withFiles (op d.store)
  (result, { d with store })

/-- Carries out a request. -/
def carryOut : (r : Remedy.Request) → StateM Desk r.Answer
  | .look id => fun d => (d.store.find? id, d.called (.get id (d.store.find? id)))
  | .update p uid => fun d =>
    let (result, d) := d.onStore fun s => s.update p uid
    (result, d.called (.update p uid result))
  | .enable id uid => fun d =>
    let (result, d) := d.onStore fun s => s.enable id uid
    (result, d.called (.enable id uid result))
  | .post number notification => fun d =>
    ((), { d with board := d.board.post number notification, posts := d.posts + 1 }.called
      (.post number notification))
  | .toast message => fun d => ((), d.called (.toast message))
  | .scan source => fun d => ((), (d.called (.scan source)).traced (.scanRequested source))
  | .trace e => fun d => ((), d.traced e)

/-! ## Confirmations -/

/-- A confirmation that was asked for. -/
structure Asked where
  id : NetworkId
  identity : Option String
  ticket : Option Nat
deriving DecidableEq

/-- A confirmation whose dialog is open, and the profile that was checked. -/
structure Pending where
  asked : Asked
  profile : Profile
deriving DecidableEq

/-- Acts on the choice of a confirmation's dialog. -/
def conclude (d : Desk) (pending : Pending) (choice : Dialog.Choice) : Desk :=
  let plan := Remedy.conclude d.messages pending.asked.id pending.profile choice
  let (outcome, d) := (plan.run carryOut).run d
  d.resolve pending.asked.ticket (.outcome outcome)

/-- Begins a confirmation; it waits if it gets to a dialog for which there is no choice yet. -/
def start (d : Desk) (asked : Asked) : Desk × Option Pending :=
  match ((Remedy.check d.messages asked.id asked.identity).run carryOut).run d with
  | (.error fault, d) => (d.resolve asked.ticket (.outcome (.invalidated fault)), none)
  | (.ok p, d) =>
    let d := d.called (.dialog (Remedy.question d.messages p))
    match d.answers with
    | choice :: answers => ({ d with answers }.conclude ⟨asked, p⟩ choice, none)
    | [] => ({ d with unanswered := true }, some ⟨asked, p⟩)

/-- How the worker of a session does its work. -/
def work : Queue.Work Asked Pending Desk where
  start asked d := d.start asked
  pass ticket d := d.resolve (some ticket) (.flushed (.ok ()))
  drain d := d.traced (.queueDrained "confirmation")

end Desk

end MacConsent.Session
