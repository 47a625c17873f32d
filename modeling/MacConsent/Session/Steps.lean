import MacConsent.Router
import MacConsent.Session.Desk

/-!
# MacConsent.Session.Steps

A session: remedies with their queue and their router, and the world around
them. What happens from outside is a step. After each step everything that can
move does so: first the listeners take all events that were sent, then the
worker goes through its queue. At most one dialog is open at a time, because
the confirmation that waits for it keeps the worker.
-/

namespace MacConsent

/-- A session. -/
structure Session where
  desk : Session.Desk
  queue : Queue.Serial Session.Desk.Asked Session.Desk.Pending := {}
  router : Router := {}
  /-- How many tickets were given out. -/
  tickets : Nat := 0

namespace Session

open Desk (Asked Pending)

/-- Something that happens from outside. -/
inductive Step
  | write (path : Files.Path) (content : Option String)
  | makeDirectory (path : Files.Path)
  | clear (path : Files.Path)
  /-- Puts a profile into a store in memory. -/
  | insert (p : Profile)
  /-- Tells a store in memory what to do with updates. -/
  | mode (mode : Store.UpdateMode)
  /-- Tells a store in memory to refuse to enable networks. -/
  | failEnable
  /-- Saves a new profile in a document. -/
  | add (p : Profile)
  /-- Changes a profile in a document, past the remedies. -/
  | update (p : Profile)
  | notify (id : NetworkId)
  | confirm (id : NetworkId) (identity : Option String)
  | flush
  | reply (choice : Dialog.Choice)
  /-- Something that is asked of the router. -/
  | route (e : Router.Step)
  /-- Sends the event of the notification that is live. -/
  | tap
  | stop

/-- What a step gives back. -/
inductive Result
  | ok
  | filesFault (fault : Files.Fault)
  | storeFault (fault : Store.Fault)
  | id (id : NetworkId)
  | offer (offer : Option Offer)
  | ticket (n : Nat)
  | routed (answer : Router.Answer)
  | delivery (d : Delivery)
  | noNotification
  | noDialog
  /-- The confirmation that had opened the dialog was lost. -/
  | gone
  /-- The step is not one for this kind of store. -/
  | unfit

/-! ## The parts of steps -/

/-- Queues a confirmation; without a worker it is lost. -/
def ask (s : Session) (asked : Asked) : Session :=
  match s.queue.submit? (.job asked) with
  | some queue => { s with queue }
  | none =>
    let desk := s.desk.traced (.confirmationDropped asked.id .queueClosed)
    { s with desk := desk.resolve asked.ticket .dropped }

/-- A listener takes an event. -/
def hear (s : Session) (event : TapEvent) : Session :=
  let (told, wanted) := Router.hear event
  let s := { s with desk := s.desk.traced told }
  match wanted with
  | none => s
  | some (id, identity) => s.ask ⟨id, identity, none⟩

/-- The listener takes events in order. -/
def hearAll (s : Session) (events : List TapEvent) : Session := events.foldl hear s

/-- Gives out a ticket. -/
def newTicket (s : Session) : Nat × Session := (s.tickets, { s with tickets := s.tickets + 1 })

/-- Begins to wait for all that was queued. -/
def flush (s : Session) : Nat × Session :=
  let (ticket, s) := s.newTicket
  match s.queue.submit? (.barrier ticket) with
  | some queue => (ticket, { s with queue })
  | none =>
    (ticket, { s with desk := s.desk.resolve (some ticket) (.flushed (.error .queueClosed)) })

/-- Answers the dialog that waits. -/
def reply (s : Session) (choice : Dialog.Choice) : Result × Session :=
  if s.desk.unanswered then
    let s := { s with desk := { s.desk with unanswered := false } }
    match s.queue.current with
    | none => (.gone, s)
    | some pending =>
      (.ok, { s with desk := s.desk.conclude pending choice, queue := s.queue.finish })
  else (.noDialog, s)

/-- What becomes of an item that is lost. -/
def lose (d : Desk) : Queue.Item Asked → Desk
  | .job asked => d.resolve asked.ticket .dropped
  | .barrier ticket => d.resolve (some ticket) (.flushed (.error .queueClosed))

/-- Stops the worker; all that is not done is lost. -/
def stop (s : Session) : Session :=
  let (queue, current, waiting) := s.queue.stop
  let begun : List (Queue.Item Asked) := current.toList.map fun pending => .job pending.asked
  { s with queue, desk := (begun ++ waiting).foldl lose s.desk }

/-- Changes a store in memory. -/
def onMemory (s : Session) (f : Store.Memory → Store.Memory) : Result × Session :=
  match s.desk.store with
  | .memory m => (.ok, { s with desk := { s.desk with store := .memory (f m) } })
  | .durable _ => (.unfit, s)

/-- Changes the files. -/
def onFiles (s : Session) (f : Files.Tree → Except Files.Fault Files.Tree) : Result × Session :=
  match f s.desk.tree with
  | .ok tree => (.ok, { s with desk := { s.desk with tree } })
  | .error fault => (.filesFault fault, s)

/-- Uses a store in a document, past the remedies. -/
def onDurable {α : Type} (s : Session)
    (op : Store.Durable → StateM Store.Bench (Except Store.Fault (α × Store.Durable)))
    (result : α → Result) : Result × Session :=
  match s.desk.store with
  | .memory _ => (.unfit, s)
  | .durable store =>
    match s.desk.withFiles (op store) with
    | (.ok (a, store), desk) => (result a, { s with desk := { desk with store := .durable store } })
    | (.error fault, desk) => (.storeFault fault, { s with desk })

/-- Whom direct changes are made by. -/
def directUid : Uid := 1

/-! ## Steps -/

/-- What a step does at once. -/
def act (s : Session) : Step → Result × Session
  | .write path content => s.onFiles fun t => t.write path content
  | .makeDirectory path => s.onFiles fun t => t.makeDirectory path
  | .clear path => s.onFiles fun t => t.clear path
  | .insert p => s.onMemory fun m => m.insert p
  | .mode mode => s.onMemory fun m => { m with mode }
  | .failEnable => s.onMemory fun m => { m with failEnable := true }
  | .add p => s.onDurable (fun store => store.add Store.Backing.bench p) .id
  | .update p =>
    s.onDurable
      (fun store => do return (← store.update Store.Backing.bench p directUid).map ((), ·))
      fun () => .ok
  | .notify id =>
    let (offer, desk) := ((Remedy.offer s.desk.messages id).run Desk.carryOut).run s.desk
    (.offer offer, { s with desk })
  | .confirm id identity =>
    let (ticket, s) := s.newTicket
    (.ticket ticket, s.ask ⟨id, identity, some ticket⟩)
  | .flush =>
    let (ticket, s) := s.flush
    (.ticket ticket, s)
  | .reply choice => s.reply choice
  | .route e =>
    let (answer, router, heard) := s.router.step e
    (.routed answer, { s with router }.hearAll heard)
  | .tap =>
    match s.desk.board.find? noticeNumber with
    | none => (.noNotification, s)
    | some notification =>
      (.delivery s.router.delivery, s.hearAll (s.router.heard [notification.tapAction]))
  | .stop => (.ok, s.stop)

/-- Lets the worker go on as far as it can. -/
def settle (s : Session) : Session :=
  let (queue, desk) := s.queue.settle Desk.work s.desk
  { s with queue, desk }

/-- A step, and all that moves after it. -/
def step (s : Session) (e : Step) : Result × Session :=
  let (result, s) := s.act e
  (result, s.settle)

/-- The session with nothing logged and no ticket resolved yet. -/
def quiet (s : Session) : Session :=
  { s with desk := { s.desk with log := [], resolved := [] } }

/-- A session over a store in a document, if the document can be read. -/
def durable? (path : Files.Path) (tree : Files.Tree) (messages : Messages)
    (answers : List Dialog.Choice) : Except Store.Fault Session :=
  match (Store.Durable.load Store.Backing.bench path).run ⟨tree, []⟩ with
  | (.error fault, _) => .error fault
  | (.ok store, bench) =>
    .ok { desk := { store := .durable store, tree := bench.tree, messages, answers } }

/-- A session over an empty store in memory. -/
def memory (messages : Messages) (answers : List Dialog.Choice) : Session :=
  { desk := { store := .memory {}, messages, answers } }

end Session

end MacConsent
