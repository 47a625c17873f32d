import MacConsent.Proofs.Remedy.Requests
import MacConsent.Session.Steps

/-!
# MacConsent.Proofs.Session.Frame

What the parts of a session leave alone.  The log of a desk tells of every call
that a request makes (`carryOut_calls`).  No request touches the choices that
dialogs will lead to, and requests aside leave the store and its files as they
are; so a confirmation that gets to no choice changes nothing but what is told.
When a worker is left waiting at a dialog, the store holds the very profile
that was checked (`Asking`).  Around the queue, only replies and stops act on a
confirmation that waits (`act_progress`).
-/

namespace MacConsent.Session

open Remedy (Request)

/-! ## calls -/

/-- The call that a request makes, with its answer; what the observer is told is no call. -/
def Call.of? : (r : Request) → r.Answer → Option Call
  | .look id, found => some (.get id found)
  | .update p uid, result => some (.update p uid result)
  | .enable id uid, result => some (.enable id uid result)
  | .post number notification, () => some (.post number notification)
  | .toast message, () => some (.toast message)
  | .scan source, () => some (.scan source)
  | .trace _, () => none

/-- The profile and the uid of an update, if a call is one. -/
def Call.update? : Call → Option (Profile × Uid)
  | .update p uid _ => some (p, uid)
  | _ => none

/-- The call that a line of the log is about. -/
def Entry.call? : Entry → Option Call
  | .called c => some c
  | .traced _ => none

/-- The profile and the uid of an update, if a line of the log is about one. -/
def Entry.update? : Entry → Option (Profile × Uid)
  | .called (.update p uid _) => some (p, uid)
  | _ => none

namespace Desk

/-- The calls in the log of a desk, in order. -/
def calls (d : Desk) : List Call := d.log.filterMap Entry.call?

/-- The updates that remedies have asked for, in order. -/
def updates (d : Desk) : List (Profile × Uid) := d.log.filterMap Entry.update?

/-! ## the log -/

variable (r : Request) (d : Desk)

theorem called_calls (c : Call) : (d.called c).calls = d.calls ++ [c] :=
  List.filterMap_append

theorem traced_calls (e : Diagnostic) : (d.traced e).calls = d.calls :=
  List.filterMap_append.trans (List.append_nil _)

/-- What the observer is told is no call. -/
theorem calls_of_notes (log : List Entry) (notes : List Diagnostic) :
    (log ++ notes.map Entry.traced).filterMap Entry.call? = log.filterMap Entry.call? := by
  have hnone : (notes.map Entry.traced).filterMap Entry.call? = [] := by
    rw [List.filterMap_map, List.filterMap_eq_nil_iff]
    exact fun _ _ => rfl
  rw [List.filterMap_append, hnone, List.append_nil]

/-- Work on the files makes no call. -/
theorem withFiles_calls {α : Type} (use : StateM Store.Bench α) :
    (d.withFiles use).2.calls = d.calls :=
  calls_of_notes d.log _

/-- A desk logs the calls that requests make. -/
theorem carryOut_calls :
    ((carryOut r).run d).2.calls = d.calls ++ (Call.of? r ((carryOut r).run d).1).toList := by
  cases r with
  | look id => exact d.called_calls _
  | update p uid =>
      change ((d.onStore fun s => s.update p uid).2.called _).calls = _
      rw [called_calls]
      exact congrArg (· ++ _) (d.withFiles_calls _)
  | enable id uid =>
      change ((d.onStore fun s => s.enable id uid).2.called _).calls = _
      rw [called_calls]
      exact congrArg (· ++ _) (d.withFiles_calls _)
  | post number notification => exact d.called_calls _
  | toast message => exact d.called_calls _
  | scan source => exact ((d.called _).traced_calls _).trans (d.called_calls _)
  | trace e => exact (d.traced_calls e).trans (List.append_nil _).symm

/-- The updates are those of the calls. -/
theorem updates_eq : d.updates = d.calls.filterMap Call.update? := by
  rw [updates, calls, List.filterMap_filterMap]
  congr
  funext entry
  cases entry with
  | traced e => rfl
  | called c => cases c <;> rfl

/-- The updates are those among the calls. -/
theorem updates_of_calls {d d' : Desk} {more : List Call} (h : d'.calls = d.calls ++ more) :
    d'.updates = d.updates ++ more.filterMap Call.update? := by
  rw [updates_eq, updates_eq, h, List.filterMap_append]

theorem withFiles_updates {α : Type} (use : StateM Store.Bench α) :
    (d.withFiles use).2.updates = d.updates := by
  rw [updates_eq, updates_eq, withFiles_calls]

theorem traced_updates (e : Diagnostic) : (d.traced e).updates = d.updates := by
  rw [updates_eq, updates_eq, traced_calls]

/-- The log tells of every update that a remedy asks for. -/
theorem carryOut_updates :
    ((carryOut r).run d).2.updates = d.updates ++ r.update?.toList := by
  rw [updates_of_calls (d.carryOut_calls r)]
  cases r <;> rfl

/-! ## requests -/

/-- No request answers a dialog. -/
theorem carryOut_answers : ((carryOut r).run d).2.answers = d.answers := by
  cases r <;> rfl

/-- No request opens a dialog. -/
theorem carryOut_unanswered : ((carryOut r).run d).2.unanswered = d.unanswered := by
  cases r <;> rfl

variable {r d}

/-- A request aside from the store leaves it as it is. -/
theorem carryOut_store_of_aside (h : r.IsAside) : ((carryOut r).run d).2.store = d.store := by
  cases r with
  | update p uid => exact h.elim
  | enable id uid => exact h.elim
  | _ => rfl

/-- A request aside from the store leaves the files as they are. -/
theorem carryOut_tree_of_aside (h : r.IsAside) : ((carryOut r).run d).2.tree = d.tree := by
  cases r with
  | update p uid => exact h.elim
  | enable id uid => exact h.elim
  | _ => rfl

/-- A request aside from the store updates no profile. -/
theorem carryOut_updates_of_aside (h : r.IsAside) :
    ((carryOut r).run d).2.updates = d.updates := by
  rw [carryOut_updates, h.update?_eq_none]
  exact List.append_nil _

/-! ## plans -/

/-- One desk has the store with its files, the choices to come and the updates of another. -/
structure Untouched (d d' : Desk) : Prop where
  store : d'.store = d.store
  tree : d'.tree = d.tree
  answers : d'.answers = d.answers
  unanswered : d'.unanswered = d.unanswered
  updates : d'.updates = d.updates

theorem Untouched.refl (d : Desk) : Untouched d d := ⟨rfl, rfl, rfl, rfl, rfl⟩

/-- A line for the observer touches nothing. -/
theorem traced_untouched (d : Desk) (e : Diagnostic) : Untouched d (d.traced e) :=
  ⟨rfl, rfl, rfl, rfl, d.traced_updates e⟩

/-- A plan aside from the store touches nothing. -/
theorem untouched_of_aside {α : Type} {plan : Remedy.Plan α} (h : plan.All Request.IsAside)
    (d : Desk) : Untouched d ((plan.run carryOut).run d).2 where
  store := Remedy.Plan.run_keeps (fun _ hr _ => carryOut_store_of_aside hr) h d
  tree := Remedy.Plan.run_keeps (fun _ hr _ => carryOut_tree_of_aside hr) h d
  answers := Remedy.Plan.run_keeps (fun r _ => carryOut_answers r) h d
  unanswered := Remedy.Plan.run_keeps (fun r _ => carryOut_unanswered r) h d
  updates := Remedy.Plan.run_keeps (fun _ hr _ => carryOut_updates_of_aside hr) h d

/-- Resolving a ticket touches nothing. -/
theorem resolve_untouched (d : Desk) (ticket : Option Nat) (r : Resolution) :
    Untouched d (d.resolve ticket r) := by
  cases ticket <;> exact ⟨rfl, rfl, rfl, rfl, rfl⟩

theorem Untouched.trans {d d' d'' : Desk} (h : Untouched d d') (h' : Untouched d' d'') :
    Untouched d d'' :=
  ⟨h'.store.trans h.store, h'.tree.trans h.tree, h'.answers.trans h.answers,
    h'.unanswered.trans h.unanswered, h'.updates.trans h.updates⟩

/-- The check of a confirmation goes by the profile that the store holds. -/
theorem check_run (d : Desk) (messages : Messages) (id : NetworkId) (captured : Option String) :
    ∃ d', ((Remedy.check messages id captured).run carryOut).run d =
        (Remedy.validate id captured (d.store.find? id), d') ∧ Untouched d d' := by
  refine ⟨_, Prod.ext ?_ rfl, untouched_of_aside (Remedy.check_aside messages id captured) d⟩
  have hlook : ((carryOut (.look id)).run d).1 = d.store.find? id := rfl
  rw [Remedy.check, Remedy.Plan.bind_eq, Remedy.Plan.run_bind, Remedy.Plan.ask,
    Remedy.Plan.run_call, hlook]
  dsimp only [Remedy.Plan.run_done]
  cases Remedy.validate id captured (d.store.find? id) <;> rfl

/-- An offer looks the network up, and posts the notification of the profile that is found. -/
theorem offer_run (d : Desk) (messages : Messages) (id : NetworkId) :
    ((Remedy.offer messages id).run carryOut).run d =
      match d.store.find? id with
      | none => (none, (d.called (.get id none)).traced (.notSaved id))
      | some p =>
        let offer : Offer := ⟨id, p.identity⟩
        let notice := Remedy.notice messages p offer
        (some offer,
          ({ d.called (.get id (some p)) with
            board := d.board.post noticeNumber notice
            posts := d.posts + 1 }.called (.post noticeNumber notice)).traced (.offered offer)) := by
  have hlook : (carryOut (.look id)).run d =
      (d.store.find? id, d.called (.get id (d.store.find? id))) := rfl
  rw [Remedy.offer, Remedy.Plan.bind_eq, Remedy.Plan.run_bind, Remedy.Plan.ask,
    Remedy.Plan.run_call, hlook]
  dsimp only [Remedy.Plan.run_done]
  cases d.store.find? id <;> rfl

/-! ## confirmations that begin -/

/-- A desk at which the dialog of a confirmation waits for a choice: there is none to come, and
the store holds the profile that was checked. -/
structure Asking (d : Desk) (pending : Pending) : Prop where
  unanswered : d.unanswered = true
  answers : d.answers = []
  found : d.store.find? pending.asked.id = some pending.profile
  checked : pending.asked.identity = some pending.profile.identity

/-- A confirmation that waits has found the profile that it was asked for. -/
theorem start_asking {d d' : Desk} {asked : Asked} {pending : Pending}
    (h : d.start asked = (d', some pending)) : Asking d' pending := by
  obtain ⟨d₁, hrun, hsame⟩ := check_run d d.messages asked.id asked.identity
  rw [start, hrun] at h
  cases hvalid : Remedy.validate asked.id asked.identity (d.store.find? asked.id) with
  | error fault => rw [hvalid] at h; cases h
  | ok p =>
      obtain ⟨hfound, hchecked⟩ := Remedy.validate_eq_ok hvalid
      rw [hvalid] at h
      dsimp only at h
      split at h
      · cases h
      · next hanswers =>
          cases h
          refine ⟨rfl, hanswers, ?_, hchecked⟩
          rw [← hfound, ← hsame.store]
          rfl

/-- Without a choice to come, no confirmation that begins gets to change the store. -/
theorem start_of_no_answers {d : Desk} (h : d.answers = []) (asked : Asked) :
    (d.start asked).1.store = d.store ∧ (d.start asked).1.answers = [] := by
  obtain ⟨d₁, hrun, hsame⟩ := check_run d d.messages asked.id asked.identity
  have hnone : d₁.answers = [] := hsame.answers.trans h
  rw [start, hrun]
  cases Remedy.validate asked.id asked.identity (d.store.find? asked.id) with
  | error fault =>
      have hresolve := resolve_untouched d₁ asked.ticket (.outcome (.invalidated fault))
      exact ⟨hresolve.store.trans hsame.store, hresolve.answers.trans hnone⟩
  | ok p =>
      dsimp only
      split
      · next hsome => cases hsome.symm.trans hnone
      · exact ⟨hsame.store, hnone⟩

/-! ## the worker -/

/-- The worker is left waiting only at a dialog that waits for a choice. -/
theorem consume_asking {d d' : Desk} {items rest : List (Queue.Item Asked)} {pending : Pending}
    (h : Queue.Serial.consume work d items = (d', some pending, rest)) : Asking d' pending := by
  induction items generalizing d with
  | nil => cases h
  | cons item items ih =>
      cases item with
      | barrier ticket => exact ih h
      | job asked =>
          rw [Queue.Serial.consume] at h
          split at h
          · exact ih h
          · next hstart =>
              cases h
              exact start_asking hstart

/-- Without a choice to come, the worker does not get to change the store. -/
theorem consume_of_no_answers {d : Desk} (h : d.answers = []) (items : List (Queue.Item Asked)) :
    (Queue.Serial.consume work d items).1.store = d.store := by
  induction items generalizing d with
  | nil => rfl
  | cons item items ih =>
      cases item with
      | barrier ticket =>
          have hpass := resolve_untouched d (some ticket) (.flushed (.ok ()))
          exact (ih (hpass.answers.trans h)).trans hpass.store
      | job asked =>
          obtain ⟨hstore, hanswers⟩ := start_of_no_answers h asked
          rw [Queue.Serial.consume]
          split
          · next d₁ hstart =>
              have hd₁ : (d.start asked).1 = d₁ := congrArg Prod.fst hstart
              subst hd₁
              exact (ih hanswers).trans hstore
          · next d₁ pending hstart =>
              have hd₁ : (d.start asked).1 = d₁ := congrArg Prod.fst hstart
              subst hd₁
              exact hstore

end Desk

open Desk (Asked Pending)

/-! ## the part of the confirmations -/

/-- What belongs to the confirmations of a session, apart from the store. -/
structure Progress where
  current : Option Pending
  worker : Queue.Worker
  answers : List Dialog.Choice
  unanswered : Bool
  updates : List (Profile × Uid)

/-- How far the confirmations of a session have come. -/
def progress (s : Session) : Progress where
  current := s.queue.current
  worker := s.queue.worker
  answers := s.desk.answers
  unanswered := s.desk.unanswered
  updates := s.desk.updates

/-- An item that is only queued is no progress. -/
theorem progress_submit {s : Session} {item : Queue.Item Asked}
    {queue : Queue.Serial Asked Pending} (h : s.queue.submit? item = some queue) :
    progress { s with queue } = s.progress := by
  unfold Queue.Serial.submit? at h
  split at h
  · cases h; rfl
  · cases h

/-- Progress shows nothing of the log. -/
theorem progress_of_untouched {s : Session} {d : Desk} (h : s.desk.Untouched d) :
    progress { s with desk := d } = s.progress := by
  rw [progress, progress, ← h.answers, ← h.unanswered, ← h.updates]

/-- Asking for a confirmation touches nothing and only queues it. -/
theorem ask_frame (s : Session) (asked : Asked) :
    (s.ask asked).progress = s.progress ∧ s.desk.Untouched (s.ask asked).desk := by
  unfold ask
  split
  · next hsubmit => exact ⟨progress_submit hsubmit, .refl _⟩
  · have htold := s.desk.traced_untouched (.confirmationDropped asked.id .queueClosed)
    have hlost := htold.trans (Desk.resolve_untouched _ asked.ticket .dropped)
    exact ⟨progress_of_untouched hlost, hlost⟩

/-- Hearing a tap touches nothing. -/
theorem hear_frame (s : Session) (event : TapEvent) :
    (s.hear event).progress = s.progress ∧ s.desk.Untouched (s.hear event).desk := by
  rw [hear]
  obtain ⟨told, wanted⟩ := Router.hear event
  have htold := s.desk.traced_untouched told
  cases wanted with
  | none => exact ⟨progress_of_untouched htold, htold⟩
  | some target =>
      obtain ⟨hprogress, hsame⟩ :=
        ask_frame { s with desk := s.desk.traced told } ⟨target.1, target.2, none⟩
      exact ⟨hprogress.trans (progress_of_untouched htold), htold.trans hsame⟩

theorem hearAll_frame (s : Session) (events : List TapEvent) :
    (s.hearAll events).progress = s.progress ∧ s.desk.Untouched (s.hearAll events).desk := by
  induction events generalizing s with
  | nil => exact ⟨rfl, .refl _⟩
  | cons event events ih =>
      obtain ⟨hprogress, hsame⟩ := ih (s.hear event)
      obtain ⟨hprogress', hsame'⟩ := hear_frame s event
      exact ⟨hprogress.trans hprogress', hsame'.trans hsame⟩

/-- A flush touches nothing and only queues a barrier. -/
theorem flush_frame (s : Session) :
    s.flush.2.progress = s.progress ∧ s.desk.Untouched s.flush.2.desk := by
  rw [flush, newTicket]
  dsimp only
  split
  · next hsubmit =>
      exact ⟨progress_submit (s := { s with tickets := s.tickets + 1 }) hsubmit, .refl _⟩
  · exact ⟨rfl, s.desk.resolve_untouched (some s.tickets) _⟩

/-- Items that are lost take nothing with them. -/
theorem foldl_lose_untouched (items : List (Queue.Item Asked)) (d : Desk) :
    d.Untouched (items.foldl lose d) := by
  induction items generalizing d with
  | nil => exact .refl d
  | cons item items ih =>
      have hlost : d.Untouched (lose d item) := by
        cases item with
        | job asked => exact d.resolve_untouched asked.ticket _
        | barrier ticket => exact d.resolve_untouched (some ticket) _
      exact hlost.trans (ih (lose d item))

/-- A change of the store in memory is no progress of the worker. -/
theorem onMemory_progress (s : Session) (f : Store.Memory → Store.Memory) :
    (s.onMemory f).2.progress = s.progress := by
  unfold onMemory
  split <;> rfl

/-- A change of the files leaves the store that has been opened. -/
theorem onFiles_frame (s : Session) (f : Files.Tree → Except Files.Fault Files.Tree) :
    (s.onFiles f).2.progress = s.progress ∧ (s.onFiles f).2.desk.store = s.desk.store := by
  unfold onFiles
  split <;> exact ⟨rfl, rfl⟩

/-- A change of the document is no progress of the worker. -/
theorem onDurable_progress {α : Type} (s : Session)
    (op : Store.Durable → StateM Store.Bench (Except Store.Fault (α × Store.Durable)))
    (result : α → Result) : (s.onDurable op result).2.progress = s.progress := by
  unfold onDurable
  split
  · rfl
  · next store _ =>
      have hfiles : progress { s with desk := (s.desk.withFiles (op store)).2 } = s.progress := by
        rw [progress, progress, ← s.desk.withFiles_updates (op store)]
        rfl
      split
      · next hrun => rw [hrun] at hfiles; exact hfiles
      · next hrun => rw [hrun] at hfiles; exact hfiles

/-! ## steps -/

/-- A worker that is running and does not wait goes through its queue. -/
theorem settle_of_ready {s : Session} (hworker : s.queue.worker = .running)
    (hcurrent : s.queue.current = none) :
    s.settle =
      match Queue.Serial.consume Desk.work s.desk s.queue.waiting with
      | (desk, some pending, waiting) =>
        { s with desk, queue := { s.queue with waiting, current := some pending } }
      | (desk, none, waiting) =>
        if s.queue.held then { s with desk, queue := { s.queue with waiting } }
        else
          { s with
            desk := desk.traced (.queueDrained "confirmation")
            queue := { s.queue with waiting, worker := .drained } } := by
  obtain ⟨desk, ⟨waiting, current, worker, held⟩, router, tickets⟩ := s
  cases hworker
  cases hcurrent
  rw [settle, Queue.Serial.settle]
  dsimp only
  obtain ⟨desk', _ | pending, waiting'⟩ := Queue.Serial.consume Desk.work desk waiting
  · cases held <;> rfl
  · rfl

/-- A worker that waits, or that has ended, does nothing. -/
theorem settle_of_not_ready {s : Session}
    (h : ¬ (s.queue.worker = .running ∧ s.queue.current = none)) : s.settle = s := by
  rw [settle, Queue.Serial.settle]
  obtain ⟨desk, ⟨waiting, current, worker, held⟩, router, tickets⟩ := s
  cases worker with
  | running =>
      cases current with
      | none => exact absurd ⟨rfl, rfl⟩ h
      | some pending => rfl
  | drained => rfl
  | stopped => rfl

/-- Whether a step may end the wait for a choice. -/
def Step.endsWait : Step → Bool
  | .reply _ => true
  | .stop => true
  | _ => false

/-- **Only replies and stops act on a confirmation that waits.** -/
theorem act_progress (s : Session) {e : Step} (h : e.endsWait = false) :
    (s.act e).2.progress = s.progress := by
  cases e with
  | write path content => exact (onFiles_frame s _).1
  | makeDirectory path => exact (onFiles_frame s _).1
  | clear path => exact (onFiles_frame s _).1
  | insert p => exact onMemory_progress s _
  | mode mode => exact onMemory_progress s _
  | failEnable => exact onMemory_progress s _
  | add p => exact onDurable_progress s _ _
  | update p => exact onDurable_progress s _ _
  | notify id =>
      exact progress_of_untouched (Desk.untouched_of_aside (Remedy.offer_aside _ id) s.desk)
  | confirm id identity => exact (ask_frame { s with tickets := s.tickets + 1 } _).1
  | flush => exact (flush_frame s).1
  | reply choice => cases h
  | route e => exact (hearAll_frame { s with router := _ } _).1
  | tap =>
      rw [act]
      split
      · rfl
      · exact (hearAll_frame s _).1
  | stop => cases h

end MacConsent.Session
