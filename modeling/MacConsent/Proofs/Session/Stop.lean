import MacConsent.Proofs.Session.Line
import MacConsent.Proofs.Session.Taps

/-!
# MacConsent.Proofs.Session.Stop

A stop is final and leaves nothing open (`Shift.stop_final`).  Without a worker
there is no line, so no confirmation gets any further, whatever happens later:
what is still called for are offers.  The tickets that were in the line are lost
with it, and one that is given out later is lost at once.
-/

namespace MacConsent.Session

open Desk (Asked)
open Remedy (Plan Request)
open Store (Mishap)

/-- Whether a call can be one of an offer. -/
def Call.isOffer : Call → Bool
  | .get .. => true
  | .post .. => true
  | _ => false

/-- What holds of every call that a plan can make holds of those that it makes. -/
theorem Records.run_all {σ α : Type} {carryOut : (r : Request) → StateM σ r.Answer}
    {calls : σ → List Call} (h : Records carryOut calls) {P : Call → Prop} {plan : Plan α}
    (hplan : plan.All fun r => ∀ answer, ∀ c ∈ Call.of? r answer, P c) (s : σ) :
    ∃ more, calls ((plan.run carryOut).run s).2 = calls s ++ more ∧ ∀ c ∈ more, P c := by
  induction plan generalizing s with
  | done a => exact ⟨[], (List.append_nil _).symm, fun _ hc => (nomatch hc)⟩
  | call r next ih =>
      obtain ⟨more, hmore, hall⟩ := ih _ (hplan.2 _) ((carryOut r).run s).2
      refine ⟨(Call.of? r ((carryOut r).run s).1).toList ++ more, ?_, fun c hc => ?_⟩
      · rw [Plan.run_call, hmore, h r s, List.append_assoc]
      · rcases List.mem_append.1 hc with hc | hc
        · exact hplan.1 _ c (Option.mem_toList.1 hc)
        · exact hall c hc

/-- An offer looks up its network and posts a notification. -/
theorem offer_calls (messages : Messages) (id : NetworkId) :
    (Remedy.offer messages id).All fun r =>
      ∀ answer, ∀ c ∈ Call.of? r answer, c.isOffer = true := by
  have hlook : ∀ found, ∀ c ∈ Call.of? (.look id) found, c.isOffer = true := by
    intro found c hc
    cases hc
    rfl
  have htrace (e : Diagnostic) : ∀ answer, ∀ c ∈ Call.of? (.trace e) answer, c.isOffer = true :=
    fun _ _ hc => nomatch hc
  have hpost (number : UInt32) (n : Notification) :
      ∀ answer, ∀ c ∈ Call.of? (.post number n) answer, c.isOffer = true := by
    intro answer c hc
    cases hc
    rfl
  refine .bind (.ask hlook) fun found => ?_
  cases found with
  | none => exact .bind (.ask (htrace _)) fun _ => .done _
  | some p => exact .bind (.ask (hpost _ _)) fun _ => .bind (.ask (htrace _)) fun _ => .done _

/-- Without a worker, a ticket that is given out is lost at once. -/
theorem Ledger.Change.resolved_eq {l l' : Ledger} {b : Beat} (h : l.Change b l')
    (hended : l.worker ≠ .running) {r : Resolution} (hgives : b.gives? = some r) :
    l'.resolved = l.resolved ++ [(l.tickets, r)] := by
  cases h with
  | none hnone => cases hnone.symm.trans hgives
  | refused item hothers hended hitem =>
      rw [hgives] at hitem
      rw [hitem]
      rfl
  | joined item hothers hrunning => exact absurd hrunning hended
  | passed mishaps hrunning => exact absurd hrunning hended
  | finished number outcome mishaps hrunning => exact absurd hrunning hended
  | stopped mishaps hrunning => exact absurd hrunning hended
  | drained mishaps hrunning => exact absurd hrunning hended

namespace Shift

variable {s s' : Shift} {b : Beat} {given : List Resolution}

/-- What a shift without a worker leaves alone: only tickets are resolved, and offers made. -/
structure Stays (s s' : Shift) : Prop where
  taken : s'.taken = s.taken
  ended : s'.ended = s.ended
  calls : ∀ n, s'.callsOf n = s.callsOf n
  offers : ∃ more, s'.session.desk.calls = s.session.desk.calls ++ more ∧
    ∀ c ∈ more, c.isOffer = true
  resolved : s.session.desk.resolved <+: s'.session.desk.resolved

theorem Stays.refl (s : Shift) : s.Stays s :=
  ⟨rfl, rfl, fun _ => rfl, ⟨[], (List.append_nil _).symm, fun _ hc => (nomatch hc)⟩,
    List.prefix_refl _⟩

/-- One part of a run after the other. -/
theorem Stays.trans {s'' : Shift} (h : s.Stays s') (h' : s'.Stays s'') : s.Stays s'' where
  taken := h'.taken.trans h.taken
  ended := h'.ended.trans h.ended
  calls n := (h'.calls n).trans (h.calls n)
  offers := by
    obtain ⟨more, hmore, hall⟩ := h.offers
    obtain ⟨more', hmore', hall'⟩ := h'.offers
    refine ⟨more ++ more', ?_, fun c hc => (List.mem_append.1 hc).elim (hall c) (hall' c)⟩
    rw [hmore', hmore, List.append_assoc]
  resolved := h.resolved.trans h'.resolved

/-- A second stop leaves everything where it is. -/
theorem stays_stop (hturn : s.InTurn) (mishaps : List (Option Mishap)) : s.Stays s.stop where
  taken := by rw [stop]; split <;> rfl
  ended := by rw [stop]; split <;> rfl
  calls := s.callsOf_stop
  offers := by
    refine ⟨[], ?_, fun _ hc => absurd hc List.not_mem_nil⟩
    rw [stop, List.append_nil]
    split
    · exact foldl_lose_calls _ _
    · rfl
  resolved := (change hturn (.outside .stop mishaps)).resolved_grows

/-- A direct change is no call of a confirmation. -/
theorem edit_calls (s : Shift) (c : Store.Change) (mishaps : List (Option Mishap)) :
    (s.edit c mishaps).session.desk.calls = s.session.desk.calls := by
  rw [edit]
  split
  · rfl
  · exact Desk.changed_calls ..

/-! ## without a worker -/

/-- A shift whose worker does not run any more, with the tickets that were given out. -/
structure Over (s : Shift) (given : List Resolution) : Prop where
  turn : s.InTurn
  accounted : s.ledger.Accounted given
  worker : s.session.queue.worker ≠ .running

/-- The tickets that were not resolved before are lost: each as what it was given out for. -/
def Lost (s : Shift) (given : List Resolution) (resolved : List (Nat × Resolution)) : Prop :=
  ∀ n r, given[n]? = some r → n ∉ resolved.map Prod.fst → (n, r) ∈ s.session.desk.resolved

namespace Over

/-- When all is over the line is empty. -/
theorem line (h : s.Over given) : s.line = [] := h.accounted.empty h.worker

/-- When all is over no confirmation is in hand. -/
theorem hand (h : s.Over given) : s.hand = none := by
  have hline := (List.append_eq_nil_iff.1 h.line).1
  exact Option.toList_eq_nil_iff.1 (List.map_eq_nil_iff.1 hline)

/-- When all is over nothing waits in the queue. -/
theorem waiting (h : s.Over given) : s.session.queue.waiting = [] :=
  (List.append_eq_nil_iff.1 h.line).2

/-- **What is over remains so**, whatever happens. -/
theorem beat (h : s.Over given) (b : Beat) : (s.beat b).Over (given ++ b.gives?.toList) where
  turn := h.turn.beat b
  accounted := h.accounted.change (change h.turn b)
  worker hrunning := h.worker ((change h.turn b).running hrunning)

/-- Every ticket is resolved, and only once. -/
theorem resolved (h : s.Over given) :
    (s.session.desk.resolved.map Prod.fst).Perm (List.range given.length) := by
  have haccount := h.accounted.account
  have hline : s.ledger.line = [] := h.line
  rwa [hline, List.filterMap_nil, List.map_nil, List.append_nil] at haccount

/-- When all is over the queue takes nothing on. -/
theorem submit?_eq_none (h : s.Over given) {session : Session}
    (hqueue : session.queue = s.session.queue) (item : Queue.Item Asked) :
    session.queue.submit? item = none := by
  rw [hqueue, Queue.Serial.submit?, if_neg h.worker]

theorem submittedWith (h : s.Over given) (asked : List Asked) :
    s.submittedWith asked = s.submitted :=
  if_neg h.worker

/-- Without a line, no confirmation gets any further. -/
theorem move (h : s.Over given) (hmove : s.Move b s') :
    s'.taken = s.taken ∧ s'.ended = s.ended ∧ ∀ n, s'.callsOf n = s.callsOf n := by
  have hnone {hd : Hand} (hhand : s.hand = some hd) : False := by
    cases hhand.symm.trans h.hand
  cases hmove with
  | aside hothers calm => exact ⟨calm.taken, calm.ended, calm.calls⟩
  | idle mishaps calm => exact ⟨calm.taken, calm.ended, calm.calls⟩
  | @edited _ c mishaps =>
      have calm := s.edit_calm c mishaps
      exact ⟨calm.taken, calm.ended, calm.calls⟩
  | stopped mishaps hsuspended =>
      have hstays := stays_stop h.turn mishaps
      exact ⟨hstays.taken, hstays.ended, hstays.calls⟩
  | took mishaps hhand hwaiting => cases hwaiting.symm.trans h.waiting
  | replied choice mishaps hhand => exact (hnone hhand).elim
  | checked mishaps hhand => exact (hnone hhand).elim
  | opened mishaps hhand => exact (hnone hhand).elim
  | concluded mishaps hhand => exact (hnone hhand).elim
  | finished mishaps hhand => exact (hnone hhand).elim

/-- The worker has nothing to do. -/
theorem work (h : s.Over given) (mishaps : List (Option Mishap)) : s.beat (.work mishaps) = s := by
  rw [Shift.beat, work?, h.hand, take?_of_not_running h.worker]
  rfl

/-- A choice has no effect, but that no dialog is open any more. -/
theorem reply (h : s.Over given) (choice : Dialog.Choice) :
    s.reply choice = { s with
      session := { s.session with desk := { s.session.desk with unanswered := false } } } := by
  rw [Shift.reply]
  split
  · rw [h.hand]
  · next hanswered =>
      have hclosed : s.session.desk.unanswered = false := Bool.eq_false_iff.2 hanswered
      rw [← hclosed]

/-- A confirmation that is asked for is lost, and the observer is told. -/
theorem ask (h : s.Over given) (session : Session) (hqueue : session.queue = s.session.queue)
    (asked : Asked) :
    session.ask asked = { session with
      desk := (session.desk.traced (.confirmationDropped asked.id .queueClosed)).resolve
        asked.ticket .dropped } := by
  rw [Session.ask, h.submit?_eq_none hqueue]

/-- A confirmation that comes too late only gets its ticket, and loses it. -/
theorem confirm (h : s.Over given) (id : NetworkId) (identity : Option String) :
    s.outside (.confirm id identity) [] = { s with
      session := { s.session with
        tickets := s.session.tickets + 1
        desk := (s.session.desk.traced (.confirmationDropped id .queueClosed)).resolve
          (some s.session.tickets) .dropped } } := by
  have hask := h.ask { s.session with tickets := s.session.tickets + 1 } rfl
    ⟨id, identity, some s.session.tickets⟩
  rw [outside, h.submittedWith, act, newTicket]
  dsimp only
  rw [hask]

/-- A listener that takes an event has its confirmation lost. -/
theorem listen (h : s.Over given) {channel : Nat} {event : TapEvent} {rest : List TapEvent}
    {id : NetworkId} {identity : Option String} (hfirst : s.sentTo channel = event :: rest)
    (htarget : event.target? = some (id, identity)) :
    s.listen channel = { s with
      session := { s.session with
        desk := (s.session.desk.traced (.detailsRequested id)).traced
          (.confirmationDropped id .queueClosed) }
      sent := s.sent.eraseP (·.1 == channel) } := by
  have hhear : Router.hear event = (.detailsRequested id, some (id, identity)) := by
    rw [Router.hear, htarget]
  have hask := h.ask { s.session with
    desk := s.session.desk.traced (.detailsRequested id) } rfl ⟨id, identity, none⟩
  rw [listen_eq hfirst, h.submittedWith, hear, hhear]
  dsimp only
  rw [hask]
  rfl

/-- What is called for are offers. -/
theorem offers (h : s.Over given) (b : Beat) :
    ∃ more, (s.beat b).session.desk.calls = s.session.desk.calls ++ more ∧
      ∀ c ∈ more, c.isOffer = true := by
  have hsame {s' : Shift} (hcalls : s'.session.desk.calls = s.session.desk.calls) :
      ∃ more, s'.session.desk.calls = s.session.desk.calls ++ more ∧ ∀ c ∈ more, c.isOffer = true :=
    ⟨[], hcalls.trans (List.append_nil _).symm, fun _ hc => (nomatch hc)⟩
  cases b with
  | work mishaps => exact hsame (congrArg (·.session.desk.calls) (h.work mishaps))
  | listen channel =>
      rw [Shift.beat, Shift.listen]
      split
      · exact hsame rfl
      · exact hsame (hear_asks ..).calls
  | outside e mishaps =>
      cases e with
      | write place content => exact hsame (onFiles_asks ..).calls
      | makeDirectory place => exact hsame (onFiles_asks ..).calls
      | clear place => exact hsame (onFiles_asks ..).calls
      | insert p => exact hsame (onMemory_asks ..).calls
      | mode mode => exact hsame (onMemory_asks ..).calls
      | failEnable => exact hsame (onMemory_asks ..).calls
      | add p => exact hsame (s.edit_calls ..)
      | update p => exact hsame (s.edit_calls ..)
      | notify id =>
          exact Desk.carryOut_records.run_all
            (offer_calls s.session.desk.messages id) s.session.desk
      | confirm id identity =>
          exact hsame (ask_asks { s.session with tickets := s.session.tickets + 1 } _).calls
      | flush => exact hsame (flush_asks s.session).calls
      | reply choice =>
          refine hsame ?_
          rw [Shift.beat, outside, h.reply]
          rfl
      | route e =>
          have hquiet (e : Router.Step) (he : ∀ events, e ≠ .send events) :
              (s.session.act (.route e)).2.desk.calls = s.session.desk.calls :=
            (route_asks s.session he).calls
          cases e with
          | send events => exact hsame rfl
          | register => exact hsame (hquiet .register fun _ h => by cases h)
          | takeSender => exact hsame (hquiet .takeSender fun _ h => by cases h)
          | dropSender => exact hsame (hquiet .dropSender fun _ h => by cases h)
          | close => exact hsame (hquiet .close fun _ h => by cases h)
      | tap =>
          rw [Shift.beat, outside]
          split <;> exact hsame rfl
      | stop => exact (stays_stop h.turn mishaps).offers

/-- Whatever happens, nothing starts and nothing ends. -/
theorem stays (h : s.Over given) (b : Beat) : s.Stays (s.beat b) := by
  obtain ⟨htaken, hended, hcalls⟩ := h.move (s.move b)
  exact ⟨htaken, hended, hcalls, h.offers b, (change h.turn b).resolved_grows⟩

/-- A ticket that is given out without a worker is lost at once. -/
theorem lost_beat (h : s.Over given) {resolved : List (Nat × Resolution)}
    (hlost : s.Lost given resolved) (b : Beat) :
    (s.beat b).Lost (given ++ b.gives?.toList) resolved := by
  have hchange := change h.turn b
  intro n r hn hopen
  by_cases hold : n < given.length
  · rw [List.getElem?_append_left hold] at hn
    exact hchange.resolved_grows.subset (hlost n r hn hopen)
  · rw [List.getElem?_append_right (Nat.le_of_not_lt hold)] at hn
    cases hgives : b.gives? with
    | none => simp [hgives] at hn
    | some loss =>
        rw [hgives, Option.toList_some, List.getElem?_singleton] at hn
        obtain ⟨hlast, rfl⟩ : n - given.length = 0 ∧ loss = r := by
          split at hn
          · next hlast => exact ⟨hlast, Option.some.inj hn⟩
          · cases hn
        have hnumber : n = s.session.tickets := by
          have htickets : s.session.tickets = given.length := h.accounted.tickets
          omega
        have hresolved : (s.beat b).session.desk.resolved =
            s.session.desk.resolved ++ [(s.session.tickets, loss)] :=
          hchange.resolved_eq h.worker hgives
        rw [hresolved, hnumber]
        exact List.mem_append_right _ (List.mem_singleton_self _)

theorem run (h : s.Over given) (beats : List Beat) :
    (s.run beats).Over (given ++ beats.filterMap Beat.gives?) ∧ s.Stays (s.run beats) ∧
      ∀ resolved, s.Lost given resolved →
        (s.run beats).Lost (given ++ beats.filterMap Beat.gives?) resolved := by
  induction beats generalizing s given with
  | nil =>
      rw [List.filterMap_nil, List.append_nil]
      exact ⟨h, .refl s, fun _ hlost => hlost⟩
  | cons b beats ih =>
      have hgiven : given ++ (b :: beats).filterMap Beat.gives? =
          given ++ b.gives?.toList ++ beats.filterMap Beat.gives? := by
        cases hb : b.gives? <;> simp [hb]
      obtain ⟨hover, hstays, hlost⟩ := ih (h.beat b)
      rw [hgiven]
      exact ⟨hover, (h.stays b).trans hstays, fun _ hbefore => hlost _ (h.lost_beat hbefore b)⟩

end Over

/-- A worker that is stopped does not run any more, and what was in the line is lost. -/
theorem over_stop (hturn : s.InTurn) (haccounted : s.ledger.Accounted given)
    (hsuspended : s.isSuspended = true) :
    s.stop.Over given ∧ s.stop.Lost given s.session.desk.resolved := by
  have hafter : s.stop.ledger.Accounted (given ++ []) :=
    haccounted.change (change hturn (.outside .stop []))
  rw [List.append_nil] at hafter
  refine ⟨⟨hturn.stop, hafter, ?_⟩, fun n r hn hopen => ?_⟩
  · rw [stop, if_pos hsuspended]
    exact stop_worker s.session
  · have hgiven : n ∈ List.range given.length :=
      List.mem_range.2 (List.getElem?_eq_some_iff.1 hn).1
    have hline : n ∈ (s.line.filterMap loss?).map Prod.fst :=
      (List.mem_append.1 (haccounted.account.mem_iff.2 hgiven)).resolve_left hopen
    obtain ⟨d, hd, rfl⟩ := List.mem_map.1 hline
    have hworker : s.session.queue.worker = .running := by
      by_contra hended
      have hnone : s.line = [] := haccounted.empty hended
      rw [hnone] at hd
      cases hd
    have hloss : r = d.2 := Option.some.inj (hn.symm.trans (haccounted.losses d hd))
    have hresolved : s.stop.session.desk.resolved =
        s.session.desk.resolved ++ s.line.filterMap loss? :=
      congrArg Ledger.resolved (ledger_stop hturn hsuspended hworker)
    rw [hresolved, hloss]
    exact List.mem_append_right _ hd

/-! ## what a stop comes to -/

/-- **A stop is final and leaves nothing open.**  Whatever the worker was about, no confirmation
gets any further, every ticket is resolved once, and what is asked for later is lost at once. -/
theorem stop_final (store : Store.Backend) (messages : Messages) (tree : Files.Tree)
    (answers : List Dialog.Choice) (before : List Beat) (mishaps : List (Option Mishap)) :
    let s₀ := (begin { store, messages, tree, answers } {} 0).run before
    -- the worker is idle or a dialog waits, and any number of items may stand in the queue
    s₀.isSuspended = true →
    ∀ after : List Beat,
      let s := (s₀.beat (.outside .stop mishaps)).run after
      let given := (before ++ .outside .stop mishaps :: after).filterMap Beat.gives?
      let resolved := s.session.desk.resolved
      -- no confirmation makes a call after the stop, is begun or comes to an outcome
      ((∀ n, s.callsOf n = s₀.callsOf n) ∧ s.taken = s₀.taken ∧ s.ended = s₀.ended ∧
        s.hand = none ∧ s.dialogs = []) ∧
      -- all that is called for is what offers look up and post
      (∃ more, s.session.desk.calls = s₀.session.desk.calls ++ more ∧
        ∀ c ∈ more, c.isOffer = true) ∧
      -- every ticket of the run is resolved once, and those that were not are lost
      (s₀.session.desk.resolved <+: resolved ∧
        (resolved.map Prod.fst).Perm (List.range given.length) ∧
        ∀ n r, given[n]? = some r → n ∉ s₀.session.desk.resolved.map Prod.fst →
          (n, r) ∈ resolved) ∧
      -- a choice for a dialog that was open has no effect
      (∀ choice amid, s.beat (.outside (.reply choice) amid) = { s with
        session := { s.session with desk := { s.session.desk with unanswered := false } } }) ∧
      -- a confirmation that is asked for is not taken on, and the observer is told
      (∀ id identity amid, s.beat (.outside (.confirm id identity) amid) = { s with
        session := { s.session with
          tickets := s.session.tickets + 1
          desk := (s.session.desk.traced (.confirmationDropped id .queueClosed)).resolve
            (some s.session.tickets) .dropped } }) ∧
      -- nor is that of a tap that a listener takes
      (∀ channel event rest id identity, s.sentTo channel = event :: rest →
        event.target? = some (id, identity) →
        s.beat (.listen channel) = { s with
          session := { s.session with
            desk := (s.session.desk.traced (.detailsRequested id)).traced
              (.confirmationDropped id .queueClosed) }
          sent := s.sent.eraseP (·.1 == channel) }) := by
  intro s₀ hsuspended after s given resolved
  have hturn₀ : s₀.InTurn := (begin_inTurn { store, messages, tree, answers } {} 0).run before
  have haccounted₀ : s₀.ledger.Accounted ([] ++ before.filterMap Beat.gives?) :=
    accounted_run (begin_inTurn _ _ _) (begin_accounted rfl {}) before
  obtain ⟨hover₁, hlost₁⟩ := over_stop hturn₀ haccounted₀ hsuspended
  have hgiven : [] ++ before.filterMap Beat.gives? ++ after.filterMap Beat.gives? = given := by
    have happend : given = before.filterMap Beat.gives? ++
        (Beat.outside .stop mishaps :: after).filterMap Beat.gives? := List.filterMap_append
    rw [List.nil_append, happend]
    rfl
  obtain ⟨hover, hrest, hlost⟩ :
      s.Over given ∧ s₀.stop.Stays s ∧ ∀ resolved, _ → s.Lost given resolved :=
    hgiven ▸ hover₁.run after
  have hstays : s₀.Stays s := (stays_stop hturn₀ mishaps).trans hrest
  have hdialogs : s.dialogs = [] := by
    rw [hover.turn.dialogs, hover.hand]
    rfl
  exact ⟨⟨hstays.calls, hstays.taken, hstays.ended, hover.hand, hdialogs⟩, hstays.offers,
    ⟨hstays.resolved, hover.resolved, hlost _ hlost₁⟩, fun choice _ => hover.reply choice,
    fun id identity _ => hover.confirm id identity,
    fun _ _ _ _ _ hfirst htarget => hover.listen hfirst htarget⟩

namespace Interrupted

/-- A network that is saved. -/
def home : Profile := { id := .first, ssid := "Home", security := .wpa2 }

/-- The dialog of a confirmation waits; another one, a flush and an event on its way come later. -/
def before : List Beat :=
  [.outside (.insert home), .outside (.route .register), .outside (.route .takeSender),
    .outside (.confirm home.id (some "Home/WPA2")), .outside (.confirm home.id none),
    .outside .flush, .outside (.route (.send [Offer.tapEvent ⟨home.id, "Home/WPA2"⟩])),
    .work, .work, .work]

/-- The dialog is accepted too late, the event is taken, and all is to be waited for once more. -/
def after : List Beat := [.outside (.reply .accepted), .listen 0, .outside .flush, .work]

/-- The shift when the worker is stopped. -/
def stopped : Shift :=
  ((begin { store := .memory {} } {} 0).run before).beat (.outside .stop)

end Interrupted

/-- A confirmation that is stopped at its dialog has looked up its network and asked, no more; and
what waited behind it is lost. -/
theorem stop_final_interrupted :
    let s := Interrupted.stopped.run Interrupted.after
    (s.callsOf 0).length = 2 ∧ s.ended = [] ∧
    (s.session.desk.resolved.map Prod.fst).Perm (List.range 4) ∧
    (0, .dropped) ∈ s.session.desk.resolved ∧ (1, .dropped) ∈ s.session.desk.resolved ∧
    (2, .flushed (.error .queueClosed)) ∈ s.session.desk.resolved ∧
    (3, .flushed (.error .queueClosed)) ∈ s.session.desk.resolved ∧
    ∃ rest, Interrupted.stopped.sentTo 0 = Offer.tapEvent ⟨.first, "Home/WPA2"⟩ :: rest ∧
      (Interrupted.stopped.listen 0).submitted = Interrupted.stopped.submitted := by
  intro s
  have hstop := stop_final (.memory {}) {} {} [] Interrupted.before [] rfl
  obtain ⟨⟨hcalls, -, hended, -⟩, -, ⟨-, honce, hlost⟩, -⟩ := hstop Interrupted.after
  have hopen (n : Nat) : n ∉ (((begin { store := .memory {} } {} 0).run
      Interrupted.before).session.desk.resolved).map Prod.fst := fun hn => nomatch hn
  obtain ⟨-, -, -, -, -, hlisten⟩ := hstop []
  refine ⟨(congrArg List.length (hcalls 0)).trans rfl, hended, honce, hlost 0 _ rfl (hopen 0),
    hlost 1 _ rfl (hopen 1), hlost 2 _ rfl (hopen 2), hlost 3 _ rfl (hopen 3), [], rfl, ?_⟩
  have htaken : Interrupted.stopped.listen 0 = _ :=
    hlisten 0 (Offer.tapEvent ⟨.first, "Home/WPA2"⟩) [] .first (some "Home/WPA2") rfl
      (target?_tapEvent _)
  rw [htaken]
  rfl

end Shift

end MacConsent.Session
