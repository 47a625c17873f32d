import MacConsent.Proofs.Session.Moves

/-!
# MacConsent.Proofs.Session.Line

The line of a shift: the confirmation in hand, and what stands in the queue
behind it.  What one beat can do to the line is said once (`Ledger.Change`): an
item joins it at the end or is refused, the first one is done, or all of it is
lost.  Tickets are resolved in no other way, and so each of them is in the line
or resolved, and never both (`Ledger.Accounted`).  As long as the worker runs,
what has ended is the first part of what was submitted (`Shift.Served`).
-/

namespace MacConsent.Session

open Desk (Asked)
open Remedy (Outcome Request)
open Store (Mishap)

/-- The ticket of an item, and what becomes of it if the item is lost. -/
def loss? : Queue.Item Asked → Option (Nat × Resolution)
  | .job asked => asked.ticket.map (·, .dropped)
  | .barrier ticket => some (ticket, .flushed (.error .queueClosed))

/-- What becomes of the ticket that a beat gives out if what it is for is lost. -/
def Beat.gives? : Beat → Option Resolution
  | .outside (.confirm _ _) _ => some .dropped
  | .outside .flush _ => some (.flushed (.error .queueClosed))
  | _ => none

/-! ## what a beat does to the line -/

/-- The line of a shift, and what has come of what stood there. -/
structure Ledger where
  /-- What is not done: the confirmation in hand and the items behind it. -/
  line : List (Queue.Item Asked)
  worker : Queue.Worker
  /-- How many tickets were given out. -/
  tickets : Nat
  resolved : List (Nat × Resolution)
  submitted : List Asked
  ended : List Ended

/-- What a beat can do to a ledger. -/
inductive Ledger.Change (l : Ledger) : Beat → Ledger → Prop
  | none {b : Beat} (hgives : b.gives? = .none) : Change l b l
  /-- An item comes last in the line. -/
  | joined {b : Beat} (item : Queue.Item Asked) (hothers : b.isWork = false)
      (hrunning : l.worker = .running)
      (hgives : loss? item = b.gives?.map (l.tickets, ·)) :
      Change l b { l with
        line := l.line ++ [item]
        tickets := l.tickets + b.gives?.toList.length
        submitted := l.submitted ++ jobs [item] }
  /-- An item is lost at once, as there is no worker. -/
  | refused {b : Beat} (item : Queue.Item Asked) (hothers : b.isWork = false)
      (hended : l.worker ≠ .running)
      (hgives : loss? item = b.gives?.map (l.tickets, ·)) :
      Change l b { l with
        tickets := l.tickets + b.gives?.toList.length
        resolved := l.resolved ++ (loss? item).toList }
  | passed {ticket : Nat} {rest : List (Queue.Item Asked)} (mishaps : List (Option Mishap))
      (hrunning : l.worker = .running) (hline : l.line = .barrier ticket :: rest) :
      Change l (.work mishaps) { l with
        line := rest
        resolved := l.resolved ++ [(ticket, .flushed (.ok ()))] }
  | finished {asked : Asked} {rest : List (Queue.Item Asked)} (number : Nat) (outcome : Outcome)
      (mishaps : List (Option Mishap)) (hrunning : l.worker = .running)
      (hline : l.line = .job asked :: rest) :
      Change l (.work mishaps) { l with
        line := rest
        resolved := l.resolved ++ (asked.ticket.map (·, .outcome outcome)).toList
        ended := l.ended ++ [⟨number, asked, outcome⟩] }
  | stopped (mishaps : List (Option Mishap)) (hrunning : l.worker = .running) :
      Change l (.outside .stop mishaps) { l with
        line := []
        worker := .stopped
        resolved := l.resolved ++ l.line.filterMap loss? }
  | drained (mishaps : List (Option Mishap)) (hrunning : l.worker = .running)
      (hline : l.line = []) :
      Change l (.work mishaps) { l with worker := .drained }

/-! ## tickets -/

/-- Each ticket that was given out is in the line or resolved, and never both. -/
structure Ledger.Accounted (l : Ledger) (given : List Resolution) : Prop where
  tickets : l.tickets = given.length
  account : (l.resolved.map Prod.fst ++ (l.line.filterMap loss?).map Prod.fst).Perm
    (List.range given.length)
  /-- What stands in the line is lost as what it was given out for. -/
  losses : ∀ d ∈ l.line.filterMap loss?, given[d.1]? = some d.2
  /-- Without a worker there is no line. -/
  empty : l.worker ≠ .running → l.line = []

namespace Ledger

variable {l l' : Ledger} {b : Beat} {given : List Resolution}

/-- The worker is not replaced. -/
theorem Change.running (h : l.Change b l') (hrunning : l'.worker = .running) :
    l.worker = .running := by
  cases h with
  | stopped => cases hrunning
  | drained => cases hrunning
  | _ => exact hrunning

/-- The worker submits nothing. -/
theorem Change.submitted {mishaps : List (Option Mishap)} (h : l.Change (.work mishaps) l') :
    l'.submitted = l.submitted := by
  cases h with
  | joined item hothers => cases hothers
  | _ => rfl

/-- What is resolved stays resolved. -/
theorem Change.resolved_grows (h : l.Change b l') : l.resolved <+: l'.resolved := by
  cases h with
  | none => exact List.prefix_refl _
  | joined => exact List.prefix_refl _
  | drained => exact List.prefix_refl _
  | _ => exact List.prefix_append _ _

/-- The ticket of an item that is submitted is the next one, if it has one. -/
theorem Accounted.next (h : l.Accounted given) {item : Queue.Item Asked} {r : Option Resolution}
    (hgives : loss? item = r.map (l.tickets, ·)) :
    (l.resolved.map Prod.fst ++ (l.line.filterMap loss?).map Prod.fst ++
      (loss? item).toList.map Prod.fst).Perm (List.range (given ++ r.toList).length) := by
  cases r with
  | none => simpa [hgives] using h.account
  | some r =>
      simp only [hgives, Option.map_some, Option.toList_some, List.map_singleton,
        List.length_append, List.length_singleton, List.range_succ, h.tickets]
      exact h.account.append_right _

/-- The first item of the line is done. -/
theorem Accounted.done (h : l.Accounted given) (hrunning : l.worker = .running)
    {item : Queue.Item Asked} {rest : List (Queue.Item Asked)} (hline : l.line = item :: rest)
    {done : List (Nat × Resolution)} (hdone : done.map Prod.fst = (loss? item).toList.map Prod.fst)
    (ended : List Ended) :
    Accounted { l with line := rest, resolved := l.resolved ++ done, ended } given where
  tickets := h.tickets
  account := by
    have haccount := h.account
    have hsplit : l.line.filterMap loss? = (loss? item).toList ++ rest.filterMap loss? := by
      cases hitem : loss? item <;> simp [hline, hitem]
    rwa [hsplit, List.map_append, ← hdone, ← List.append_assoc, ← List.map_append] at haccount
  losses d hd := by
    obtain ⟨item', hitem, hd⟩ := List.mem_filterMap.1 hd
    exact h.losses d (List.mem_filterMap.2 ⟨item', hline ▸ List.mem_cons_of_mem _ hitem, hd⟩)
  empty hended := absurd hrunning hended

/-- A beat keeps the account of tickets. -/
theorem Accounted.change (h : l.Accounted given) (hchange : l.Change b l') :
    l'.Accounted (given ++ b.gives?.toList) := by
  have hmore : l.tickets + b.gives?.toList.length = (given ++ b.gives?.toList).length := by
    rw [List.length_append, h.tickets]
  have hkept {d : Nat × Resolution} (hd : given[d.1]? = some d.2) :
      (given ++ b.gives?.toList)[d.1]? = some d.2 := by
    rw [List.getElem?_append_left (List.getElem?_eq_some_iff.1 hd).1]
    exact hd
  cases hchange with
  | none hgives => rwa [hgives, Option.toList_none, List.append_nil]
  | joined item hothers hrunning hgives =>
      have hline : (l.line ++ [item]).filterMap loss? =
          l.line.filterMap loss? ++ (loss? item).toList := by
        cases hitem : loss? item <;> simp [List.filterMap_append, hitem]
      refine ⟨hmore, ?_, fun d hd => ?_, fun hended => absurd hrunning hended⟩
      · have hnext := h.next hgives
        rwa [List.append_assoc, ← List.map_append, ← hline] at hnext
      · rw [hline] at hd
        rcases List.mem_append.1 hd with hd | hd
        · exact hkept (h.losses d hd)
        · rw [hgives] at hd
          obtain ⟨r, hr, rfl⟩ := Option.map_eq_some_iff.1 (Option.mem_toList.1 hd)
          rw [hr, h.tickets]
          exact List.getElem?_concat_length
  | refused item hothers hended hgives =>
      have hline := h.empty hended
      refine ⟨hmore, ?_, fun d hd => hkept (h.losses d hd), fun _ => hline⟩
      have hnext := h.next hgives
      rw [hline] at hnext ⊢
      simpa using hnext
  | @passed ticket rest mishaps hrunning hline =>
      have hdone : [(ticket, Resolution.flushed (.ok ()))].map Prod.fst =
          (loss? (.barrier ticket)).toList.map Prod.fst := rfl
      exact (List.append_nil given).symm ▸ h.done hrunning hline hdone l.ended
  | @finished asked rest number outcome mishaps hrunning hline =>
      refine (List.append_nil given).symm ▸ h.done hrunning hline ?_ _
      cases hticket : asked.ticket <;> simp [loss?, hticket]
  | stopped mishaps hrunning =>
      refine (List.append_nil given).symm ▸ ⟨h.tickets, ?_, fun d hd => (nomatch hd), fun _ => rfl⟩
      simpa using h.account
  | drained mishaps hrunning hline =>
      exact (List.append_nil given).symm ▸ ⟨h.tickets, h.account, h.losses, fun _ => hline⟩

end Ledger

/-- After a stop no worker runs. -/
theorem stop_worker (session : Session) : session.stop.queue.worker ≠ .running := by
  rw [Session.stop, Queue.Serial.stop]
  by_cases hrunning : session.queue.worker = .running
  · rw [if_pos hrunning]
    exact fun h => by cases h
  · rwa [if_neg hrunning]

namespace Desk

/-- A ticket is resolved behind those resolved before, and no ticket is none. -/
theorem resolve_resolved (d : Desk) (ticket : Option Nat) (r : Resolution) :
    (d.resolve ticket r).resolved = d.resolved ++ (ticket.map (·, r)).toList := by
  cases ticket with
  | none => exact (List.append_nil _).symm
  | some ticket => rfl

/-- A request resolves no ticket. -/
theorem carryOut_resolved (r : Request) (d : Desk) :
    ((carryOut r).run d).2.resolved = d.resolved := by
  cases r <;> rfl

theorem carryOutAmid_resolved (mishaps : List (Option Mishap)) (r : Request) (d : Desk) :
    ((carryOutAmid mishaps r).run d).2.resolved = d.resolved := by
  cases hstore : d.store <;> cases r <;> simp only [carryOutAmid, StateT.run, hstore] <;> rfl

/-- What is lost resolves its tickets, in order. -/
theorem foldl_lose_resolved (items : List (Queue.Item Asked)) (d : Desk) :
    (items.foldl lose d).resolved = d.resolved ++ items.filterMap loss? := by
  induction items generalizing d with
  | nil => exact (List.append_nil _).symm
  | cons item items ih =>
      have hlost : (lose d item).resolved = d.resolved ++ (loss? item).toList := by
        cases item <;> exact d.resolve_resolved ..
      rw [List.foldl_cons, ih, hlost, List.append_assoc]
      cases h : loss? item <;> simp [h]

end Desk

namespace Shift

variable {s s' : Shift} {b : Beat}

/-- What the worker has not done: the confirmation in hand and the items behind it. -/
def line (s : Shift) : List (Queue.Item Asked) :=
  (s.hand.toList.map fun hd => .job hd.asked) ++ s.session.queue.waiting

/-- The ledger of a shift. -/
def ledger (s : Shift) : Ledger where
  line := s.line
  worker := s.session.queue.worker
  tickets := s.session.tickets
  resolved := s.session.desk.resolved
  submitted := s.submitted
  ended := s.ended

/-- What changes nothing about the line. -/
theorem change_of_eq (hgives : b.gives? = none) (h : s'.ledger = s.ledger) :
    s.ledger.Change b s'.ledger := by
  rw [h]
  exact .none hgives

/-- An item is submitted, or lost if there is no worker. -/
theorem change_submit (item : Queue.Item Asked) (hothers : b.isWork = false)
    (hgives : loss? item = b.gives?.map (s.session.tickets, ·))
    (hjoined : s.session.queue.worker = .running → s'.ledger = { s.ledger with
      line := s.line ++ [item]
      tickets := s.session.tickets + b.gives?.toList.length
      submitted := s.submitted ++ jobs [item] })
    (hrefused : s.session.queue.worker ≠ .running → s'.ledger = { s.ledger with
      tickets := s.session.tickets + b.gives?.toList.length
      resolved := s.session.desk.resolved ++ (loss? item).toList }) :
    s.ledger.Change b s'.ledger := by
  by_cases hworker : s.session.queue.worker = .running
  · rw [hjoined hworker]
    exact .joined item hothers hworker hgives
  · rw [hrefused hworker]
    exact .refused item hothers hworker hgives

/-- A confirmation is asked for, in whatever way. -/
theorem change_ask (s : Shift) (session : Session) (asked : Asked) (sent : List (Nat × TapEvent))
    (hothers : b.isWork = false) (hqueue : session.queue = s.session.queue)
    (hresolved : session.desk.resolved = s.session.desk.resolved)
    (htickets : session.tickets = s.session.tickets + b.gives?.toList.length)
    (hgives : loss? (.job asked) = b.gives?.map (s.session.tickets, ·)) :
    s.ledger.Change b (ledger { s with
      session := session.ask asked, sent, submitted := s.submittedWith [asked] }) := by
  refine change_submit (.job asked) hothers hgives (fun hworker => ?_) fun hworker => ?_
  · have hsubmit : session.queue.submit? (.job asked) = some { s.session.queue with
        waiting := s.session.queue.waiting ++ [.job asked] } := by
      rw [hqueue, Queue.Serial.submit?, if_pos hworker]
    rw [ask, hsubmit, submittedWith, if_pos hworker]
    simp [ledger, line, hresolved, htickets, jobs]
  · have hsubmit : session.queue.submit? (.job asked) = none := by
      rw [hqueue, Queue.Serial.submit?, if_neg hworker]
    rw [ask, hsubmit, submittedWith, if_neg hworker]
    have hlost :=
      (session.desk.traced (.confirmationDropped asked.id .queueClosed)).resolve_resolved
        asked.ticket .dropped
    simp only [ledger, hlost, htickets, hqueue]
    exact congrArg (fun r => Ledger.mk _ _ _ (r ++ _) _ _) hresolved

/-- A change of the files is none of the line. -/
theorem change_files (s : Shift) (hgives : b.gives? = none)
    (f : Files.Tree → Except Files.Fault Files.Tree) :
    s.ledger.Change b (ledger { s with session := (s.session.onFiles f).2 }) := by
  refine change_of_eq hgives ?_
  rw [onFiles]
  split <;> rfl

/-- A change of the store in memory is none of the line. -/
theorem change_memory (s : Shift) (hgives : b.gives? = none) (f : Store.Memory → Store.Memory) :
    s.ledger.Change b (ledger { s with session := (s.session.onMemory f).2 }) := by
  refine change_of_eq hgives ?_
  rw [onMemory]
  split <;> rfl

/-- A direct change of the store is none of the line. -/
theorem change_edit (s : Shift) (hgives : b.gives? = none) (c : Store.Change)
    (mishaps : List (Option Mishap)) : s.ledger.Change b (s.edit c mishaps).ledger := by
  refine change_of_eq hgives ?_
  rw [edit]
  split <;> rfl

/-- A choice leaves the confirmation in hand where it is. -/
theorem change_reply (s : Shift) (choice : Dialog.Choice) (mishaps : List (Option Mishap)) :
    s.ledger.Change (.outside (.reply choice) mishaps) (s.reply choice).ledger := by
  refine change_of_eq rfl ?_
  rw [reply]
  split
  · dsimp only
    split
    · next hhand => simp [ledger, line, hhand, Queue.Serial.finish]
    · rfl
  · rfl

/-- What is lost in a stop is the line. -/
theorem ledger_stop (h : s.InTurn) (hsuspended : s.isSuspended = true)
    (hworker : s.session.queue.worker = .running) :
    s.stop.ledger = { s.ledger with
      line := []
      worker := .stopped
      resolved := s.session.desk.resolved ++ s.line.filterMap loss? } := by
  have hbegun : s.session.queue.current.toList.map (fun pending => .job pending.asked) =
      s.hand.toList.map fun hd => Queue.Item.job hd.asked := by
    rw [h.current]
    rw [isSuspended] at hsuspended
    cases hhand : s.hand with
    | none => rfl
    | some hd =>
        obtain ⟨number, asked, stage⟩ := hd
        rw [hhand, Option.all_some] at hsuspended
        cases stage with
        | asking p => rfl
        | checking plan => cases hsuspended
        | concluding plan => cases hsuspended
  have hstop : s.session.queue.stop = ({ s.session.queue with
      waiting := [], current := none, worker := .stopped }, s.session.queue.current,
        s.session.queue.waiting) := by
    rw [Queue.Serial.stop, if_pos hworker]
  rw [stop, if_pos hsuspended, Session.stop, hstop]
  simp only [ledger, hbegun, Desk.foldl_lose_resolved]
  rfl

/-- A stop clears the line and resolves its tickets as lost. -/
theorem change_stop (h : s.InTurn) (mishaps : List (Option Mishap)) :
    s.ledger.Change (.outside .stop mishaps) s.stop.ledger := by
  by_cases hsuspended : s.isSuspended = true
  · by_cases hworker : s.session.queue.worker = .running
    · rw [ledger_stop h hsuspended hworker]
      exact .stopped mishaps hworker
    · have hnone : s.hand = none := Decidable.not_not.1 fun hsome => hworker (h.running hsome)
      refine change_of_eq rfl ?_
      rw [stop, if_pos hsuspended, Session.stop, Queue.Serial.stop, if_neg hworker]
      simp [ledger, line, hnone]
  · rw [stop, if_neg hsuspended]
    exact .none rfl

/-- What a step from outside does to the line. -/
theorem change_outside (h : s.InTurn) (e : Step) (mishaps : List (Option Mishap)) :
    s.ledger.Change (.outside e mishaps) (s.outside e mishaps).ledger := by
  cases e with
  | write place content => exact s.change_files rfl _
  | makeDirectory place => exact s.change_files rfl _
  | clear place => exact s.change_files rfl _
  | insert p => exact s.change_memory rfl _
  | mode mode => exact s.change_memory rfl _
  | failEnable => exact s.change_memory rfl _
  | add p => exact s.change_edit rfl _ mishaps
  | update p => exact s.change_edit rfl _ mishaps
  | notify id =>
      have hresolved : (((Remedy.offer s.session.desk.messages id).run Desk.carryOut).run
          s.session.desk).2.resolved = s.session.desk.resolved :=
        Remedy.Plan.run_keeps (fun r _ => Desk.carryOut_resolved r) (Remedy.Plan.all_true _) _
      refine change_of_eq rfl ?_
      exact congrArg (fun r => { s.ledger with resolved := r }) hresolved
  | confirm id identity =>
      exact s.change_ask { s.session with tickets := s.session.tickets + 1 }
        ⟨id, identity, some s.session.tickets⟩ s.sent rfl rfl rfl rfl rfl
  | flush =>
      refine change_submit (.barrier s.session.tickets) rfl rfl
        (fun hworker => ?_) fun hworker => ?_
      · have hsubmit : s.session.queue.submit? (.barrier s.session.tickets) =
            some { s.session.queue with
              waiting := s.session.queue.waiting ++ [.barrier s.session.tickets] } := by
          rw [Queue.Serial.submit?, if_pos hworker]
        simp [outside, act, flush, newTicket, hsubmit, ledger, line, jobs, Beat.gives?]
      · have hsubmit : s.session.queue.submit? (.barrier s.session.tickets) = none := by
          rw [Queue.Serial.submit?, if_neg hworker]
        simp only [outside, act, flush, newTicket, hsubmit]
        rfl
  | reply choice => exact s.change_reply choice mishaps
  | route e =>
      obtain ⟨sent, hroute⟩ := s.outside_route e mishaps
      refine change_of_eq rfl ?_
      rw [hroute]
      rfl
  | tap =>
      refine change_of_eq rfl ?_
      rw [outside]
      split <;> rfl
  | stop => exact change_stop h mishaps

/-- A listener puts its taps at the end of the line. -/
theorem change_listen (s : Shift) (channel : Nat) :
    s.ledger.Change (.listen channel) (s.listen channel).ledger := by
  rw [listen]
  split
  · exact .none rfl
  · next event _ =>
      rw [hear, heardAs]
      obtain ⟨told, wanted⟩ := Router.hear event
      cases wanted with
      | none =>
          refine change_of_eq rfl ?_
          have hsame : s.submittedWith [] = s.submitted := by
            unfold submittedWith
            split
            · exact List.append_nil _
            · rfl
          exact congrArg (fun submitted => { s.ledger with submitted }) hsame
      | some target =>
          exact s.change_ask { s.session with desk := s.session.desk.traced told }
            ⟨target.1, target.2, none⟩ _ rfl rfl rfl rfl rfl

/-- The worker takes the first item of the line in hand, or passes a barrier. -/
theorem change_take (mishaps : List (Option Mishap)) (hhand : s.hand = none)
    (htake : s.take? = some s') : s.ledger.Change (.work mishaps) s'.ledger := by
  unfold take? at htake
  dsimp only at htake
  split at htake
  · next asked waiting _ hwaiting =>
      cases htake
      refine change_of_eq rfl ?_
      simp [ledger, line, hhand, hwaiting]
  · next ticket waiting hrunning hwaiting =>
      cases htake
      have hline : s.ledger.line = .barrier ticket :: waiting := by
        simp [ledger, line, hhand, hwaiting]
      have hafter : line { s with session := { s.session with
          desk := Desk.work.pass ticket s.session.desk
          queue := { s.session.queue with waiting } } } = waiting := by
        simp [line, hhand]
      have hpassed := Ledger.Change.passed mishaps hrunning hline
      rw [← hafter] at hpassed
      exact hpassed
  · next hrunning hwaiting =>
      split at htake
      · cases htake
      · cases htake
        have hline : s.ledger.line = [] := by simp [ledger, line, hhand, hwaiting]
        exact .drained mishaps hrunning hline
  · cases htake

/-- A confirmation that ends leaves the line and resolves its ticket. -/
theorem change_finish (h : s.InTurn) {hd : Hand} (mishaps : List (Option Mishap))
    (hhand : s.hand = some hd) (outcome : Outcome) :
    s.ledger.Change (.work mishaps) (s.finish hd outcome).ledger := by
  have hrunning : s.ledger.worker = .running := h.running fun hnone => by cases hhand ▸ hnone
  have hline : s.ledger.line = .job hd.asked :: s.session.queue.waiting := by
    simp [ledger, line, hhand]
  have hresolve := s.session.desk.resolve_resolved hd.asked.ticket (.outcome outcome)
  have hfinished := Ledger.Change.finished hd.number outcome mishaps hrunning hline
  simp only [finish, ledger, hresolve]
  exact hfinished

/-- A request leaves the line alone. -/
theorem change_request (hd : Hand) (hhand : s.hand = some hd) (r : Request)
    (next : r.Answer → Stage) (mishaps : List (Option Mishap)) :
    s.ledger.Change (.work mishaps) (s.request hd r next mishaps).ledger := by
  refine change_of_eq rfl ?_
  have hresolved := Desk.carryOutAmid_resolved mishaps r s.session.desk
  have hline : s.line = .job hd.asked :: s.session.queue.waiting := by rw [line, hhand]; rfl
  rw [ledger, ledger, hline, ← hresolved]
  rfl

/-- A dialog that opens leaves the line alone. -/
theorem change_openDialog (hd : Hand) (hhand : s.hand = some hd) (p : Profile)
    (mishaps : List (Option Mishap)) :
    s.ledger.Change (.work mishaps) (s.openDialog hd p).ledger := by
  refine change_of_eq rfl ?_
  rw [openDialog]
  dsimp only
  split <;> simp [ledger, line, hhand, noted, Desk.called]

/-- What the worker does to the line as it goes on. -/
theorem change_goOn {hd : Hand} {mishaps : List (Option Mishap)} (h : s.InTurn)
    (hhand : s.hand = some hd) (hgo : s.goOn? hd mishaps = some s') :
    s.ledger.Change (.work mishaps) s'.ledger := by
  unfold goOn? at hgo
  split at hgo
  · cases hgo
    exact change_request hd hhand _ _ mishaps
  · cases hgo
    exact change_finish h mishaps hhand _
  · cases hgo
    exact change_openDialog hd hhand _ mishaps
  · cases hgo
  · cases hgo
    exact change_request hd hhand _ _ mishaps
  · cases hgo
    exact change_finish h mishaps hhand _

/-- **Every beat changes the ledger in one of these ways.** -/
theorem change (h : s.InTurn) (b : Beat) : s.ledger.Change b (s.beat b).ledger := by
  cases b with
  | outside e mishaps => exact change_outside h e mishaps
  | listen channel => exact s.change_listen channel
  | work mishaps =>
      rw [beat]
      cases hwork : s.work? mishaps with
      | none => exact .none rfl
      | some s' =>
          rw [work?] at hwork
          split at hwork
          · next hhand => exact change_take mishaps hhand hwork
          · next hd hhand => exact change_goOn h hhand hwork

/-! ## runs -/

/-- **Each ticket of a run is in the line or resolved, and never both.** -/
theorem accounted_run {given : List Resolution} (hturn : s.InTurn)
    (h : s.ledger.Accounted given) (beats : List Beat) :
    (s.run beats).ledger.Accounted (given ++ beats.filterMap Beat.gives?) := by
  induction beats generalizing s given with
  | nil => exact (List.append_nil given).symm ▸ h
  | cons b beats ih =>
      have hrest := ih (hturn.beat b) (h.change (change hturn b))
      have hgiven : given ++ (b :: beats).filterMap Beat.gives? =
          given ++ b.gives?.toList ++ beats.filterMap Beat.gives? := by
        cases hb : b.gives? <;> simp [hb]
      rwa [hgiven]

/-- In the beginning no ticket is given out. -/
theorem begin_accounted {desk : Desk} (hdesk : desk.resolved = []) (router : Router) :
    (begin desk router 0).ledger.Accounted [] := by
  refine ⟨rfl, ?_, fun d hd => (nomatch hd), fun _ => rfl⟩
  change (desk.resolved.map Prod.fst ++ []).Perm []
  rw [hdesk]
  rfl

/-- What has ended is the first part of what was submitted, and the worker leaves nothing out. -/
structure Served (s : Shift) : Prop where
  numbers : s.ended.map Ended.number = List.range s.ended.length
  asked : ∀ e ∈ s.ended, s.submitted[e.number]? = some e.asked
  taken : s.session.queue.worker = .running → s.ended.length + s.hand.toList.length = s.taken

/-- Other things happen. -/
theorem Served.around (h : s.Served) (hended : s'.ended = s.ended)
    (hsubmitted : s.submitted <+: s'.submitted)
    (htaken : s'.session.queue.worker = .running →
      s.ended.length + s'.hand.toList.length = s'.taken) : s'.Served where
  numbers := hended ▸ h.numbers
  asked e he := by
    obtain ⟨more, hmore⟩ := hsubmitted
    have hasked := h.asked e (hended ▸ he)
    rw [← hmore, List.getElem?_append_left (List.getElem?_eq_some_iff.1 hasked).1]
    exact hasked
  taken hrunning := hended ▸ htaken hrunning

/-- **Confirmations end in the order in which they were submitted**, beat by beat. -/
theorem Served.beat (h : s.Served) (hturn : s.InTurn) (b : Beat) : (s.beat b).Served := by
  have hrunning := (change hturn b).running
  have hmove := s.move b
  have hsubmitted := hmove.submitted_grows
  have hbefore : (s.beat b).session.queue.worker = .running →
      s.ended.length + s.hand.toList.length = s.taken := fun hafter => h.taken (hrunning hafter)
  generalize s.beat b = s' at hmove hsubmitted hbefore
  cases hmove with
  | aside hothers calm => exact h.around calm.ended hsubmitted (calm.hand ▸ calm.taken ▸ hbefore)
  | idle mishaps calm => exact h.around calm.ended hsubmitted (calm.hand ▸ calm.taken ▸ hbefore)
  | @edited _ c mishaps =>
      have calm := s.edit_calm c mishaps
      exact h.around calm.ended hsubmitted (calm.hand ▸ calm.taken ▸ hbefore)
  | replied choice mishaps hhand =>
      rw [hhand] at hbefore
      exact h.around rfl hsubmitted hbefore
  | stopped mishaps hsuspended =>
      have hstopped : s.stop.session.queue.worker ≠ .running := by
        rw [stop, if_pos hsuspended]
        exact stop_worker s.session
      have hended : s.stop.ended = s.ended := by rw [stop, if_pos hsuspended]
      exact h.around hended hsubmitted fun hafter => absurd hafter hstopped
  | took mishaps hhand =>
      refine h.around rfl hsubmitted fun hafter => ?_
      have hcount := hbefore hafter
      rw [hhand] at hcount
      exact congrArg (· + 1) hcount
  | checked mishaps hhand =>
      rw [hhand] at hbefore
      exact h.around rfl hsubmitted hbefore
  | opened mishaps hhand =>
      obtain ⟨stage, hstage, -, hrest⟩ := s.openDialog_rest _ _
      rw [hhand] at hbefore
      exact h.around hrest.ended hsubmitted (hrest.taken ▸ hstage ▸ hbefore)
  | concluded mishaps hhand =>
      rw [hhand] at hbefore
      exact h.around rfl hsubmitted hbefore
  | @finished hd outcome mishaps hhand houtcome =>
      obtain ⟨hlast, hasked⟩ := hturn.hand hd hhand
      have hcount := h.taken (hturn.running fun hnone => by cases hhand ▸ hnone)
      rw [hhand, Option.toList_some, List.length_singleton, ← hlast] at hcount
      have hnumber : s.ended.length = hd.number := Nat.succ.inj hcount
      refine ⟨?_, fun e he => ?_, fun _ => ?_⟩
      · change (s.ended ++ [_]).map Ended.number = List.range (s.ended ++ [_]).length
        rw [List.map_append, h.numbers, List.length_append, List.length_singleton, List.range_succ,
          hnumber]
        rfl
      · rcases List.mem_append.1 he with he | he
        · exact h.asked e he
        · rw [List.mem_singleton.1 he]
          exact hasked
      · change (s.ended ++ [_]).length + 0 = s.taken
        rw [List.length_append, List.length_singleton, ← hlast, hnumber]

theorem Served.run (h : s.Served) (hturn : s.InTurn) (beats : List Beat) :
    (s.run beats).Served := by
  induction beats generalizing s with
  | nil => exact h
  | cons b beats ih => exact ih (h.beat hturn b) (hturn.beat b)

theorem begin_served (desk : Desk) (router : Router) (tickets : Nat) :
    (begin desk router tickets).Served :=
  ⟨rfl, fun _ he => (nomatch he), fun _ => rfl⟩

/-- **What was submitted has ended or is in the line**, as long as the worker runs. -/
theorem Served.count (h : s.Served) (hturn : s.InTurn)
    (hrunning : s.session.queue.worker = .running) :
    s.ended.length + (jobs s.line).length = s.submitted.length := by
  have htaken := h.taken hrunning
  have hwaiting := congrArg List.length (hturn.waiting hrunning)
  have hle := hturn.taken_le
  have hline : jobs s.line = s.hand.toList.map Hand.asked ++ jobs s.session.queue.waiting := by
    rw [line, jobs_append]
    cases s.hand <;> rfl
  rw [hline, List.length_append, List.length_map, ← hwaiting, List.length_drop]
  omega

end Shift

end MacConsent.Session
