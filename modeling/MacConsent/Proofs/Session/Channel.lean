import MacConsent.Proofs.Session.Flush
import MacConsent.Proofs.Session.Taps

/-!
# MacConsent.Proofs.Session.Channel

What goes through a channel in a run: the events that are sent
(`Shift.sentThrough`) and the confirmations that its listener asks for
(`Shift.askedThrough`).  A listener asks for what its events want, in their order
(`Shift.through_run`).  Nobody gets hold of a channel again once it was let go of
(`Released`); so when its listener has taken all that was on its way, a flush that
succeeds comes after the outcomes of all that was ever sent through it
(`Shift.flushed_after_taps`).
-/

namespace MacConsent.Session

open Desk (Asked)
open Store (Mishap)

/-! ## channels -/

/-- A channel that was opened, and that nobody holds any more. -/
structure Released (channel : Nat) (r : Router) : Prop where
  opened : channel < r.opened
  free : r.isHeld channel = false

/-- Nobody gets hold of a channel again. -/
theorem Released.step {channel : Nat} {r : Router} (h : Released channel r) (e : Router.Step) :
    Released channel (r.step e).2.1 := by
  have hfree : r.own ≠ some channel ∧ r.sender ≠ some channel := by
    simpa [Router.isHeld] using h.free
  have hnew : r.opened ≠ channel := Nat.ne_of_gt h.opened
  cases e with
  | register =>
      by_cases hown : r.own.isSome = true
      · simpa [Router.step, Router.register, hown] using h
      · simp only [Router.step, Router.register, if_neg hown]
        refine ⟨Nat.lt_succ_of_lt h.opened, ?_⟩
        simpa [Router.isHeld, hnew] using hfree.2
  | takeSender =>
      exact ⟨h.opened, by simpa [Router.step, Router.takeSender, Router.isHeld] using hfree.1⟩
  | dropSender =>
      exact ⟨h.opened, by simpa [Router.step, Router.dropSender, Router.isHeld] using hfree.1⟩
  | close => exact ⟨h.opened, by simpa [Router.step, Router.close, Router.isHeld] using hfree.2⟩
  | send events => exact h

/-- A channel that nobody holds is not the one the router sends to. -/
theorem Released.sender_ne {channel : Nat} {r : Router} (h : Released channel r) :
    r.sender ≠ some channel := fun hsender => by
  have hheld := Exchange.isHeld_iff.2 (.inr hsender)
  cases h.free.symm.trans hheld

/-- Asking the queue for a confirmation leaves the router alone. -/
theorem ask_router (s : Session) (asked : Asked) : (s.ask asked).router = s.router := by
  rw [ask]
  split <;> rfl

theorem hear_router (s : Session) (event : TapEvent) : (s.hear event).router = s.router := by
  rw [hear]
  obtain ⟨told, wanted⟩ := Router.hear event
  cases wanted with
  | none => rfl
  | some target => exact ask_router ..

namespace Shift

variable {s s' : Shift} {b : Beat} {channel : Nat}

/-- The worker does not touch the router as it goes on. -/
theorem router_goOn {hd : Hand} {mishaps : List (Option Mishap)}
    (hgo : s.goOn? hd mishaps = some s') : s'.session.router = s.session.router := by
  unfold goOn? at hgo
  split at hgo
  · cases hgo; rfl
  · cases hgo; rfl
  · cases hgo
    rw [openDialog]
    dsimp only
    split <;> rfl
  · cases hgo
  · cases hgo; rfl
  · cases hgo; rfl

/-- The worker does not touch the router as it takes an item. -/
theorem router_take (htake : s.take? = some s') : s'.session.router = s.session.router := by
  unfold take? at htake
  dsimp only at htake
  split at htake
  · cases htake; rfl
  · cases htake; rfl
  · split at htake
    · cases htake
    · cases htake; rfl
  · cases htake

/-- From outside, only steps of the router itself touch it. -/
theorem router_outside (s : Shift) {e : Step} (he : ∀ e', e ≠ .route e')
    (mishaps : List (Option Mishap)) :
    (s.outside e mishaps).session.router = s.session.router := by
  have hfiles (f : Files.Tree → Except Files.Fault Files.Tree) :
      (s.session.onFiles f).2.router = s.session.router := by
    rw [onFiles]
    split <;> rfl
  have hmemory (f : Store.Memory → Store.Memory) :
      (s.session.onMemory f).2.router = s.session.router := by
    rw [onMemory]
    split <;> rfl
  have hedit (c : Store.Change) : (s.edit c mishaps).session.router = s.session.router := by
    rw [edit]
    split <;> rfl
  cases e with
  | write place content => exact hfiles _
  | makeDirectory place => exact hfiles _
  | clear place => exact hfiles _
  | insert p => exact hmemory _
  | mode mode => exact hmemory _
  | failEnable => exact hmemory _
  | add p => exact hedit _
  | update p => exact hedit _
  | notify id => rfl
  | confirm id identity => exact ask_router ..
  | flush =>
      change s.session.flush.2.router = _
      rw [flush, newTicket]
      dsimp only
      split <;> rfl
  | reply choice =>
      rw [outside, reply]
      split
      · dsimp only
        split <;> rfl
      · rfl
  | route e => exact absurd rfl (he e)
  | tap =>
      rw [outside]
      split <;> rfl
  | stop =>
      rw [outside, stop]
      split <;> rfl

/-- Nothing but what is asked of a router changes it. -/
theorem router_of_others (s : Shift) (h : ∀ e mishaps, b ≠ .outside (.route e) mishaps) :
    (s.beat b).session.router = s.session.router := by
  cases b with
  | listen channel =>
      rw [beat, listen]
      split
      · rfl
      · exact hear_router ..
  | work mishaps =>
      rw [beat]
      cases hwork : s.work? mishaps with
      | none => rfl
      | some s' =>
          rw [work?] at hwork
          split at hwork
          · exact router_take hwork
          · exact router_goOn hwork
  | outside e mishaps => exact s.router_outside (fun e' he => h e' mishaps (he ▸ rfl)) mishaps

theorem router_route (s : Shift) (e : Router.Step) (mishaps : List (Option Mishap)) :
    (s.beat (.outside (.route e) mishaps)).session.router = (s.session.router.step e).2.1 := by
  obtain ⟨sent, hroute⟩ := s.outside_route e mishaps
  exact congrArg (fun s => s.session.router) hroute

/-- Whatever happens, a channel that was let go stays so. -/
theorem released_beat (h : Released channel s.session.router) (b : Beat) :
    Released channel (s.beat b).session.router := by
  by_cases hroute : ∃ e mishaps, b = .outside (.route e) mishaps
  · obtain ⟨e, mishaps, rfl⟩ := hroute
    exact s.router_route e mishaps ▸ h.step e
  · exact s.router_of_others (fun e mishaps hb => hroute ⟨e, mishaps, hb⟩) ▸ h

/-! ## what goes through a channel -/

/-- The events that are sent through a channel in a run, in order. -/
def sentThrough (channel : Nat) (s : Shift) : List Beat → List TapEvent
  | [] => []
  | b :: beats =>
    (if s.session.router.sender = some channel then s.sends b else []) ++
      sentThrough channel (s.beat b) beats

/-- The numbers of the confirmations that the listener of a channel asks for in a run, in order. -/
def askedThrough (channel : Nat) (s : Shift) : List Beat → List Nat
  | [] => []
  | b :: beats =>
    let n := s.submitted.length
    (if b.listensTo channel then List.range' n ((s.beat b).submitted.length - n) else []) ++
      askedThrough channel (s.beat b) beats

/-- What is sent through a channel in two runs, one after the other. -/
theorem sentThrough_append (s : Shift) (beats more : List Beat) :
    s.sentThrough channel (beats ++ more) =
      s.sentThrough channel beats ++ (s.run beats).sentThrough channel more := by
  induction beats generalizing s with
  | nil => rfl
  | cons b beats ih =>
      rw [List.cons_append, sentThrough, sentThrough, ih, List.append_assoc]
      rfl

/-- Where nothing is sent, nothing is sent through a channel. -/
theorem sentThrough_of_sends (s : Shift) {beats : List Beat}
    (h : ∀ b ∈ beats, ∀ s : Shift, s.sends b = []) : s.sentThrough channel beats = [] := by
  induction beats generalizing s with
  | nil => rfl
  | cons b beats ih =>
      rw [sentThrough, h b List.mem_cons_self s, ite_self,
        ih (s.beat b) fun b' hb' => h b' (List.mem_cons_of_mem b hb')]
      rfl

/-- Nothing is sent through a channel that nobody holds. -/
theorem sentThrough_of_released (h : Released channel s.session.router) (beats : List Beat) :
    s.sentThrough channel beats = [] := by
  induction beats generalizing s with
  | nil => rfl
  | cons b beats ih =>
      rw [sentThrough, if_neg h.sender_ne, ih (released_beat h b)]
      rfl

/-- What is sent while there is a sender comes last on its way through the channel of the sender. -/
theorem sentTo_outside (s : Shift) (e : Step) (mishaps : List (Option Mishap)) (channel : Nat) :
    (s.outside e mishaps).sentTo channel = s.sentTo channel ++
      if s.session.router.sender = some channel then s.sends (.outside e mishaps) else [] := by
  rw [sentTo, sent_outside, List.filter_append, List.map_append]
  refine congrArg (s.sentTo channel ++ ·) ?_
  cases hsender : s.session.router.sender with
  | none => simp [Router.heard, Router.delivery, hsender]
  | some other =>
      have hheld := Exchange.isHeld_iff.2 (.inr hsender)
      have hheard : s.session.router.heard (s.sends (.outside e mishaps)) =
          s.sends (.outside e mishaps) := by
        simp [Router.heard, Router.delivery, hsender, hheld]
      rw [hheard, Option.getD_some]
      by_cases h : other = channel
      · rw [h, Exchange.filter_tagged, if_pos rfl]
      · rw [Exchange.filter_tagged_of_ne h, if_neg fun heq => h (Option.some.inj heq)]
        rfl

/-- A beat in which a listener has no turn sends what it sends. -/
theorem sentTo_beat_of_others (s : Shift) (h : ¬ b.listensTo channel = true) :
    (s.beat b).sentTo channel = s.sentTo channel ++
      if s.session.router.sender = some channel then s.sends b else [] := by
  have hnone : (if s.session.router.sender = some channel then ([] : List TapEvent) else []) = [] :=
    ite_self _
  cases b with
  | outside e mishaps => exact s.sentTo_outside e mishaps channel
  | listen other =>
      have hne : other ≠ channel := fun heq => h (beq_iff_eq.2 heq)
      have hsends : s.sends (.listen other) = [] := rfl
      rw [hsends, hnone, List.append_nil]
      exact s.sentTo_listen_of_ne hne
  | work mishaps =>
      have hsends : s.sends (.work mishaps) = [] := rfl
      rw [hsends, hnone, List.append_nil, sentTo, (s.move (.work mishaps)).sent]
      rfl

theorem eq_listen_of_listensTo (h : b.listensTo channel = true) : b = .listen channel := by
  cases b with
  | listen other => rw [beq_iff_eq.1 h]
  | outside e mishaps => cases h
  | work mishaps => cases h

/-- A listener to which nothing is on its way waits. -/
theorem listen_of_nil (h : s.sentTo channel = []) : s.listen channel = s := by
  have hnone : s.sent.find? (·.1 == channel) = none := by
    rw [← List.head?_filter, List.map_eq_nil_iff.1 h]
    rfl
  rw [listen, hnone]

/-- What is asked for is numbered as it comes. -/
theorem map_range'_append {α : Type} (as bs : List α) :
    (List.range' as.length bs.length).map (fun n => (as ++ bs)[n]?) = bs.map some := by
  refine List.ext_getElem (by simp) fun i hi _ => ?_
  have hlt : i < bs.length := by simpa using hi
  simp [hlt]

/-- What a run does to a confirmation that was asked for before. -/
theorem getElem?_run {n : Nat} {asked : Asked} (h : s.submitted[n]? = some asked)
    (beats : List Beat) : (s.run beats).submitted[n]? = some asked :=
  getElem?_mono (s.submitted_grows_run beats) h

/-- A listener that takes an event asks for what the event wants. -/
theorem numbers_listen {event : TapEvent} {rest : List TapEvent}
    (hfirst : s.sentTo channel = event :: rest) (hrunning : s.session.queue.worker = .running)
    (beats : List Beat) :
    let n := s.submitted.length
    (List.range' n ((s.listen channel).submitted.length - n)).map
        (fun n => ((s.listen channel).run beats).submitted[n]?) = (heardAs event).map some := by
  intro n
  have hsubmitted : (s.listen channel).submitted = s.submitted ++ heardAs event := by
    rw [listen_eq hfirst, submittedWith, if_pos hrunning]
  have hmore : (s.listen channel).submitted.length - n = (heardAs event).length := by
    rw [hsubmitted, List.length_append, Nat.add_sub_cancel_left]
  rw [hmore, ← map_range'_append s.submitted]
  refine List.map_congr_left fun m hm => ?_
  have hlt : m < (s.submitted ++ heardAs event).length := by
    rw [List.length_append]
    exact (List.mem_range'_1.1 hm).2
  have hasked := List.getElem?_eq_getElem hlt
  rw [hasked]
  refine getElem?_run ?_ beats
  rw [hsubmitted, hasked]

/-- **A listener asks for what its events want, in their order**: of the events sent through its
channel, those that are not on their way any more, as long as there is a worker. -/
theorem through_run (hturn : s.InTurn) (beats : List Beat)
    (hrunning : (s.run beats).session.queue.worker = .running) :
    s.session.queue.worker = .running ∧
    ∃ heard, s.sentTo channel ++ s.sentThrough channel beats =
        heard ++ (s.run beats).sentTo channel ∧
      (s.askedThrough channel beats).map (fun n => (s.run beats).submitted[n]?) =
        (heard.flatMap heardAs).map some := by
  induction beats generalizing s with
  | nil => exact ⟨hrunning, [], by simp [sentThrough, run], rfl⟩
  | cons b beats ih =>
      obtain ⟨hafter, heard, hsent, hasked⟩ := ih (hturn.beat b) hrunning
      have hbefore : s.session.queue.worker = .running := (change hturn b).running hafter
      refine ⟨hbefore, ?_⟩
      by_cases hlistens : b.listensTo channel = true
      · obtain rfl := eq_listen_of_listensTo hlistens
        have hnone : (if s.session.router.sender = some channel then s.sends (.listen channel)
            else []) = [] := ite_self _
        have hrest : (s.beat (.listen channel)).sentTo channel = (s.sentTo channel).tail :=
          s.sentTo_listen channel
        rw [sentThrough, askedThrough, if_pos hlistens, hnone, List.nil_append]
        rw [hrest] at hsent
        cases hfirst : s.sentTo channel with
        | nil =>
            rw [hfirst] at hsent
            refine ⟨heard, hsent, ?_⟩
            have hsame : s.beat (.listen channel) = s := listen_of_nil hfirst
            have hrun : s.run (.listen channel :: beats) = s.run beats :=
              congrArg (·.run beats) hsame
            rw [hsame] at hasked ⊢
            rw [hrun, Nat.sub_self]
            exact hasked
        | cons event rest =>
            rw [hfirst, List.tail_cons] at hsent
            refine ⟨event :: heard, congrArg (event :: ·) hsent, ?_⟩
            rw [List.map_append, List.flatMap_cons, List.map_append, ← hasked]
            exact congrArg (· ++ _) (numbers_listen hfirst hbefore beats)
      · refine ⟨heard, ?_, ?_⟩
        · rw [sentThrough, ← List.append_assoc, ← s.sentTo_beat_of_others hlistens]
          exact hsent
        · rw [askedThrough, if_neg hlistens, List.nil_append]
          exact hasked

/-- What is asked for through a channel in two runs, one after the other. -/
theorem askedThrough_append (s : Shift) (beats more : List Beat) :
    s.askedThrough channel (beats ++ more) =
      s.askedThrough channel beats ++ (s.run beats).askedThrough channel more := by
  induction beats generalizing s with
  | nil => rfl
  | cons b beats ih =>
      rw [List.cons_append, askedThrough, askedThrough, ih, List.append_assoc]
      rfl

/-- The listener of a channel that nobody holds has nothing to ask for once it has taken all that
was on its way. -/
theorem askedThrough_of_released (h : Released channel s.session.router)
    (hsent : s.sentTo channel = []) (beats : List Beat) : s.askedThrough channel beats = [] := by
  induction beats generalizing s with
  | nil => rfl
  | cons b beats ih =>
      by_cases hlistens : b.listensTo channel = true
      · obtain rfl := eq_listen_of_listensTo hlistens
        have hsame : s.beat (.listen channel) = s := listen_of_nil hsent
        have hrest := ih (released_beat h (.listen channel)) (hsame.symm ▸ hsent)
        rw [askedThrough, hrest, hsame, Nat.sub_self, List.append_nil]
        exact ite_self _
      · have hstill : (s.beat b).sentTo channel = [] := by
          rw [s.sentTo_beat_of_others hlistens, hsent, if_neg h.sender_ne]
          rfl
        rw [askedThrough, if_neg hlistens, ih (released_beat h b) hstill]
        rfl

/-- The confirmations that a listener asks for in a run are those of a part of the run. -/
theorem askedThrough_ordered (s : Shift) (beats : List Beat) :
    (s.askedThrough channel beats).Pairwise (· < ·) ∧
      ∀ n ∈ s.askedThrough channel beats,
        s.submitted.length ≤ n ∧ n < (s.run beats).submitted.length := by
  induction beats generalizing s with
  | nil => exact ⟨.nil, fun _ hn => (nomatch hn)⟩
  | cons b beats ih =>
      obtain ⟨hordered, hrange⟩ := ih (s.beat b)
      have hgrows := (s.submitted_grows_run [b]).length_le
      have hgrows' := ((s.beat b).submitted_grows_run beats).length_le
      change s.submitted.length ≤ (s.beat b).submitted.length at hgrows
      have hfirst : ∀ n ∈ (if b.listensTo channel then List.range' s.submitted.length
          ((s.beat b).submitted.length - s.submitted.length) else []),
          s.submitted.length ≤ n ∧ n < (s.beat b).submitted.length := by
        intro n hn
        split at hn
        · have hn := List.mem_range'_1.1 hn
          omega
        · cases hn
      refine ⟨List.pairwise_append.2 ⟨?_, hordered, fun n hn m hm => ?_⟩, fun n hn => ?_⟩
      · split
        · exact List.pairwise_lt_range'
        · exact .nil
      · exact Nat.lt_of_lt_of_le (hfirst n hn).2 (hrange m hm).1
      · rcases List.mem_append.1 hn with hn | hn
        · exact ⟨(hfirst n hn).1, Nat.lt_of_lt_of_le (hfirst n hn).2 hgrows'⟩
        · exact ⟨Nat.le_trans hgrows (hrange n hn).1, (hrange n hn).2⟩

/-- What listeners ask for when they take events is what the events want. -/
theorem flatMap_heardAs (events : List TapEvent) :
    events.flatMap heardAs =
      (Exchange.wanted events).map fun (id, identity) => ⟨id, identity, none⟩ := by
  induction events with
  | nil => rfl
  | cons event events ih =>
      rw [List.flatMap_cons, Exchange.wanted_cons, List.map_append, ih, heardAs]

/-- **All that was sent through a channel has come to its outcomes when a flush succeeds**, if
nobody holds the channel and its listener has taken everything when the flush begins. -/
theorem flushed_after_taps {desk : Desk} (hdesk : desk.resolved = []) (router : Router)
    (before after : List Beat) (channel : Nat) (mishaps : List (Option Mishap)) :
    let s₀ := begin desk router 0
    let s₁ := s₀.run before
    let beats := before ++ .outside .flush mishaps :: after
    let s := s₀.run beats
    Released channel s₁.session.router → s₁.sentTo channel = [] →
    (s₁.session.tickets, .flushed (.ok ())) ∈ s.session.desk.resolved →
    ∃ ended : List Ended, ended.Sublist s.ended ∧
      ended.map Ended.number = s₀.askedThrough channel beats ∧
      ended.map Ended.asked =
        (Exchange.wanted (s₀.sentThrough channel beats)).map fun (id, identity) =>
          ⟨id, identity, none⟩ := by
  intro s₀ s₁ beats s hreleased hsent hok
  have hturn₀ : s₀.InTurn := begin_inTurn desk router 0
  have hserved₀ : s₀.Served := begin_served desk router 0
  have haccounted₁ := accounted_run hturn₀ (begin_accounted hdesk router) before
  have hrun : s = (s₁.beat (.outside .flush mishaps)).run after := run_append s₀ before _
  have hserved : s.Served := hserved₀.run hturn₀ beats
  have hgrows : s₁.submitted <+: s.submitted :=
    hrun ▸ s₁.submitted_grows_run (.outside .flush mishaps :: after)
  rw [hrun] at hok
  obtain ⟨hrunning₁, hended⟩ :=
    ended_of_flushed (hturn₀.run before) haccounted₁ (hserved₀.run hturn₀ before) mishaps after hok
  rw [← hrun] at hended
  -- the listener has asked for all that was sent, and has nothing to ask for later
  obtain ⟨-, heard, hheard, hasked⟩ := @through_run s₀ channel hturn₀ before hrunning₁
  have hall : s₀.sentThrough channel beats = heard := by
    rw [sentThrough_append, sentThrough_of_released hreleased, List.append_nil]
    exact hheard.trans (hsent ▸ List.append_nil heard)
  have hnumbers : s₀.askedThrough channel beats = s₀.askedThrough channel before := by
    rw [askedThrough_append, askedThrough_of_released hreleased hsent, List.append_nil]
  obtain ⟨hordered, hrange⟩ := @askedThrough_ordered channel s₀ before
  rw [hall, hnumbers, ← flatMap_heardAs]
  refine hserved.pick hordered (fun n hn => Nat.lt_of_lt_of_le (hrange n hn).2 hended) ?_
  rw [← hasked]
  refine List.map_congr_left fun n hn => ?_
  have hfound := List.getElem?_eq_getElem (hrange n hn).2
  rw [hfound]
  exact getElem?_mono hgrows hfound

end Shift

end MacConsent.Session
