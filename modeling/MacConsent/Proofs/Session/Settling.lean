import MacConsent.Proofs.Session.InTurn
import MacConsent.Proofs.Session.Watch

/-!
# MacConsent.Proofs.Session.Settling

A session that settles after every step is a shift in which everybody takes
their turn at once: first the listeners take what was sent to them, then the
worker goes on, request by request and without mishaps, until it has nothing
left to do (`Shift.exists_beats_run`).
-/

namespace MacConsent.Session

open Desk (Asked Pending)
open Queue (Leads turns)
open Remedy (Plan)

/-! ## settling, item by item -/

section Settle

variable {s : Session} {items : List (Queue.Item Asked)}

/-- A queue with nothing in it waits for more, unless its owner has let go of it. -/
theorem settle_idle (hrunning : s.queue.worker = .running) (hcurrent : s.queue.current = none)
    (hwaiting : s.queue.waiting = []) :
    s.settle =
      if s.queue.held then s
      else { s with
        desk := Desk.work.drain s.desk, queue := { s.queue with worker := .drained } } := by
  obtain ⟨desk, ⟨waiting, current, worker, held⟩, router, tickets⟩ := s
  cases hrunning
  cases hcurrent
  cases hwaiting
  cases held <;> rfl

/-- A barrier is passed, and the rest has its turn. -/
theorem settle_barrier {ticket : Nat} (hrunning : s.queue.worker = .running)
    (hcurrent : s.queue.current = none) (hwaiting : s.queue.waiting = .barrier ticket :: items) :
    s.settle =
      settle { s with
        desk := Desk.work.pass ticket s.desk, queue := { s.queue with waiting := items } } := by
  obtain ⟨desk, ⟨waiting, current, worker, held⟩, router, tickets⟩ := s
  cases hrunning
  cases hcurrent
  cases hwaiting
  rfl

/-- A confirmation is begun; the rest has its turn if it is done. -/
theorem settle_job {asked : Asked} (hrunning : s.queue.worker = .running)
    (hcurrent : s.queue.current = none) (hwaiting : s.queue.waiting = .job asked :: items) :
    s.settle =
      let (desk, current) := s.desk.start asked
      let s := { s with desk, queue := { s.queue with waiting := items, current } }
      if current.isSome then s else s.settle := by
  obtain ⟨desk, ⟨waiting, current, worker, held⟩, router, tickets⟩ := s
  cases hrunning
  cases hcurrent
  cases hwaiting
  simp only [settle, Queue.Serial.settle, Queue.Serial.consume]
  have hwork : Desk.work.start asked desk = desk.start asked := rfl
  rw [hwork]
  cases hstart : desk.start asked with
  | mk desk' current => cases current <;> rfl

end Settle

/-- Whether something comes from outside. -/
def Beat.isOutside : Beat → Bool
  | .outside .. => true
  | _ => false

namespace Shift

/-! ## beats of the worker -/

variable {s s' : Shift} {n : Nat} {asked : Asked}

/-- A worker with nothing in hand can be stopped. -/
theorem isSuspended_of_none (h : s.hand = none) : s.isSuspended = true := by
  rw [isSuspended, h]
  rfl

/-- Whatever comes from outside in a run comes where the worker is suspended. -/
def Timely : Shift → List Beat → Prop
  | _, [] => True
  | s, b :: beats =>
    (b.isOutside = true → s.isSuspended = true) ∧ (s.beat b).Timely beats

/-- A timely run may go on from where it has come to. -/
theorem Timely.append {beats more : List Beat} (h : s.Timely beats) (hmore : (s.run beats).Timely more) :
    s.Timely (beats ++ more) := by
  induction beats generalizing s with
  | nil => exact hmore
  | cons b beats ih => exact ⟨h.1, ih h.2 hmore⟩

/-- Turns of the worker alone are timely. -/
theorem timely_works (s : Shift) (works : Nat) : s.Timely (List.replicate works (.work [])) := by
  induction works generalizing s with
  | zero => trivial
  | succ works ih => exact ⟨fun houtside => (by cases houtside), ih _⟩

/-- What the worker comes to by itself, some beats of it come to. -/
theorem exists_works (h : Leads (work? · []) s s') :
    ∃ works, s.run (List.replicate works (.work [])) = s' := by
  obtain ⟨n, rfl⟩ := h
  refine ⟨n, ?_⟩
  induction n generalizing s with
  | zero => rfl
  | succ n ih => exact ih

/-- What the worker can come to, it comes to in a timely run. -/
theorem exists_beats (h : Leads (work? · []) s s') : ∃ beats, s.Timely beats ∧ s.run beats = s' := by
  obtain ⟨works, hworks⟩ := exists_works h
  exact ⟨_, timely_works s works, hworks⟩

/-- A plan in hand is followed to its end. -/
theorem leads_plan {α : Type} {stage : Plan α → Stage}
    (hcall : ∀ (s : Shift) (r : Remedy.Request) (next : r.Answer → Plan α),
      s.goOn? ⟨n, asked, stage (.call r next)⟩ [] =
        some (s.request ⟨n, asked, stage (.call r next)⟩ r (fun a => stage (next a)) []))
    {plan : Plan α} (hhand : s.hand = some ⟨n, asked, stage plan⟩) {a : α} {desk : Desk}
    (hrun : (plan.run Desk.carryOut).run s.session.desk = (a, desk)) :
    ∃ s', Leads (work? · []) s s' ∧ s'.sent = s.sent ∧ s'.taken = s.taken ∧
      s'.hand = some ⟨n, asked, stage (.done a)⟩ ∧ s'.session = { s.session with desk } := by
  induction plan generalizing s with
  | done a =>
      cases hrun
      exact ⟨s, .refl s, rfl, rfl, hhand, rfl⟩
  | call r next ih =>
      let answered := (Desk.carryOut r).run s.session.desk
      let after := ({ s with hand := some ⟨n, asked, stage (next answered.1)⟩ } : Shift).noted
        (some (n, asked)) answered.2
      have hwork : s.work? [] = some after := by
        rw [work?, hhand]
        refine (hcall s r next).trans ?_
        rw [request, Desk.carryOutAmid_nil]
        rfl
      have hafter : after.hand = some ⟨n, asked, stage (next answered.1)⟩ := rfl
      obtain ⟨s', hleads, hsent, htaken, hhand', hsession⟩ := ih _ hafter hrun
      exact ⟨s', .turn hwork hleads, hsent, htaken, hhand', hsession⟩

/-- A confirmation that has got its choice is brought to its outcome. -/
theorem leads_conclude {p : Profile} {choice : Dialog.Choice}
    (hhand : s.hand = some ⟨n, asked,
      .concluding (Remedy.conclude s.session.desk.messages asked.id p choice)⟩) :
    ∃ s', Leads (work? · []) s s' ∧ s'.sent = s.sent ∧ s'.hand = none ∧
      s'.session =
        { s.session with desk := s.session.desk.conclude ⟨asked, p⟩ choice } := by
  obtain ⟨outcome, desk, hrun⟩ : ∃ outcome desk,
      ((Remedy.conclude s.session.desk.messages asked.id p choice).run Desk.carryOut).run
        s.session.desk = (outcome, desk) := ⟨_, _, rfl⟩
  obtain ⟨s₁, hleads, hsent, -, hhand₁, hsession⟩ := leads_plan (fun _ _ _ => rfl) hhand hrun
  have hwork : s₁.work? [] = some (s₁.finish ⟨n, asked, .concluding (.done outcome)⟩ outcome) := by
    rw [work?, hhand₁]
    rfl
  refine ⟨_, hleads.trans (.turn hwork (.refl _)), hsent, rfl, ?_⟩
  simp only [finish, hsession, Desk.conclude, hrun]

/-- The shift with the first confirmation of the queue in hand. -/
def withFirst (s : Shift) (asked : Asked) (items : List (Queue.Item Asked)) : Shift :=
  { s with
    session := { s.session with queue := { s.session.queue with waiting := items } }
    hand := some ⟨s.taken, asked,
      .checking (Remedy.check s.session.desk.messages asked.id asked.identity)⟩
    taken := s.taken + 1 }

/-- What a running worker takes next. -/
theorem take?_running (hrunning : s.session.queue.worker = .running) :
    s.take? =
      match s.session.queue.waiting with
      | .job asked :: items => some (s.withFirst asked items)
      | .barrier ticket :: items =>
        some { s with session := { s.session with
          desk := Desk.work.pass ticket s.session.desk
          queue := { s.session.queue with waiting := items } } }
      | [] =>
        if s.session.queue.held then none
        else
          some { s with session := { s.session with
            desk := Desk.work.drain s.session.desk
            queue := { s.session.queue with worker := .drained } } } := by
  obtain ⟨⟨desk, ⟨waiting, current, worker, held⟩, router, tickets⟩⟩ := s
  cases hrunning
  cases waiting with
  | nil => rfl
  | cons item items => cases item <;> rfl

/-- A confirmation that the worker takes in hand is begun: it is brought to its outcome, or it
waits at its dialog. -/
theorem leads_start {items : List (Queue.Item Asked)}
    (hrunning : s.session.queue.worker = .running) (hhand : s.hand = none)
    (hcurrent : s.session.queue.current = none)
    (hwaiting : s.session.queue.waiting = .job asked :: items) :
    ∃ s', Leads (work? · []) s s' ∧ s'.sent = s.sent ∧ s'.isSuspended = true ∧
      ((s.session.desk.start asked).2 = none → s'.hand = none) ∧
      s'.session = { s.session with
        desk := (s.session.desk.start asked).1
        queue := { s.session.queue with
          waiting := items, current := (s.session.desk.start asked).2 } } := by
  let plan := Remedy.check s.session.desk.messages asked.id asked.identity
  have htake : s.work? [] = some (s.withFirst asked items) := by
    rw [work?, hhand]
    dsimp only
    rw [take?_running hrunning, hwaiting]
  have hhand₀ : (s.withFirst asked items).hand = some ⟨s.taken, asked, .checking plan⟩ := rfl
  obtain ⟨checked, desk, hrun⟩ : ∃ checked desk,
      (plan.run Desk.carryOut).run s.session.desk = (checked, desk) := ⟨_, _, rfl⟩
  obtain ⟨s₁, hleads, hsent, -, hhand₁, hsession⟩ := leads_plan (fun _ _ _ => rfl) hhand₀ hrun
  have hchecked := Leads.turn htake hleads
  rw [Desk.start, hrun]
  cases checked with
  | error fault =>
      have hwork : s₁.work? [] =
          some (s₁.finish ⟨s.taken, asked, .checking (.done (.error fault))⟩ (.invalidated fault)) := by
        rw [work?, hhand₁]
        rfl
      refine ⟨_, hchecked.trans (.turn hwork (.refl _)), hsent, rfl, fun _ => rfl, ?_⟩
      simp only [finish, hsession, withFirst, hcurrent]
  | ok p =>
      have hwork : s₁.work? [] =
          some (s₁.openDialog ⟨s.taken, asked, .checking (.done (.ok p))⟩ p) := by
        rw [work?, hhand₁]
        rfl
      have hasked : ∀ request, (desk.called (.dialog request)).answers = desk.answers := fun _ => rfl
      rw [openDialog, hsession] at hwork
      dsimp only [withFirst] at hwork ⊢
      rw [hasked] at hwork ⊢
      cases hanswers : desk.answers with
      | cons choice answers =>
          rw [hanswers] at hwork
          obtain ⟨s₂, hs₂⟩ : ∃ s₂, s₁.work? [] = some s₂ := ⟨_, hwork⟩
          have hstage : s₂.hand = some ⟨s.taken, asked,
              .concluding (Remedy.conclude s₂.session.desk.messages asked.id p choice)⟩ := by
            cases hwork.symm.trans hs₂
            rfl
          obtain ⟨s', hconclude, hsent', hhand', hsession'⟩ := leads_conclude hstage
          refine ⟨s', hchecked.trans (.turn hs₂ hconclude), ?_, ?_, fun _ => hhand', ?_⟩
          · cases hwork.symm.trans hs₂
            exact hsent'.trans hsent
          · exact isSuspended_of_none hhand'
          · cases hwork.symm.trans hs₂
            rw [hsession']
            simp only [noted, hcurrent]
      | nil =>
          rw [hanswers] at hwork
          refine ⟨_, hchecked.trans (.turn hwork (.refl _)), hsent, rfl, fun hnone => ?_, ?_⟩
          · cases hnone
          · rfl

/-- **The worker settles** by taking one turn after another. -/
theorem leads_settle (hhand : s.hand = none) (hcurrent : s.session.queue.current = none) :
    ∃ s', Leads (work? · []) s s' ∧ s'.sent = s.sent ∧ s'.isSuspended = true ∧
      s'.session = s.session.settle := by
  have hsuspended := isSuspended_of_none hhand
  by_cases hrunning : s.session.queue.worker = .running
  · generalize hwaiting : s.session.queue.waiting = items
    induction items generalizing s with
    | nil =>
        have htake : s.work? [] = s.take? := by rw [work?, hhand]
        rw [take?_running hrunning, hwaiting] at htake
        rw [settle_idle hrunning hcurrent hwaiting]
        cases hheld : s.session.queue.held with
        | true => exact ⟨s, .refl s, rfl, hsuspended, rfl⟩
        | false =>
            rw [hheld] at htake
            exact ⟨_, .turn htake (.refl _), rfl, hsuspended, rfl⟩
    | cons item items ih =>
        cases item with
        | barrier ticket =>
            let s₁ : Shift := { s with session := { s.session with
              desk := Desk.work.pass ticket s.session.desk
              queue := { s.session.queue with waiting := items } } }
            have hwork : s.work? [] = some s₁ := by
              rw [work?, hhand]
              dsimp only
              rw [take?_running hrunning, hwaiting]
            obtain ⟨s', hleads, hsent, hrest⟩ := ih (s := s₁) hhand hcurrent hsuspended hrunning rfl
            rw [settle_barrier hrunning hcurrent hwaiting]
            exact ⟨s', .turn hwork hleads, hsent, hrest⟩
        | job asked =>
            rw [settle_job hrunning hcurrent hwaiting]
            obtain ⟨s₁, hleads, hsent, hsuspended₁, hhand₁, hsession⟩ :=
              leads_start hrunning hhand hcurrent hwaiting
            cases hstart : s.session.desk.start asked with
            | mk desk current =>
                rw [hstart] at hhand₁ hsession
                cases current with
                | some pending => exact ⟨s₁, hleads, hsent, hsuspended₁, hsession⟩
                | none =>
                    obtain ⟨s', hleads', hsent', hsuspended', hsession'⟩ :=
                      ih (s := s₁) (hhand₁ rfl) (by rw [hsession]) hsuspended₁
                        (by rw [hsession]; exact hrunning) (by rw [hsession])
                    refine ⟨s', hleads.trans hleads', hsent'.trans hsent, hsuspended', ?_⟩
                    rw [hsession', hsession]
                    rfl
  · rw [settle_of_not_ready fun hready => hrunning hready.1]
    exact ⟨s, .refl s, rfl, hsuspended, rfl⟩

/-! ## beats of the others -/

/-- Beats are run one after the other. -/
theorem run_append (s : Shift) (beats more : List Beat) :
    s.run (beats ++ more) = (s.run beats).run more :=
  List.foldl_append

/-- The listeners take all that was sent to one of them. -/
theorem exists_beats_hear {channel : Nat} {events : List TapEvent}
    (hsent : s.sent = events.map (channel, ·)) :
    ∃ beats, s.Timely beats ∧ (s.run beats).session = s.session.hearAll events ∧
      (s.run beats).sent = [] ∧ (s.run beats).hand = s.hand := by
  induction events generalizing s with
  | nil => exact ⟨[], trivial, rfl, hsent, rfl⟩
  | cons event events ih =>
      have hfirst : s.sent.find? (·.1 == channel) = some (channel, event) := by
        rw [hsent]
        simp
      have hrest : s.sent.eraseP (·.1 == channel) = events.map (channel, ·) := by
        rw [hsent]
        simp
      have hlisten : (s.listen channel).session = s.session.hear event ∧
          (s.listen channel).sent = events.map (channel, ·) ∧ (s.listen channel).hand = s.hand := by
        rw [listen, hfirst]
        exact ⟨rfl, hrest, rfl⟩
      obtain ⟨beats, htimely, hsession, hnone, hhand⟩ := ih hlisten.2.1
      refine ⟨.listen channel :: beats, ⟨fun houtside => (by cases houtside), htimely⟩, ?_, hnone, hhand.trans hlisten.2.2⟩
      rw [hlisten.1] at hsession
      exact hsession

/-- A direct change leaves the taps on their way and the confirmation in hand. -/
theorem edit_others (s : Shift) (c : Store.Change) (mishaps : List (Option Store.Mishap)) :
    (s.edit c mishaps).sent = s.sent ∧ (s.edit c mishaps).hand = s.hand := by
  unfold edit
  split <;> exact ⟨rfl, rfl⟩

/-- Changes without mishaps are the direct changes of a session. -/
theorem edit_session {c : Store.Change} {α : Type}
    {op : Store.Durable → StateM Store.Bench (Except Store.Fault (α × Store.Durable))}
    {result : α → Result}
    (hop : ∀ store, c.run Store.Backing.bench store = do return (← op store).map Prod.snd) :
    (s.edit c []).session = (s.session.onDurable op result).2 := by
  rw [edit, onDurable]
  cases hstore : s.session.desk.store with
  | memory m => rfl
  | durable store =>
      dsimp only
      rw [Desk.changed_nil, hop]
      obtain ⟨result, bench, hrun⟩ : ∃ result bench,
          (op store).run ⟨s.session.desk.tree, []⟩ = (result, bench) := ⟨_, _, rfl⟩
      simp only [Desk.withFiles, StateT.run_bind, hrun]
      cases result with
      | error fault =>
          exact congrArg (fun store => { s.session with desk := { s.session.desk with
            store, tree := bench.tree, log := s.session.desk.log ++ bench.notes.map Entry.traced } })
            hstore.symm
      | ok done => rfl

/-- The events that were sent are taken at once. -/
theorem exists_beats_send (hsent : s.sent = []) (events : List TapEvent) :
    ∃ beats, (s.send events).Timely beats ∧
      ((s.send events).run beats).session =
        s.session.hearAll (s.session.router.heard events) ∧
      ((s.send events).run beats).sent = [] ∧ ((s.send events).run beats).hand = s.hand := by
  have hsent' : (s.send events).sent =
      (s.session.router.heard events).map (s.session.router.sender.getD 0, ·) := by
    rw [send, hsent]
    exact List.nil_append _
  exact exists_beats_hear hsent'

/-- A reply is acted on at once. -/
theorem exists_beats_reply (h : s.InTurn) (hsent : s.sent = []) (hsuspended : s.isSuspended = true)
    (choice : Dialog.Choice) :
    ∃ beats, s.Timely beats ∧ (s.run beats).session = (s.session.reply choice).2 ∧
      (s.run beats).sent = [] ∧ (s.run beats).isSuspended = true := by
  have hfirst : ∀ beats, (s.reply choice).Timely beats →
      s.Timely (.outside (.reply choice) :: beats) := fun _ htimely =>
    ⟨fun _ => hsuspended, htimely⟩
  by_cases hunanswered : s.session.desk.unanswered = true
  · cases hhand : s.hand with
    | none =>
        have hcurrent : s.session.queue.current = none := by rw [h.current, hhand]; rfl
        have hreply : s.reply choice = { s with session := (s.session.reply choice).2 } := by
          simp only [Shift.reply, Session.reply, hunanswered, hhand, hcurrent, if_true]
        refine ⟨[.outside (.reply choice)], hfirst [] trivial, ?_⟩
        change (s.reply choice).session = _ ∧ (s.reply choice).sent = [] ∧
          (s.reply choice).isSuspended = true
        rw [hreply]
        exact ⟨rfl, hsent, isSuspended_of_none hhand⟩
    | some hd =>
        obtain ⟨number, asked, stage⟩ := hd
        cases stage with
        | checking plan => rw [isSuspended, hhand] at hsuspended; cases hsuspended
        | concluding plan => rw [isSuspended, hhand] at hsuspended; cases hsuspended
        | asking p =>
            have hcurrent : s.session.queue.current = some ⟨asked, p⟩ := h.current_hand hhand
            obtain ⟨hsession₁, hsent₁, hhand₁⟩ :
                (s.reply choice).session =
                    { s.session with
                      desk := { s.session.desk with unanswered := false }
                      queue := s.session.queue.finish } ∧
                  (s.reply choice).sent = s.sent ∧
                  (s.reply choice).hand = some ⟨number, asked, .concluding
                    (Remedy.conclude (s.reply choice).session.desk.messages asked.id p choice)⟩ := by
              rw [Shift.reply, if_pos hunanswered, hhand]
              exact ⟨rfl, rfl, rfl⟩
            obtain ⟨s₂, hleads, hsent₂, hhand₂, hsession₂⟩ := leads_conclude hhand₁
            obtain ⟨beats, htimely, rfl⟩ := exists_beats hleads
            refine ⟨.outside (.reply choice) :: beats, hfirst beats htimely, ?_, ?_,
              isSuspended_of_none hhand₂⟩
            · refine hsession₂.trans ?_
              rw [hsession₁, Session.reply, if_pos hunanswered]
              simp only [hcurrent]
            · exact hsent₂.trans (hsent₁.trans hsent)
  · have hreply : s.reply choice = s := by rw [Shift.reply, if_neg hunanswered]
    have hsession : (s.session.reply choice).2 = s.session := by
      rw [Session.reply, if_neg hunanswered]
    refine ⟨[.outside (.reply choice)], hfirst [] trivial, ?_⟩
    change (s.reply choice).session = _ ∧ (s.reply choice).sent = [] ∧
      (s.reply choice).isSuspended = true
    rw [hreply, hsession]
    exact ⟨rfl, hsent, hsuspended⟩

/-- What a step from outside does at once, some beats do. -/
theorem exists_beats_act (h : s.InTurn) (hsent : s.sent = []) (hsuspended : s.isSuspended = true)
    (e : Step) :
    ∃ beats, s.Timely beats ∧ (s.run beats).session = (s.session.act e).2 ∧
      (s.run beats).sent = [] ∧ (s.run beats).isSuspended = true := by
  have hplain : ∀ e, (s.outside e []).session = (s.session.act e).2 → (s.outside e []).sent = s.sent →
      (s.outside e []).hand = s.hand →
      ∃ beats, s.Timely beats ∧ (s.run beats).session = (s.session.act e).2 ∧
        (s.run beats).sent = [] ∧ (s.run beats).isSuspended = true := by
    intro e hsession hsame hhand
    refine ⟨[.outside e], ⟨fun _ => hsuspended, trivial⟩, hsession, hsame.trans hsent, ?_⟩
    change (s.outside e []).isSuspended = true
    rw [isSuspended, hhand]
    exact hsuspended
  have hsend : ∀ e events, s.outside e [] = s.send events →
      (s.session.act e).2 = s.session.hearAll (s.session.router.heard events) →
      ∃ beats, s.Timely beats ∧ (s.run beats).session = (s.session.act e).2 ∧
        (s.run beats).sent = [] ∧ (s.run beats).isSuspended = true := by
    intro e events houtside hact
    obtain ⟨beats, htimely, hsession, hnone, hhand⟩ := exists_beats_send hsent events
    rw [← houtside] at htimely hsession hnone hhand
    refine ⟨.outside e :: beats, ⟨fun _ => hsuspended, htimely⟩, hsession.trans hact.symm,
      hnone, ?_⟩
    rw [isSuspended, show (s.run (.outside e :: beats)).hand = s.hand from hhand]
    exact hsuspended
  cases e with
  | reply choice => exact exists_beats_reply h hsent hsuspended choice
  | stop =>
      have hstop : s.stop.session = s.session.stop ∧ s.stop.sent = s.sent ∧ s.stop.hand = none := by
        rw [Shift.stop, if_pos hsuspended]
        exact ⟨rfl, rfl, rfl⟩
      exact ⟨[.outside .stop], ⟨fun _ => hsuspended, trivial⟩, hstop.1, hstop.2.1.trans hsent,
        isSuspended_of_none hstop.2.2⟩
  | add p =>
      obtain ⟨hsame, hhand⟩ := edit_others s (.add p) []
      exact hplain (.add p) (edit_session fun _ => rfl) hsame hhand
  | update p =>
      obtain ⟨hsame, hhand⟩ := edit_others s (.update p directUid) []
      refine hplain (.update p) (edit_session fun store => ?_) hsame hhand
      simp only [Store.Change.run, bind_assoc, pure_bind]
      refine (bind_pure _).symm.trans (bind_congr fun result => ?_)
      cases result <;> rfl
  | route e =>
      cases e with
      | send events => exact hsend _ events rfl rfl
      | _ => exact hplain _ rfl rfl rfl
  | tap =>
      cases hboard : s.session.desk.board.find? noticeNumber with
      | none =>
          refine hplain .tap ?_ ?_ ?_ <;> simp only [outside, act, hboard]
      | some notification =>
          refine hsend .tap [notification.tapAction] ?_ ?_ <;> simp only [outside, act, hboard]
  | _ => exact hplain _ rfl rfl rfl

/-- **A step of a session that settles is a timely run.** -/
theorem exists_beats_step (h : s.InTurn) (hsent : s.sent = []) (hsuspended : s.isSuspended = true)
    (e : Step) :
    ∃ beats, s.Timely beats ∧ (s.run beats).session = (s.session.step e).2 ∧
      (s.run beats).sent = [] ∧ (s.run beats).isSuspended = true := by
  obtain ⟨beats, htimely, hsession, hsent, hsuspended⟩ := exists_beats_act h hsent hsuspended e
  have hafter := h.run beats
  cases hhand : (s.run beats).hand with
  | none =>
      have hcurrent : (s.run beats).session.queue.current = none := by
        rw [hafter.current, hhand]
        rfl
      obtain ⟨s', hleads, hsent', hsuspended', hsession'⟩ := leads_settle hhand hcurrent
      obtain ⟨more, htimely', rfl⟩ := exists_beats hleads
      refine ⟨beats ++ more, htimely.append htimely', ?_⟩
      rw [run_append]
      exact ⟨hsession'.trans (congrArg settle hsession), hsent'.trans hsent, hsuspended'⟩
  | some hd =>
      refine ⟨beats, htimely, ?_, hsent, hsuspended⟩
      have hwaits : hd.pending?.isSome = true := by
        rwa [isSuspended, hhand, Option.all_some] at hsuspended
      have hstays : (s.run beats).session.settle = (s.run beats).session := by
        refine settle_of_not_ready fun hready => ?_
        rw [← hafter.current_hand hhand, hready.2] at hwaits
        cases hwaits
      rw [← hstays, hsession]
      rfl

/-- **Every run of a session is one of a shift**, in which all that comes from outside comes where the
worker is suspended. -/
theorem exists_beats_run (desk : Desk) (router : Router) (tickets : Nat) (steps : List Step) :
    ∃ beats, (begin desk router tickets).Timely beats ∧
      ((begin desk router tickets).run beats).session =
        ({ desk, router, tickets } : Session).run steps := by
  have hsteps : ∀ s : Shift, s.InTurn → s.sent = [] → s.isSuspended = true →
      ∃ beats, s.Timely beats ∧ (s.run beats).session = s.session.run steps := by
    induction steps with
    | nil => exact fun s _ _ _ => ⟨[], trivial, rfl⟩
    | cons e steps ih =>
        intro s h hsent hsuspended
        obtain ⟨beats, htimely, hsession, hsent', hsuspended'⟩ :=
          exists_beats_step h hsent hsuspended e
        obtain ⟨more, htimely', hmore⟩ := ih (s.run beats) (h.run beats) hsent' hsuspended'
        refine ⟨beats ++ more, htimely.append htimely', ?_⟩
        rw [run_append, hmore, hsession]
        rfl
  exact hsteps _ (begin_inTurn desk router tickets) rfl rfl

end Shift

end MacConsent.Session
