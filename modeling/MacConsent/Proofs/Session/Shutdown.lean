import MacConsent.Proofs.CommandLine.Confirmation
import MacConsent.Proofs.Session.Channel

/-!
# MacConsent.Proofs.Session.Shutdown

How a session is brought to its end without losing a tap
(`Shift.shutdown_loses_no_tap`).  Two stages follow each other: a listener, which
ends when nobody holds its channel and nothing is on its way to it, and the
worker, which comes to a barrier when all before it is done.  The command that
offers a remedy goes this way (`remedySteps`): until it taps its notification
nobody else has a turn, and afterwards no second event is sent, so its flush
succeeds after exactly one confirmation.
-/

namespace MacConsent.Session

open Desk (Asked)
open Store (Mishap)

/-! ## the course of a command -/

/-- What is done from outside, apart from the choices of the user. -/
def Beat.own? : Beat → Option Step
  | .outside (.reply _) _ => none
  | .outside e _ => some e
  | _ => none

/-- What the command that offers a remedy does up to its flush. -/
def remedySteps (id : NetworkId) : List Step :=
  [.route .register, .route .takeSender, .route .close, .notify id, .tap, .route .dropSender]

/-- A beat in which the command sends nothing and asks for no confirmation. -/
def Beat.Closing (b : Beat) : Prop :=
  b.own? = none ∨ b.own? = some (.route .dropSender) ∨ b.own? = some .flush

namespace Shift

variable {s : Shift} {b : Beat} {channel : Nat}

/-- Nothing is on its way and nothing is asked for. -/
structure Idle (s : Shift) : Prop where
  sent : s.sent = []
  hand : s.hand = none
  waiting : s.session.queue.waiting = []
  held : s.session.queue.held = true
  answered : s.session.desk.unanswered = false

/-- Neither a listener nor the worker nor the user has a turn then. -/
theorem Idle.beat (h : s.Idle) (hown : b.own? = none) : s.beat b = s := by
  cases b with
  | listen channel => exact listen_of_nil (by rw [sentTo, h.sent]; rfl)
  | work mishaps =>
      have htake : s.take? = none := by
        simp only [take?, h.waiting, h.held]
        cases s.session.queue.worker <;> rfl
      rw [Shift.beat, work?, h.hand, htake]
      rfl
  | outside e mishaps =>
      cases e with
      | reply choice =>
          rw [Shift.beat, outside, reply, h.answered]
          rfl
      | _ => cases hown

/-- Listeners, the worker and the user find nothing to do in an idle shift. -/
theorem Idle.run (h : s.Idle) {beats : List Beat} (hown : ∀ b ∈ beats, b.own? = none) :
    s.run beats = s := by
  induction beats with
  | nil => rfl
  | cons b beats ih =>
      have hrest := ih fun b' hb' => hown b' (List.mem_cons_of_mem b hb')
      have hsame := h.beat (hown b List.mem_cons_self)
      exact (congrArg (·.run beats) hsame).trans hrest

/-- What listeners, the worker and the user do sends nothing. -/
theorem sends_of_own (s : Shift) (h : b.own? = none) : s.sends b = [] := by
  cases b with
  | outside e mishaps =>
      cases e with
      | reply choice => rfl
      | _ => cases h
  | _ => rfl

theorem eq_outside_of_own {e : Step} (h : b.own? = some e) : ∃ mishaps, b = .outside e mishaps := by
  cases b with
  | outside e' mishaps =>
      refine ⟨mishaps, ?_⟩
      cases e' with
      | reply choice => cases h
      | _ =>
          cases h
          rfl
  | _ => cases h

/-- The next thing that is done from outside is the next thing that happens. -/
theorem Idle.next (h : s.Idle) {beats : List Beat} {e : Step} {rest : List Step}
    (hsteps : beats.filterMap Beat.own? = e :: rest) :
    ∃ mishaps more, more.filterMap Beat.own? = rest ∧
      s.run beats = (s.outside e mishaps).run more ∧
      s.sentThrough channel beats =
        (if s.session.router.sender = some channel then s.sends (.outside e mishaps) else []) ++
          (s.outside e mishaps).sentThrough channel more := by
  obtain ⟨first, b, more, rfl, hfirst, hb, hmore⟩ := List.filterMap_eq_cons_iff.1 hsteps
  obtain ⟨mishaps, rfl⟩ := eq_outside_of_own hb
  refine ⟨mishaps, more, hmore, ?_, ?_⟩
  · rw [run_append, h.run hfirst]
    rfl
  · rw [sentThrough_append, h.run hfirst,
      s.sentThrough_of_sends fun b hb s => s.sends_of_own (hfirst b hb)]
    rfl

/-- When the command has tapped its notification, one event is on its way. -/
theorem run_remedy {desk : Desk} (hdesk : desk.unanswered = false) {id : NetworkId} {p : Profile}
    (hfound : desk.store.find? id = some p) {before : List Beat}
    (hsteps : before.filterMap Beat.own? = remedySteps id) :
    let s₀ := begin desk {} 0
    let event := Offer.tapEvent ⟨id, p.identity⟩
    ∃ (s : Shift) (more : List Beat),
      more.filterMap Beat.own? = [.route .dropSender] ∧ s₀.run before = s.run more ∧
      s₀.sentThrough 0 before = event :: s.sentThrough 0 more ∧ s.sent = [(0, event)] ∧
      s.submitted = [] ∧ s.session.router = ⟨none, some 0, 1⟩ ∧ s.InTurn := by
  intro s₀ event
  have h₀ : s₀.Idle := ⟨rfl, rfl, rfl, rfl, hdesk⟩
  obtain ⟨m₁, more₁, hmore₁, hrun₁, hsent₁⟩ := @Idle.next _ 0 h₀ _ _ _ hsteps
  let s₁ := s₀.outside (.route .register) m₁
  have h₁ : s₁.Idle := ⟨rfl, rfl, rfl, rfl, hdesk⟩
  obtain ⟨m₂, more₂, hmore₂, hrun₂, hsent₂⟩ := @Idle.next _ 0 h₁ _ _ _ hmore₁
  let s₂ := s₁.outside (.route .takeSender) m₂
  have h₂ : s₂.Idle := ⟨rfl, rfl, rfl, rfl, hdesk⟩
  obtain ⟨m₃, more₃, hmore₃, hrun₃, hsent₃⟩ := @Idle.next _ 0 h₂ _ _ _ hmore₂
  let s₃ := s₂.outside (.route .close) m₃
  have h₃ : s₃.Idle := ⟨rfl, rfl, rfl, rfl, hdesk⟩
  obtain ⟨m₄, more₄, hmore₄, hrun₄, hsent₄⟩ := @Idle.next _ 0 h₃ _ _ _ hmore₃
  let s₄ := s₃.outside (.notify id) m₄
  have haside := Desk.untouched_of_aside (Remedy.offer_aside desk.messages id) desk
  have h₄ : s₄.Idle := ⟨rfl, rfl, rfl, rfl, haside.unanswered.trans hdesk⟩
  obtain ⟨m₅, more₅, hmore₅, hrun₅, hsent₅⟩ := @Idle.next _ 0 h₄ _ _ _ hmore₄
  have hboard : s₄.session.desk.board.find? noticeNumber =
      some (Remedy.notice desk.messages p ⟨id, p.identity⟩) :=
    Desk.board_offer hfound desk.messages
  have htap : s₄.outside .tap m₅ = s₄.send [event] := by
    rw [outside, hboard]
    rfl
  have hsends : s₄.sends (.outside .tap m₅) = [event] := by
    rw [sends, hboard]
    rfl
  have hturn₄ : s₄.InTurn :=
    ((((begin_inTurn desk {} 0).outside _ m₁).outside _ m₂).outside _ m₃).outside _ m₄
  refine ⟨s₄.send [event], more₅, hmore₅, ?_, ?_, rfl, rfl, rfl, hturn₄.send _⟩
  · rw [hrun₁, hrun₂, hrun₃, hrun₄, hrun₅, htap]
  · rw [hsends, htap] at hsent₅
    rw [hsent₁, hsent₂, hsent₃, hsent₄, hsent₅]
    rfl

/-- The channel of a command is let go of when its sender is dropped. -/
theorem released_of_drop (hrouter : s.session.router = ⟨none, some 0, 1⟩) {beats : List Beat}
    (hsteps : beats.filterMap Beat.own? = [.route .dropSender]) :
    Released 0 (s.run beats).session.router := by
  have hkeeps {beats : List Beat} (hown : ∀ b ∈ beats, b.own? = none) (s : Shift) :
      (s.run beats).session.router = s.session.router := by
    induction beats generalizing s with
    | nil => rfl
    | cons b beats ih =>
        have hsame : (s.beat b).session.router = s.session.router := by
          refine s.router_of_others fun e mishaps hb => ?_
          have hnone := hown b List.mem_cons_self
          rw [hb] at hnone
          cases hnone
        exact (ih (fun b' hb' => hown b' (List.mem_cons_of_mem b hb')) (s.beat b)).trans hsame
  obtain ⟨first, b, last, rfl, hfirst, hb, hlast⟩ := List.filterMap_eq_cons_iff.1 hsteps
  obtain ⟨mishaps, rfl⟩ := eq_outside_of_own hb
  rw [run_append]
  change Released 0 (((s.run first).beat _).run last).session.router
  rw [hkeeps (List.filterMap_eq_nil_iff.1 hlast), router_route, hkeeps hfirst, hrouter]
  exact ⟨Nat.zero_lt_one, rfl⟩

/-- One event is on its way, or what it wants was asked for. -/
def Lone (s : Shift) (event : TapEvent) : Prop :=
  (s.sent = [(0, event)] ∧ s.submitted = []) ∨ (s.sent = [] ∧ s.submitted.length ≤ 1)

/-- A choice neither sends nor asks for anything. -/
theorem reply_account (s : Shift) (choice : Dialog.Choice) :
    (s.reply choice).sent = s.sent ∧ (s.reply choice).submitted = s.submitted := by
  rw [reply]
  split
  · dsimp only
    split <;> exact ⟨rfl, rfl⟩
  · exact ⟨rfl, rfl⟩

/-- A tap asks for one confirmation at most. -/
theorem submittedWith_length_le (s : Shift) (event : TapEvent) :
    (s.submittedWith (heardAs event)).length ≤ s.submitted.length + 1 := by
  have hone : (heardAs event).length ≤ 1 := by
    rw [heardAs, List.length_map]
    cases (Router.hear event).2 <;> simp
  rw [submittedWith]
  split
  · rw [List.length_append]
    exact Nat.add_le_add_left hone _
  · exact Nat.le_succ _

/-- A command that is closing adds nothing to its one tap. -/
theorem Lone.beat {event : TapEvent} (h : s.Lone event) (hturn : s.InTurn) (hclosing : b.Closing) :
    (s.beat b).Lone event := by
  have hstill (hsent : (s.beat b).sent = s.sent) (hsubmitted : (s.beat b).submitted = s.submitted) :
      (s.beat b).Lone event := by
    rw [Lone, hsent, hsubmitted]
    exact h
  cases b with
  | work mishaps =>
      exact hstill (s.move (.work mishaps)).sent (change hturn (.work mishaps)).submitted
  | outside e mishaps =>
      obtain ⟨choice, rfl⟩ | rfl | rfl :
          (∃ choice, e = .reply choice) ∨ e = .route .dropSender ∨ e = .flush := by
        rcases hclosing with hown | hown | hown
        · cases e with
          | reply choice => exact .inl ⟨choice, rfl⟩
          | _ => cases hown
        · obtain ⟨mishaps', hb⟩ := eq_outside_of_own hown
          cases hb
          exact .inr (.inl rfl)
        · obtain ⟨mishaps', hb⟩ := eq_outside_of_own hown
          cases hb
          exact .inr (.inr rfl)
      · exact hstill (s.reply_account choice).1 (s.reply_account choice).2
      · exact hstill rfl rfl
      · exact hstill rfl rfl
  | listen channel =>
      cases hfirst : s.sentTo channel with
      | nil =>
          have hsame := listen_of_nil hfirst
          exact hstill (congrArg Shift.sent hsame) (congrArg Shift.submitted hsame)
      | cons event' rest =>
          rcases h with ⟨hsent, hsubmitted⟩ | ⟨hsent, -⟩
          · have hchannel : channel = 0 := by
              by_contra hne
              have hnone : s.sentTo channel = [] := by simp [sentTo, hsent, Ne.symm hne]
              cases hfirst.symm.trans hnone
            have hsubmittedWith := s.submittedWith_length_le event'
            rw [hsubmitted, List.length_nil, Nat.zero_add] at hsubmittedWith
            refine .inr ⟨?_, ?_⟩
            · rw [Shift.beat, sent_listen, hsent, hchannel]
              rfl
            · rw [Shift.beat, listen_eq hfirst]
              exact hsubmittedWith
          · rw [sentTo, hsent] at hfirst
            cases hfirst

/-- However long a command takes to close, its one tap stays the only one. -/
theorem Lone.run {event : TapEvent} (h : s.Lone event) (hturn : s.InTurn) {beats : List Beat}
    (hclosing : ∀ b ∈ beats, b.Closing) : (s.run beats).Lone event := by
  induction beats generalizing s with
  | nil => exact h
  | cons b beats ih =>
      exact ih (h.beat hturn (hclosing b List.mem_cons_self)) (hturn.beat b) fun b' hb' =>
        hclosing b' (List.mem_cons_of_mem b hb')

/-- A command that is closing sends nothing more. -/
theorem sends_of_closing (s : Shift) (h : b.Closing) : s.sends b = [] := by
  rcases h with hown | hown | hown
  · exact s.sends_of_own hown
  · obtain ⟨mishaps, rfl⟩ := eq_outside_of_own hown
    rfl
  · obtain ⟨mishaps, rfl⟩ := eq_outside_of_own hown
    rfl

/-- Closing beats send nothing. -/
theorem sentThrough_of_closing (s : Shift) {beats : List Beat} (h : ∀ b ∈ beats, b.Closing) :
    s.sentThrough channel beats = [] :=
  s.sentThrough_of_sends fun b hb s => s.sends_of_closing (h b hb)

/-- What is left of a command that has sent its event closes it, and its flush does so too. -/
theorem closing_of_drop {more after : List Beat}
    (hmore : more.filterMap Beat.own? = [.route .dropSender])
    (hafter : after.filterMap Beat.own? = []) (mishaps : List (Option Mishap)) :
    ∀ b ∈ more ++ .outside .flush mishaps :: after, b.Closing := by
  intro b hb
  rcases List.mem_append.1 hb with hb | hb
  · cases hown : b.own? with
    | none => exact .inl hown
    | some e =>
        have he : e ∈ more.filterMap Beat.own? := List.mem_filterMap.2 ⟨b, hb, hown⟩
        rw [hmore, List.mem_singleton] at he
        exact .inr (.inl (he ▸ hown))
  · rcases List.mem_cons.1 hb with rfl | hb
    · exact .inr (.inr rfl)
    · exact .inl (List.filterMap_eq_nil_iff.1 hafter b hb)

/-- One tap asks for one confirmation at most. -/
theorem Lone.submitted_le {event : TapEvent} (h : s.Lone event) : s.submitted.length ≤ 1 := by
  rcases h with ⟨-, hnone⟩ | ⟨-, hone⟩
  · rw [hnone]
    exact Nat.zero_le _
  · exact hone

/-- Where at most one confirmation was asked for, one that has ended is the only one. -/
theorem Served.only (h : s.Served) (hone : s.submitted.length ≤ 1) {e : Ended} (he : e ∈ s.ended) :
    e.number = 0 ∧ s.submitted = [e.asked] ∧ s.ended = [e] := by
  have hended : s.ended = [e] := by
    have hsub : [e].Sublist s.ended := List.singleton_sublist.2 he
    exact (hsub.eq_of_length_le (h.length_le.trans hone)).symm
  have hnumber : e.number = 0 := by
    have hnumbers := h.numbers
    rw [hended] at hnumbers
    exact (List.cons_eq_cons.1 hnumbers).1
  have hfirst := h.asked e he
  rw [hnumber] at hfirst
  refine ⟨hnumber, ?_, hended⟩
  cases hlist : s.submitted with
  | nil => simp [hlist] at hfirst
  | cons first rest =>
      rw [hlist] at hfirst hone
      obtain rfl : rest = [] :=
        List.length_eq_zero_iff.1 (Nat.le_zero.1 (Nat.le_of_succ_le_succ hone))
      rw [Option.some.inj hfirst]

/-- **A command that offers a remedy and taps its notification is done with exactly one confirmation
when its flush succeeds.** -/
theorem remedy_confirms_once {desk : Desk} (hresolved : desk.resolved = [])
    (hanswered : desk.unanswered = false) {id : NetworkId} {p : Profile}
    (hfound : desk.store.find? id = some p) {before after : List Beat}
    (hbefore : before.filterMap Beat.own? = remedySteps id)
    (hafter : after.filterMap Beat.own? = []) (mishaps : List (Option Mishap)) :
    let s₀ := begin desk {} 0
    let s₁ := s₀.run before
    let s := s₀.run (before ++ .outside .flush mishaps :: after)
    let asked : Asked := ⟨id, some p.identity, none⟩
    s₁.sentTo 0 = [] → (s₁.session.tickets, .flushed (.ok ())) ∈ s.session.desk.resolved →
    ∃ outcome, s.submitted = [asked] ∧ s.ended = [⟨0, asked, outcome⟩] := by
  intro s₀ s₁ s asked hsent hok
  obtain ⟨s', more, hmore, hrun, hthrough, hsent', hsubmitted', hrouter', hturn'⟩ :=
    run_remedy hanswered hfound hbefore
  have hclosing := closing_of_drop hmore hafter mishaps
  have hreleased : Released 0 s₁.session.router := by
    have hrun₁ : s₁ = s'.run more := hrun
    rw [hrun₁]
    exact released_of_drop hrouter' hmore
  obtain ⟨ended, hended, -, hasked⟩ :=
    flushed_after_taps hresolved {} before after 0 mishaps hreleased hsent hok
  -- the one event that is sent is that of the notification
  have hevents : s₀.sentThrough 0 (before ++ .outside .flush mishaps :: after) =
      [Offer.tapEvent ⟨id, p.identity⟩] := by
    have hquiet : s'.sentThrough 0 (more ++ .outside .flush mishaps :: after) = [] :=
      s'.sentThrough_of_closing hclosing
    rw [sentThrough_append, List.append_eq_nil_iff] at hquiet
    rw [sentThrough_append, hthrough, hquiet.1, hrun, hquiet.2]
    rfl
  have hwanted : Exchange.wanted [Offer.tapEvent ⟨id, p.identity⟩] = [(id, some p.identity)] := by
    rw [Exchange.wanted_cons, Router.hear, target?_tapEvent]
    rfl
  rw [hevents, hwanted] at hasked
  obtain ⟨e, rfl, he⟩ : ∃ e, ended = [e] ∧ e.asked = asked := by
    obtain ⟨e, rest, rfl, he, hrest⟩ := List.map_eq_cons_iff.1 hasked
    exact ⟨e, by rw [List.map_eq_nil_iff.1 hrest], he⟩
  -- and no more than one confirmation is asked for
  have hlone : s.Lone (Offer.tapEvent ⟨id, p.identity⟩) := by
    have hrest : s = s'.run (more ++ .outside .flush mishaps :: after) := by
      rw [run_append, ← hrun]
      exact run_append s₀ before _
    rw [hrest]
    exact Lone.run (.inl ⟨hsent', hsubmitted'⟩) hturn' hclosing
  have hserved : s.Served := (begin_served desk {} 0).run (begin_inTurn desk {} 0) _
  obtain ⟨hnumber, hsubmitted, hall⟩ :=
    hserved.only hlone.submitted_le (hended.subset (List.mem_singleton_self e))
  exact ⟨e.outcome, he ▸ hsubmitted, by rw [hall, ← he, ← hnumber]⟩

/-- **No tap is lost at shutdown.**  All that was sent through a channel whose listener has ended
has come to its outcomes, in the order in which it was sent, before a flush that begins then
succeeds; and the command that offers a remedy ends after exactly one confirmation, which goes by the
protocol to an outcome. -/
theorem shutdown_loses_no_tap (store : Store.Backend) (messages : Messages) (tree : Files.Tree)
    (answers : List Dialog.Choice) (before after : List Beat) (mishaps : List (Option Mishap)) :
    let s₀ := begin { store, messages, tree, answers } {} 0
    let s₁ := s₀.run before
    let beats := before ++ .outside .flush mishaps :: after
    let s := s₀.run beats
    ((s₁.session.tickets, .flushed (.ok ())) ∈ s.session.desk.resolved →
      -- a handler was registered, nobody holds its channel any more, and its listener has ended
      (∀ channel, channel < s₁.session.router.opened → s₁.session.router.isHeld channel = false →
        s₁.sentTo channel = [] →
        -- the outcomes of the confirmations that it has asked for, in order
        ∃ ended : List Ended, ended.Sublist s.ended ∧
          ended.map Ended.number = s₀.askedThrough channel beats ∧
          ended.map Ended.asked =
            (Exchange.wanted (s₀.sentThrough channel beats)).map fun (id, identity) =>
              ⟨id, identity, none⟩) ∧
      -- the course of the command, whenever listeners, the worker and the user have their turns
      (∀ id p, store.find? id = some p → before.filterMap Beat.own? = remedySteps id →
        after.filterMap Beat.own? = [] → s₁.sentTo 0 = [] →
        let asked : Asked := ⟨id, some p.identity, none⟩
        ∃ outcome, s.submitted = [asked] ∧ s.ended = [⟨0, asked, outcome⟩])) ∧
    -- the command on any host
    (∀ (m : Type → Type) [Monad m] [LawfulMonad m] (h : CommandLine.Host m)
        (icons : Dialog.IconSet) (live : Store.Durable) (id : NetworkId) (p : Profile),
      live.roster.find? id = some p →
      h.perform icons live (.notify id false) = (do
        let (_, offered) ← ((Remedy.offer {} id).run h.carryOut).run { store := live }
        h.backing.trace (.detailsRequested id)
        let _ ← (h.confirm icons id (some p.identity)).run
          { offered with board := offered.board.remove noticeNumber }
        return .done)) ∧
    -- its confirmation, on any host with a state of its own
    (∀ (σ : Type) (h : CommandLine.Host (StateM σ)) (icons : Dialog.IconSet) (id : NetworkId)
        (captured : Option String) (shelf : CommandLine.Shelf) (t : σ),
      ∃ outcome shelf' t' calls,
        ((h.confirm icons id captured).run shelf).run t = ((outcome, shelf'), t') ∧
        (confirmation (h.world icons).recorded {} id captured).run ((shelf, t), []) =
          (some outcome, ((shelf', t'), calls)) ∧
        Protocol {} id captured calls (some outcome)) := by
  intro s₀ s₁ beats s
  refine ⟨fun hok => ⟨fun channel hopened hfree hsent => ?_,
      fun id p hfound hbefore hafter hsent => ?_⟩,
    fun m _ _ h icons live id p hfound => h.perform_notify icons hfound,
    fun σ h => h.confirm_protocol⟩
  · exact flushed_after_taps rfl {} before after channel mishaps ⟨hopened, hfree⟩ hsent hok
  · exact remedy_confirms_once rfl rfl hfound hbefore hafter mishaps hsent hok

namespace LastTap

/-- A network that is saved. -/
def home : Profile := { id := .first, ssid := "Home", security := .wpa2 }

/-- The store of the network. -/
def store : Store.Memory := { roster := Store.Roster.empty.insert home }

/-- The course of the command; the worker has the check of the confirmation before the flush. -/
def before : List Beat :=
  [.outside (.route .register), .work, .outside (.route .takeSender), .outside (.route .close),
    .outside (.notify .first), .listen 0, .outside .tap, .listen 0, .outside (.route .dropSender),
    .work, .work]

/-- The dialog is opened and accepted during the flush. -/
def after : List Beat :=
  [.work, .outside (.reply .accepted), .work, .work, .work, .work, .work, .work, .work, .work]

/-- The shift when all has ended. -/
def closed : Shift :=
  (begin { store := .memory store } {} 0).run (before ++ .outside .flush :: after)

/-- A host that keeps the questions of its dialogs, and accepts them. -/
def host : CommandLine.Host (StateM (List Dialog.Request)) where
  backing := {
    read := fun _ => return .error .missing
    write := fun _ _ => return .ok ()
    rename := fun _ _ => return .ok ()
    trace := fun _ => return () }
  write _ := return ()
  toast _ := return ()
  ask form := modifyGet fun questions => (.accepted, questions ++ [form.request])

end LastTap

/-- The last tap of a session on a store in memory is not lost, nor that of a command. -/
theorem shutdown_loses_no_tap_accepted :
    (∃ ended : List Ended, ended.Sublist LastTap.closed.ended ∧
      ended.map Ended.asked = [⟨.first, some "Home/WPA2", none⟩]) ∧
    (∃ outcome, LastTap.closed.ended = [⟨0, ⟨.first, some "Home/WPA2", none⟩, outcome⟩]) ∧
    ((LastTap.host.perform .ascii ⟨⟨"profiles.xml"⟩, LastTap.store.roster⟩
      (.notify .first false)).run []).2 = [Remedy.question {} LastTap.home] ∧
    ∃ calls, Protocol {} .first (some "Home/WPA2") calls (some .applied) := by
  obtain ⟨hflushed, hprogram, hconfirm⟩ :=
    shutdown_loses_no_tap (.memory LastTap.store) {} {} [] LastTap.before LastTap.after []
  obtain ⟨hchannel, hcommand⟩ := hflushed (by decide +kernel)
  obtain ⟨ended, hended, -, hasked⟩ :=
    hchannel 0 (by decide +kernel) (by decide +kernel) (by decide +kernel)
  obtain ⟨outcome, -, hone⟩ :=
    hcommand .first LastTap.home (by decide +kernel) rfl rfl (by decide +kernel)
  have hidentity : LastTap.home.identity = "Home/WPA2" := by decide +kernel
  rw [hidentity] at hone
  refine ⟨⟨ended, hended, hasked.trans (by decide +kernel)⟩, ⟨outcome, hone⟩, ?_, ?_⟩
  · have hperform := hprogram _ LastTap.host .ascii ⟨⟨"profiles.xml"⟩, LastTap.store.roster⟩ .first
      LastTap.home (by decide +kernel)
    rw [hperform]
    decide +kernel
  · obtain ⟨outcome, _, _, calls, hrun, -, hprotocol⟩ := hconfirm _ LastTap.host .ascii .first
      (some "Home/WPA2") ⟨⟨⟨"profiles.xml"⟩, LastTap.store.roster⟩, {}⟩ []
    have happlied : (((LastTap.host.confirm .ascii .first (some "Home/WPA2")).run
        ⟨⟨⟨"profiles.xml"⟩, LastTap.store.roster⟩, {}⟩).run []).1.1 = .applied := by decide +kernel
    rw [hrun] at happlied
    obtain rfl : outcome = .applied := happlied
    exact ⟨calls, hprotocol⟩

end Shift

end MacConsent.Session
