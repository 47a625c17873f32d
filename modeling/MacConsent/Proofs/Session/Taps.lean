import MacConsent.Proofs.Network.Identity
import MacConsent.Proofs.Router.Exchange
import MacConsent.Proofs.Session.Progress

/-!
# MacConsent.Proofs.Session.Taps

What a tap on the notification of an offer comes to, from the offer to the dialog
(`Shift.tap_opens_dialog_iff`).  The event of the tap waits behind what was sent
to the same listener before; the listener then asks for one confirmation, for the
network and with the identity that the offer was made for; and whenever the
worker comes to it, it has the store of that time to go by.  As an identity tells
name and security apart from all others, the dialog is opened exactly if the
network is the same in both.
-/

namespace MacConsent.Session

open Desk (Asked)
open Remedy (Plan)
open Store (Mishap)

/-! ## the offer -/

/-- The network that a profile was of is still the same: the profile that is found is of its name and
its security. -/
def Same (p : Profile) (found : Option Profile) : Prop :=
  ∃ q, found = some q ∧ q.ssid = p.ssid ∧ q.security = p.security

theorem same_iff {p : Profile} {found : Option Profile} :
    Same p found ↔ ∃ q, found = some q ∧ some p.identity = some q.identity := by
  refine exists_congr fun q => and_congr_right fun _ => ?_
  rw [Option.some_inj, Profile.identity_eq_iff]
  exact and_congr eq_comm eq_comm

/-- What is offered for a network that is saved is on display then. -/
theorem Desk.board_offer {d : Desk} {id : NetworkId} {p : Profile} (h : d.store.find? id = some p)
    (messages : Messages) :
    (((Remedy.offer messages id).run carryOut).run d).2.board.find? noticeNumber =
      some (Remedy.notice messages p ⟨id, p.identity⟩) := by
  rw [offer_run, h]
  exact d.board.find?_post ..

/-! ## events on their way -/

/-- Whether it is the listener of a channel that has its turn. -/
def Beat.listensTo (channel : Nat) : Beat → Bool
  | .listen other => other == channel
  | _ => false

/-- What is taken from the front of a list is the first of its kind. -/
theorem filter_eraseP_self {α : Type} (p : α → Bool) (as : List α) :
    (as.eraseP p).filter p = (as.filter p).tail := by
  induction as with
  | nil => rfl
  | cons a as ih => cases h : p a <;> simp [h, ih]

/-- What is taken from a list is none of another kind. -/
theorem filter_eraseP_of_ne {α : Type} {p q : α → Bool} (hne : ∀ a, p a = true → q a = false)
    (as : List α) : (as.eraseP p).filter q = as.filter q := by
  induction as with
  | nil => rfl
  | cons a as ih =>
      cases h : p a
      · simp [h, ih, List.filter_cons]
      · simp [h, hne a h]

namespace Shift

variable {s s' : Shift} {b : Beat} {channel other : Nat} {event : TapEvent} {events : List TapEvent}

/-- The events on their way to the listener of a channel, in order. -/
def sentTo (s : Shift) (channel : Nat) : List TapEvent :=
  (s.sent.filter (·.1 == channel)).map Prod.snd

/-- A beat sends events. -/
inductive Sends (s : Shift) : Beat → List TapEvent → Prop
  | route (events : List TapEvent) (mishaps : List (Option Mishap)) :
      Sends s (.outside (.route (.send events)) mishaps) events
  /-- The notification on display is tapped. -/
  | tap {notification : Notification} (mishaps : List (Option Mishap))
      (hboard : s.session.desk.board.find? noticeNumber = some notification) :
      Sends s (.outside .tap mishaps) [notification.tapAction]

/-- A listener takes the first of the events on their way to it. -/
theorem listen_eq {rest : List TapEvent} (h : s.sentTo channel = event :: rest) :
    s.listen channel =
      { s with
        session := s.session.hear event
        sent := s.sent.eraseP (·.1 == channel)
        submitted := s.submittedWith (heardAs event) } := by
  obtain ⟨⟨other, event'⟩, more, hfilter, hevent, -⟩ := List.map_eq_cons_iff.1 h
  have hfirst : s.sent.find? (·.1 == channel) = some (other, event') := by
    rw [← List.head?_filter, hfilter]
    rfl
  cases hevent
  rw [listen, hfirst]

theorem sent_listen (s : Shift) (channel : Nat) :
    (s.listen channel).sent = s.sent.eraseP (·.1 == channel) := by
  rw [listen]
  split
  · next hnone => exact (List.eraseP_of_forall_not (List.find?_eq_none.1 hnone)).symm
  · rfl

theorem sentTo_listen (s : Shift) (channel : Nat) :
    (s.listen channel).sentTo channel = (s.sentTo channel).tail := by
  rw [sentTo, sent_listen, filter_eraseP_self, List.map_tail]
  rfl

theorem sentTo_listen_of_ne (s : Shift) (h : other ≠ channel) :
    (s.listen other).sentTo channel = s.sentTo channel := by
  rw [sentTo, sent_listen, filter_eraseP_of_ne]
  · rfl
  · intro pair hpair
    rw [beq_iff_eq.1 hpair]
    exact beq_false_of_ne h

theorem taken_listen (s : Shift) (channel : Nat) : (s.listen channel).taken = s.taken := by
  rw [listen]
  split <;> rfl

/-- The events that a beat sends. -/
def sends (s : Shift) : Beat → List TapEvent
  | .outside (.route (.send events)) _ => events
  | .outside .tap _ =>
    ((s.session.desk.board.find? noticeNumber).map Notification.tapAction).toList
  | _ => []

/-- What a step from outside sends comes last on its way, if it reaches a listener. -/
theorem sent_outside (s : Shift) (e : Step) (mishaps : List (Option Mishap)) :
    (s.outside e mishaps).sent = s.sent ++
      (s.session.router.heard (s.sends (.outside e mishaps))).map
        (s.session.router.sender.getD 0, ·) := by
  have hnothing : (s.session.router.heard []).map (s.session.router.sender.getD 0, ·) = [] := by
    rw [Router.heard, ite_self]
    rfl
  have hsame {s' : Shift} (h : s'.sent = s.sent) : s'.sent = s.sent ++
      (s.session.router.heard []).map (s.session.router.sender.getD 0, ·) := by
    rw [hnothing, List.append_nil, h]
  cases e with
  | reply choice =>
      refine hsame ?_
      rw [outside, reply]
      split
      · dsimp only
        split <;> rfl
      · rfl
  | stop =>
      refine hsame ?_
      rw [outside, stop]
      split <;> rfl
  | add p => exact hsame (s.edit_others ..).1
  | update p => exact hsame (s.edit_others ..).1
  | route e =>
      cases e with
      | send events => rfl
      | _ => exact hsame rfl
  | tap =>
      rw [outside, sends]
      split
      · next hnone =>
          rw [hnone]
          exact hsame rfl
      · next hsome =>
          rw [hsome]
          rfl
  | _ => exact hsame rfl

/-- The listener of a channel takes the first event on its way to it, or all of them stay; and more
may be sent. -/
theorem sentTo_beat (s : Shift) (b : Beat) (channel : Nat) :
    ∃ more, (s.beat b).sentTo channel =
      (s.sentTo channel).drop (if b.listensTo channel then 1 else 0) ++ more := by
  cases b with
  | outside e mishaps =>
      obtain ⟨more, hsent⟩ : ∃ more, (s.outside e mishaps).sent = s.sent ++ more :=
        ⟨_, s.sent_outside e mishaps⟩
      refine ⟨(more.filter (·.1 == channel)).map Prod.snd, ?_⟩
      rw [beat, sentTo, hsent, List.filter_append, List.map_append]
      rfl
  | listen other =>
      refine ⟨[], ?_⟩
      by_cases h : other = channel
      · rw [h, beat, sentTo_listen]
        simp [Beat.listensTo]
      · rw [beat, sentTo_listen_of_ne s h]
        simp [Beat.listensTo, h]
  | work mishaps =>
      refine ⟨[], ?_⟩
      rw [sentTo, (s.move (.work mishaps)).sent, List.append_nil]
      rfl

/-- **Events are taken in the order in which they were sent**: as long as there are enough, a listener
takes one in each of its turns. -/
theorem sentTo_run {beats : List Beat}
    (hle : beats.countP (·.listensTo channel) ≤ (s.sentTo channel).length) :
    ∃ more, (s.run beats).sentTo channel =
      (s.sentTo channel).drop (beats.countP (·.listensTo channel)) ++ more := by
  induction beats generalizing s with
  | nil => exact ⟨[], (List.append_nil _).symm⟩
  | cons b beats ih =>
      obtain ⟨more, hmore⟩ := s.sentTo_beat b channel
      rw [List.countP_cons, Nat.add_comm] at hle ⊢
      have hleft : beats.countP (·.listensTo channel) ≤
          ((s.sentTo channel).drop (if b.listensTo channel then 1 else 0)).length := by
        rw [List.length_drop]
        omega
      have hrest : beats.countP (·.listensTo channel) ≤ ((s.beat b).sentTo channel).length := by
        rw [hmore]
        exact hleft.trans (List.prefix_append _ _).length_le
      obtain ⟨more', hrun⟩ := ih hrest
      refine ⟨more ++ more', hrun.trans ?_⟩
      rw [hmore, List.drop_append_of_le_length hleft, List.drop_drop, List.append_assoc]

/-- What is sent while there is a sender comes last on its way. -/
theorem Sends.sentTo_eq (h : s.Sends b events) (hsender : s.session.router.sender = some channel) :
    (s.beat b).sentTo channel = s.sentTo channel ++ events := by
  have hbeat : s.beat b = s.send events := by
    cases h with
    | route => rfl
    | tap mishaps hboard => rw [beat, outside, hboard]
  have hheard : s.session.router.heard events = events := by
    have hheld := Exchange.isHeld_iff.2 (.inr hsender)
    simp [Router.heard, Router.delivery, hsender, hheld]
  rw [hbeat, sentTo, send, hheard, hsender, List.filter_append, List.map_append,
    Option.getD_some, Exchange.filter_tagged]
  rfl

/-- The event of an offer asks for one confirmation of what was offered. -/
theorem heardAs_tapEvent (offer : Offer) :
    heardAs offer.tapEvent = [⟨offer.networkId, some offer.identity, none⟩] := by
  rw [heardAs, Router.hear, target?_tapEvent]
  rfl

/-- A listener that takes the event of an offer asks for one confirmation, as long as there is a
worker. -/
theorem submitted_listen {offer : Offer} {rest : List TapEvent}
    (hfirst : s.sentTo channel = offer.tapEvent :: rest)
    (hrunning : s.session.queue.worker = .running) :
    (s.listen channel).submitted = s.submitted ++ [⟨offer.networkId, some offer.identity, none⟩] := by
  rw [listen_eq hfirst, heardAs_tapEvent, submittedWith, if_pos hrunning]

/-! ## from the tap to the dialog -/

/-- The event that was sent behind others is the next for the listener once it has taken these. -/
theorem Sends.sentTo_run {before after : List TapEvent} {beats : List Beat}
    (h : s.Sends b (before ++ event :: after)) (hsender : s.session.router.sender = some channel)
    (hcount : beats.countP (·.listensTo channel) = (s.sentTo channel ++ before).length) :
    ∃ rest, ((s.beat b).run beats).sentTo channel = event :: rest := by
  have hsent : (s.beat b).sentTo channel = (s.sentTo channel ++ before) ++ event :: after := by
    rw [h.sentTo_eq hsender, List.append_assoc]
  have hle : beats.countP (·.listensTo channel) ≤ ((s.beat b).sentTo channel).length := by
    rw [hcount, hsent]
    exact (List.prefix_append _ _).length_le
  obtain ⟨more, hrun⟩ := Shift.sentTo_run hle
  rw [hrun, hsent, hcount, List.drop_left]
  exact ⟨after ++ more, rfl⟩

/-- **A tap on the notification of an offer opens one dialog exactly if the network is still the
same.**  Whatever happens between the offer and the tap, between the tap and the turn of the
listener, and before the worker comes to the confirmation, what counts is the profile that the store
holds then. -/
theorem tap_opens_dialog_iff (desk : Desk) (router : Router) (tickets : Nat) (earlier : List Beat)
    (mishaps : List (Option Mishap)) (id : NetworkId) (p : Profile) :
    let s₀ := (begin desk router tickets).run earlier
    s₀.session.desk.store.find? id = some p →
    let s₁ := s₀.beat (.outside (.notify id) mishaps)
    let notice := Remedy.notice desk.messages p ⟨id, p.identity⟩
    -- the offer is on display
    s₁.session.desk.board.find? noticeNumber = some notice ∧
    ∀ (meanwhile waiting : List Beat) (sending : Beat) (before after : List TapEvent)
        (channel : Nat),
      let s₂ := s₁.run meanwhile
      s₂.session.router.sender = some channel →
      s₂.Sends sending (before ++ notice.tapAction :: after) →
      -- the listener takes all that was sent to it before the tap
      waiting.countP (·.listensTo channel) = (s₂.sentTo channel ++ before).length →
      let s₃ := (s₂.beat sending).run waiting
      s₃.session.queue.worker = .running →
      -- then it asks for one confirmation
      let s₄ := s₃.beat (.listen channel)
      let n := s₃.submitted.length
      let asked : Asked := ⟨id, some p.identity, none⟩
      s₄.submitted = s₃.submitted ++ [asked] ∧
      ∀ rest : List Beat,
        let s := s₄.run rest
        -- to which the worker comes
        (s.session.queue.worker = .running →
          ∃ more, (∀ b ∈ more, b.Onward) ∧ (s.run more).Decided n) ∧
        (s.Decided n →
          ∃ first amid last found, rest = first ++ .work amid :: last ∧
            (s₄.run first).Starts amid desk.messages n asked found ∧
            ((s.callsOf n).countP Call.isDialog = 1 ↔ Same p found) ∧
            (¬ Same p found →
              s.callsOf n = [.get id found, .toast desk.messages.networkNotFound])) := by
  intro s₀ hfound s₁ notice
  refine ⟨?_, fun meanwhile waiting sending before after channel => ?_⟩
  · have hmessages : s₀.session.desk.messages = desk.messages := run_messages _ earlier
    change (((Remedy.offer s₀.session.desk.messages id).run Desk.carryOut).run
      s₀.session.desk).2.board.find? noticeNumber = some notice
    rw [Desk.board_offer hfound, hmessages]
  · intro s₂ hsender hsends hcount s₃ hrunning s₄ n asked
    have hrun : s₃ = (begin desk router tickets).run
        (earlier ++ [.outside (.notify id) mishaps] ++ meanwhile ++ [sending] ++ waiting) := by
      simp only [run_append]
      rfl
    have hturn₃ : s₃.InTurn := hrun ▸ (begin_inTurn desk router tickets).run _
    have hturn₄ : s₄.InTurn := hturn₃.beat (.listen channel)
    have hmessages : s₄.session.desk.messages = desk.messages :=
      (s₃.move (.listen channel)).messages.trans (hrun ▸ run_messages _ _)
    obtain ⟨others, hfirst⟩ : ∃ others,
        s₃.sentTo channel = Offer.tapEvent ⟨id, p.identity⟩ :: others :=
      hsends.sentTo_run hsender hcount
    have hsubmitted : s₄.submitted = s₃.submitted ++ [asked] := submitted_listen hfirst hrunning
    have hasked : s₄.submitted[n]? = some asked := by rw [hsubmitted, List.getElem?_concat_length]
    have hle : s₄.taken ≤ n := (s₃.taken_listen channel).symm ▸ hturn₃.taken_le
    have hcourse : s₄.Course desk.messages n asked := hmessages ▸ hturn₄.course hle hasked
    refine ⟨hsubmitted, fun rest => ⟨fun hruns => ?_, fun hdecided => ?_⟩⟩
    · have hlt := (List.getElem?_eq_some_iff.1 (hcourse.run hturn₄ rest).submitted).1
      exact (hturn₄.run rest).exists_decided hruns hlt
    · obtain ⟨first, amid, last, found, hsplit, hstarts, hacted⟩ :=
        hcourse.acted hturn₄ (hturn₄.callsOf_of_le hle) hdecided
      refine ⟨first, amid, last, found, hsplit, hstarts, hacted.dialog.trans same_iff.symm,
        fun hother => hacted.message fun q hq hsame => ?_⟩
      exact hother (same_iff.2 ⟨q, hq, hsame⟩)

namespace Slashed

/-- A network whose name looks like an identity. -/
def home : Profile := { id := .first, ssid := "Home/WPA2", security := .unsecured }

/-- A network whose identity is that name. -/
def guest : Profile := { id := { val := 1 }, ssid := "Home", security := .wpa2 }

/-- The network is saved, and there is a sender for taps. -/
def earlier : List Beat :=
  [.outside (.insert home), .outside (.route .register), .outside (.route .takeSender)]

/-- The network gets a passphrase, and the other one is offered in its place. -/
def meanwhile : List Beat :=
  [.outside (.insert { home with passphrase := some "open sesame" }), .outside (.insert guest),
    .outside (.notify guest.id)]

/-- An event of another action is sent before the tap on the first offer. -/
def sending : Beat :=
  .outside (.route (.send [⟨"other", none, none⟩, Offer.tapEvent ⟨.first, "Home/WPA2/OPEN"⟩]))

/-- The listener has taken both events. -/
def heard : Shift :=
  ((begin { store := .memory {} } {} 0).run
    (earlier ++ .outside (.notify .first) :: meanwhile ++ [sending, .listen 0])).beat (.listen 0)

end Slashed

/-- Where a name holds a slash, the network is the same if only its passphrase has changed. -/
theorem tap_opens_dialog_slashed :
    let asked : Asked := ⟨.first, some "Home/WPA2/OPEN", none⟩
    Slashed.heard.submitted = [asked] ∧
    ∃ first amid last found, [.work, .work, .work] = first ++ .work amid :: last ∧
      (Slashed.heard.run first).Starts amid {} 0 asked found ∧ Same Slashed.home found := by
  intro asked
  obtain ⟨-, htap⟩ :=
    tap_opens_dialog_iff { store := .memory {} } {} 0 Slashed.earlier [] .first Slashed.home rfl
  obtain ⟨hsubmitted, hrest⟩ :=
    htap Slashed.meanwhile [.listen 0] Slashed.sending [⟨"other", none, none⟩] [] 0 rfl (.route _ _)
      rfl rfl
  refine ⟨hsubmitted, ?_⟩
  have hdecided : (Slashed.heard.run [.work, .work, .work]).Decided 0 := by
    have hhand : (Slashed.heard.run [.work, .work, .work]).hand =
        some ⟨0, asked, .asking { Slashed.home with passphrase := some "open sesame" }⟩ := rfl
    refine ⟨by decide +kernel, fun hd hhd _ plan hstage => ?_⟩
    cases hhand.symm.trans hhd
    cases hstage
  obtain ⟨first, amid, last, found, hsplit, hstarts, hdialog, -⟩ :=
    (hrest [.work, .work, .work]).2 hdecided
  exact ⟨first, amid, last, found, hsplit, hstarts, hdialog.1 rfl⟩

end Shift

end MacConsent.Session
