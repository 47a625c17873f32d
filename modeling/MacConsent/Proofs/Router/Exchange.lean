import Mathlib.Logic.Function.Basic
import MacConsent.Router

/-!
# MacConsent.Proofs.Router.Exchange

A router with its channels and their listeners, turn by turn.  What is sent
through a channel waits there until its listener takes it, event by event; and a
listener ends when nothing waits for it and nobody holds its channel
(`Exchange.turn?`).  An event is refused if the listener has ended, whoever holds
the channel.  Between two turns anything may be asked of the router, and the
exchange keeps an account of what was asked, sent and received.

Two facts carry the rest (`Exchange.Orderly`): the listener of a channel that is
held has not ended, and what was received through a channel and what waits there
is what was sent.  So no event is refused as long as there is a sender, and a
router answers as its exchange does (`Exchange.Orderly.step_eq`).
-/

namespace MacConsent

/-- A channel, as its listener finds it. -/
structure Line where
  /-- What was sent and not taken yet, first in first out. -/
  waiting : List TapEvent := []
  /-- Whether its listener has begun and not ended. -/
  listening : Bool := false

/-- A router with its channels, and an account of what has happened. -/
structure Exchange where
  router : Router := {}
  /-- The channels, by number. -/
  line : Nat → Line := fun _ => {}
  /-- What was asked of the router, with its answers. -/
  asked : List (Router.Step × Router.Answer) := []
  /-- The events that were sent, each with its channel. -/
  sent : List (Nat × TapEvent) := []
  /-- The confirmations that handlers were asked for, each with the channel of its event. -/
  received : List (Nat × NetworkId × Option String) := []

namespace Exchange

variable (x : Exchange)

/-! ## what happens -/

/-- The exchange with another line in the place of one. -/
def setLine (channel : Nat) (line : Line) : Exchange :=
  { x with line := Function.update x.line channel line }

/-- Sends an event: it is refused if its listener has ended. -/
def deliver (event : TapEvent) : Delivery × Exchange :=
  match x.router.sender with
  | none => (.noSender, x)
  | some channel =>
    let line := x.line channel
    if line.listening then
      (.sent, { x.setLine channel { line with waiting := line.waiting ++ [event] } with
        sent := x.sent ++ [(channel, event)] })
    else (.closed, x)

/-- Sends events in order. -/
def deliverAll (x : Exchange) : List TapEvent → List Delivery × Exchange
  | [] => ([], x)
  | event :: events =>
    let (delivery, x) := x.deliver event
    let (deliveries, x) := x.deliverAll events
    (delivery :: deliveries, x)

/-- What a router is asked, and its answer. A registration opens a line with a new listener. -/
def step : Router.Step → Router.Answer × Exchange
  | .register =>
    match x.router.register with
    | .ok router => (.done, { x.setLine x.router.opened { listening := true } with router })
    | .error fault => (.refused fault, x)
  | .send events =>
    let (deliveries, x) := x.deliverAll events
    (.deliveries deliveries, x)
  | e =>
    let (answer, router, _) := x.router.step e
    (answer, { x with router })

/-- Asks something of the router, and takes note of the answer. -/
def ask (e : Router.Step) : Exchange :=
  let (answer, after) := x.step e
  { after with asked := x.asked ++ [(e, answer)] }

/-- The exchange after the listener of a channel has taken an event. -/
def took (channel : Nat) (event : TapEvent) (waiting : List TapEvent) : Exchange :=
  { x.setLine channel { waiting, listening := true } with
    received := x.received ++ (Router.hear event).2.toList.map (channel, ·) }

/-- The next turn of the listener of a channel: it takes an event, or it ends. It has no turn to
take while it waits, or once it has ended. -/
def turn? (channel : Nat) : Option Exchange :=
  match x.line channel with
  | ⟨event :: waiting, true⟩ => some (x.took channel event waiting)
  | ⟨[], true⟩ => if x.router.isHeld channel then none else some (x.setLine channel {})
  | ⟨_, false⟩ => none

/-- Something that happens at an exchange. -/
inductive Beat
  /-- Something is asked of the router. -/
  | ask (e : Router.Step)
  /-- The listener of a channel takes a turn, if it has one to take. -/
  | listen (channel : Nat)

/-- The exchange after one beat. -/
def beat : Beat → Exchange
  | .ask e => x.ask e
  | .listen channel => (x.turn? channel).getD x

/-- The exchange after a number of beats. -/
def run (beats : List Beat) : Exchange := beats.foldl beat x

/-- No listener has a turn to take. -/
def Settled : Prop := ∀ channel, x.turn? channel = none

/-! ## the account -/

/-- The events that were sent through a channel, in order. -/
def sentOn (channel : Nat) : List TapEvent :=
  (x.sent.filter (·.1 == channel)).map Prod.snd

/-- The confirmations that the handler of a channel was asked for, in order. -/
def receivedOn (channel : Nat) : List (NetworkId × Option String) :=
  (x.received.filter (·.1 == channel)).map Prod.snd

/-- The confirmations that events ask for, in order: those of the one action do, each for its network
or, without one, for the invalid one, and with its identity as it is. -/
def wanted (events : List TapEvent) : List (NetworkId × Option String) :=
  (events.filter (·.action = showDetailsAction)).map fun event =>
    (event.networkId.getD .invalid, event.identity)

@[simp] theorem wanted_nil : wanted [] = [] := rfl

@[simp] theorem wanted_append (events more : List TapEvent) :
    wanted (events ++ more) = wanted events ++ wanted more := by
  simp [wanted]

/-- A listener asks its handler for what an event wants. -/
theorem wanted_cons (event : TapEvent) (events : List TapEvent) :
    wanted (event :: events) = (Router.hear event).2.toList ++ wanted events := by
  by_cases h : event.action = showDetailsAction <;>
    simp [wanted, Router.hear, TapEvent.target?, h]

variable {x} {x' : Exchange} {channel other : Nat} {event : TapEvent}

@[simp] theorem line_setLine_self (line : Line) : (x.setLine channel line).line channel = line :=
  Function.update_self ..

/-- The other channels stay as they are. -/
theorem line_setLine_of_ne {line : Line} (h : other ≠ channel) :
    (x.setLine channel line).line other = x.line other :=
  Function.update_of_ne h ..

/-- What is tagged with a channel is found under it. -/
theorem filter_tagged {α : Type} (channel : Nat) (as : List α) :
    ((as.map (channel, ·)).filter (·.1 == channel)).map Prod.snd = as := by
  induction as <;> simp_all

/-- What is tagged with one channel is not found under another. -/
theorem filter_tagged_of_ne {α : Type} (h : channel ≠ other) (as : List α) :
    (as.map (channel, ·)).filter (·.1 == other) = [] := by
  simp [h]

/-! ## order -/

/-- What holds of a channel at every moment of an exchange. -/
structure OrderlyAt (x : Exchange) (channel : Nat) : Prop where
  /-- The listener of a channel that is held has not ended. -/
  held : x.router.isHeld channel = true → (x.line channel).listening = true
  /-- Nothing waits where no listener is. -/
  drained : (x.line channel).listening = false → (x.line channel).waiting = []
  /-- A channel that was not opened yet has no listener. -/
  fresh : x.router.opened ≤ channel → (x.line channel).listening = false
  /-- What was sent was received, or it waits. -/
  account : x.receivedOn channel ++ wanted (x.line channel).waiting = wanted (x.sentOn channel)

/-- What holds of all channels at every moment of an exchange. -/
def Orderly (x : Exchange) : Prop := ∀ channel, x.OrderlyAt channel

/-- In the beginning nothing has been sent. -/
theorem orderly_new : Orderly {} := fun _ => ⟨nofun, fun _ => rfl, fun _ => rfl, rfl⟩

/-- What is done about other channels. -/
theorem OrderlyAt.elsewhere (h : x.OrderlyAt other) (hline : x'.line other = x.line other)
    (hsent : x'.sentOn other = x.sentOn other)
    (hreceived : x'.receivedOn other = x.receivedOn other)
    (hheld : x'.router.isHeld other = true → x.router.isHeld other = true)
    (hopened : x.router.opened ≤ x'.router.opened) : x'.OrderlyAt other where
  held hother := hline ▸ h.held (hheld hother)
  drained hended := hline ▸ h.drained (hline ▸ hended)
  fresh hle := hline ▸ h.fresh (Nat.le_trans hopened hle)
  account := by rw [hline, hsent, hreceived, h.account]

/-- A channel is held by the router or by a sender that was given out. -/
theorem isHeld_iff {r : Router} :
    r.isHeld channel = true ↔ r.own = some channel ∨ r.sender = some channel := by
  simp [Router.isHeld]

/-- A listener that has not ended is that of a channel that was opened. -/
theorem OrderlyAt.lt_opened (h : x.OrderlyAt channel)
    (hlistening : (x.line channel).listening = true) : channel < x.router.opened := by
  by_contra hle
  cases hlistening.symm.trans (h.fresh (Nat.le_of_not_lt hle))

/-! ## what is asked -/

/-- An event is taken on as long as there is a sender. -/
theorem Orderly.deliver_eq (h : x.Orderly) (hsender : x.router.sender = some channel)
    (event : TapEvent) :
    x.deliver event =
      (.sent, { x.setLine channel
          { waiting := (x.line channel).waiting ++ [event], listening := true } with
        sent := x.sent ++ [(channel, event)] }) := by
  have hlistening := (h channel).held (isHeld_iff.2 (.inr hsender))
  simp only [deliver, hsender, hlistening, if_true]

/-- Delivering an event keeps every channel in order. -/
theorem Orderly.deliver (h : x.Orderly) (event : TapEvent) : (x.deliver event).2.Orderly := by
  cases hsender : x.router.sender with
  | none => simpa only [Exchange.deliver, hsender] using h
  | some channel =>
      rw [h.deliver_eq hsender]
      intro other
      by_cases hother : other = channel
      · subst hother
        have hlistening := (h other).held (isHeld_iff.2 (.inr hsender))
        have hopened := (h other).lt_opened hlistening
        have haccount := (h other).account
        refine ⟨fun _ => ?_, fun hended => ?_, fun hle => ?_, ?_⟩
        · simp
        · simp at hended
        · exact absurd hopened (Nat.not_lt.2 hle)
        · simp_all [receivedOn, sentOn, setLine, ← List.append_assoc]
      · refine (h other).elsewhere (line_setLine_of_ne hother) ?_ rfl id (Nat.le_refl _)
        simp [sentOn, Ne.symm hother]

/-- Delivering an event leaves the router as it is. -/
theorem deliver_router (x : Exchange) (event : TapEvent) :
    (x.deliver event).2.router = x.router := by
  unfold Exchange.deliver
  split
  · rfl
  · dsimp only
    split <;> rfl

theorem Orderly.deliverAll (h : x.Orderly) (events : List TapEvent) :
    (x.deliverAll events).2.Orderly := by
  induction events generalizing x with
  | nil => exact h
  | cons event events ih => exact ih (h.deliver event)

theorem deliverAll_router (x : Exchange) (events : List TapEvent) :
    (x.deliverAll events).2.router = x.router := by
  induction events generalizing x with
  | nil => rfl
  | cons event events ih => exact (ih _).trans (x.deliver_router event)

/-- **No event is refused as long as there is a sender**, and it is sent through the channel of the
sender. -/
theorem Orderly.deliverAll_of_sender (h : x.Orderly) (hsender : x.router.sender = some channel)
    (events : List TapEvent) :
    (x.deliverAll events).1 = events.map (fun _ => .sent) ∧
      (x.deliverAll events).2.sent = x.sent ++ events.map (channel, ·) := by
  induction events generalizing x with
  | nil => exact ⟨rfl, (List.append_nil _).symm⟩
  | cons event events ih =>
      have hdeliver := h.deliver_eq hsender event
      have hnext : (x.deliver event).2.router.sender = some channel := by
        rw [deliver_router, hsender]
      obtain ⟨hanswers, hsent⟩ := ih (h.deliver event) hnext
      refine ⟨?_, ?_⟩
      · rw [Exchange.deliverAll, List.map_cons, ← hanswers, hdeliver]
      · refine hsent.trans ?_
        rw [hdeliver]
        simp

/-- Without a sender nothing is delivered. -/
theorem deliverAll_of_none (hsender : x.router.sender = none) (events : List TapEvent) :
    x.deliverAll events = (events.map (fun _ => .noSender), x) := by
  induction events with
  | nil => rfl
  | cons event events ih => simp [Exchange.deliverAll, Exchange.deliver, hsender, ih]

/-- **A router answers as its exchange does**: what it tells of its channels by who holds them is
what their listeners make of it. -/
theorem Orderly.step_eq (h : x.Orderly) (e : Router.Step) :
    (x.step e).1 = (x.router.step e).1 ∧ (x.step e).2.router = (x.router.step e).2.1 ∧
      (x.step e).2.sent =
        x.sent ++ (x.router.step e).2.2.map (x.router.sender.getD 0, ·) := by
  cases e with
  | register =>
      simp only [step, Router.step]
      cases x.router.register <;> simp [setLine]
  | send events =>
      refine ⟨?_, x.deliverAll_router events, ?_⟩
      · cases hsender : x.router.sender with
        | none => simp [step, Router.step, Router.delivery, hsender, deliverAll_of_none]
        | some channel =>
            have hheld := isHeld_iff.2 (.inr hsender)
            simp [step, Router.step, Router.delivery, hsender, hheld,
              (h.deliverAll_of_sender hsender events).1]
      · cases hsender : x.router.sender with
        | none =>
            simp [step, Router.step, Router.heard, Router.delivery, hsender, deliverAll_of_none]
        | some channel =>
            have hheld := isHeld_iff.2 (.inr hsender)
            simp [step, Router.step, Router.heard, Router.delivery, hsender, hheld,
              (h.deliverAll_of_sender hsender events).2]
  | _ => simp [step, Router.step]

/-- **A step of the router keeps every channel in order.** -/
theorem Orderly.step (h : x.Orderly) (e : Router.Step) : (x.step e).2.Orderly := by
  cases e with
  | register =>
      simp only [Exchange.step, Router.register]
      by_cases hown : x.router.own.isSome = true
      · simpa only [if_pos hown] using h
      · simp only [if_neg hown]
        intro other
        by_cases hother : other = x.router.opened
        · subst hother
          have haccount := (h x.router.opened).account
          rw [(h x.router.opened).drained ((h x.router.opened).fresh (Nat.le_refl _))] at haccount
          refine ⟨fun _ => ?_, fun hended => ?_, fun hle => ?_, ?_⟩
          · simp
          · simp at hended
          · exact absurd hle (Nat.not_succ_le_self _)
          · simpa [receivedOn, sentOn, setLine] using haccount
        · refine (h other).elsewhere (line_setLine_of_ne hother) rfl rfl (fun hheld => ?_)
            (Nat.le_succ _)
          have hown : some x.router.opened ≠ some other := by simpa using Ne.symm hother
          exact isHeld_iff.2 (.inr ((isHeld_iff.1 hheld).resolve_left hown))
  | takeSender =>
      refine fun channel => (h channel).elsewhere rfl rfl rfl (fun hheld => ?_) (Nat.le_refl _)
      exact isHeld_iff.2 (.inl (or_self_iff.1 (isHeld_iff.1 hheld)))
  | dropSender =>
      refine fun channel => (h channel).elsewhere rfl rfl rfl (fun hheld => ?_) (Nat.le_refl _)
      exact isHeld_iff.2 (.inl ((isHeld_iff.1 hheld).resolve_right nofun))
  | close =>
      refine fun channel => (h channel).elsewhere rfl rfl rfl (fun hheld => ?_) (Nat.le_refl _)
      exact isHeld_iff.2 (.inr ((isHeld_iff.1 hheld).resolve_left nofun))
  | send events => exact h.deliverAll events

/-- Asking the router keeps every channel in order. -/
theorem Orderly.ask (h : x.Orderly) (e : Router.Step) : (x.ask e).Orderly := fun channel =>
  (h.step e channel).elsewhere rfl rfl rfl id (Nat.le_refl _)

end Exchange

end MacConsent
