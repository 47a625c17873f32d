import Mathlib.Data.List.Basic
import MacConsent.Proofs.Router.Listeners

/-!
# MacConsent.Proofs.Router.Registration

How many handlers a router takes on.  A router knows of a handler only as long as
it holds a channel, and closing it lets go of that: a registration is refused
exactly as long as the router was not closed since the one before.  So a router
takes on a second handler once it was closed in between
(`Exchange.registrations_le_one_iff`), and the first one may still be listening
then (`Exchange.two_listeners`).
-/

namespace MacConsent.Exchange

open Router (Step)

variable {x : Exchange}

/-! ## the account of registrations -/

/-- Whether something that was asked is a registration that was accepted. -/
def isRegistration : Step × Router.Answer → Bool
  | (.register, .done) => true
  | _ => false

/-- How many registrations were accepted. -/
def registrations (x : Exchange) : Nat := x.asked.countP isRegistration

/-- What is asked of the router in a beat. -/
def Beat.step? : Beat → Option Step
  | .ask e => some e
  | .listen _ => none

/-- What is asked of the router in a number of beats. -/
def steps (beats : List Beat) : List Step := beats.filterMap Beat.step?

@[simp] theorem steps_ask (e : Step) (beats : List Beat) :
    steps (.ask e :: beats) = e :: steps beats := rfl

@[simp] theorem steps_listen (channel : Nat) (beats : List Beat) :
    steps (.listen channel :: beats) = steps beats := rfl

/-- What has to be asked, in order, for a number of registrations to be accepted by a router that
holds a channel, or by one that holds none. -/
def course (own : Bool) : Nat → List Step
  | 0 => []
  | n + 1 =>
    if own then .close :: .register :: course true n else .register :: course true n

/-- That the router was not closed since a registration was asked for. -/
def Standing (steps : List Step) : Prop :=
  ∃ before after, steps = before ++ .register :: after ∧ .close ∉ after

/-! ## one step -/

/-- A registration is refused while the router holds a channel, and then it changes nothing. -/
theorem step_register_of_own (h : x.router.own.isSome = true) :
    x.step .register = (.refused .alreadyRegistered, x) := by
  simp [step, Router.register, h]

/-- A registration that is accepted opens a channel of its own. -/
theorem step_register_of_none (h : x.router.own.isSome = false) :
    x.step .register =
      (.done, { x.setLine x.router.opened { listening := true } with
        router := { x.router with own := some x.router.opened, opened := x.router.opened + 1 } }) := by
  simp [step, Router.register, h]

/-- Whether the router holds a channel after something was asked of it. -/
def heldAfter (own : Bool) : Step → Bool
  | .register => true
  | .close => false
  | _ => own

/-- How many registrations something asked brings: one, if it is one and no channel is held. -/
def gain (own : Bool) : Step → Nat
  | .register => if own then 0 else 1
  | _ => 0

theorem ask_own (x : Exchange) (e : Step) :
    (x.ask e).router.own.isSome = heldAfter x.router.own.isSome e := by
  cases e with
  | register =>
      cases h : x.router.own.isSome with
      | true => simp [ask, step_register_of_own h, heldAfter, h]
      | false => simp [ask, step_register_of_none h, heldAfter]
  | send events => simp [ask, step, deliverAll_router, heldAfter]
  | _ => simp [ask, step, Router.step, Router.takeSender, Router.dropSender, Router.close, heldAfter]

theorem ask_registrations (x : Exchange) (e : Step) :
    (x.ask e).registrations = x.registrations + gain x.router.own.isSome e := by
  have hcount : (x.ask e).registrations =
      x.registrations + [(e, (x.step e).1)].countP isRegistration := List.countP_append
  rw [hcount]
  cases e with
  | register =>
      cases h : x.router.own.isSome with
      | true => simp [step_register_of_own h, isRegistration, gain]
      | false => simp [step_register_of_none h, isRegistration, gain]
  | _ => simp [isRegistration, gain]

theorem listen_same (x : Exchange) (channel : Nat) :
    (x.beat (.listen channel)).router = x.router ∧
      (x.beat (.listen channel)).asked = x.asked := by
  rw [beat]
  cases hturn : x.turn? channel with
  | none => exact ⟨rfl, rfl⟩
  | some x' =>
      cases Turn.of_turn? hturn with
      | takes => exact ⟨rfl, rfl⟩
      | ends => exact ⟨rfl, rfl⟩

/-- What is left of a course after something was asked. -/
theorem course_sublist_cons (own : Bool) (n : Nat) (e : Step) (more : List Step) :
    (course own n).Sublist (e :: more) ↔
      (course (heldAfter own e) (n - gain own e)).Sublist more := by
  cases n with
  | zero => simp [course]
  | succ n =>
      have hother {first : Step} {rest : List Step} (h : first ≠ e) :
          (first :: rest).Sublist (e :: more) ↔ (first :: rest).Sublist more :=
        List.cons_sublist_cons'.trans (or_iff_left fun hsame => h hsame.1)
      cases own with
      | false =>
          cases e with
          | register => exact List.cons_sublist_cons
          | _ => exact hother nofun
      | true =>
          cases e with
          | close => exact List.cons_sublist_cons
          | _ => exact hother nofun

/-! ## runs -/

/-- **A number of registrations are accepted exactly if a course for them is asked for**, whatever
else is asked in between. -/
theorem registrations_run (x : Exchange) (beats : List Beat) (n : Nat) :
    x.registrations + n ≤ (x.run beats).registrations ↔
      (course x.router.own.isSome n).Sublist (steps beats) := by
  induction beats generalizing x n with
  | nil => cases n <;> cases h : x.router.own.isSome <;> simp [run, steps, course]
  | cons b beats ih =>
      rw [run_cons]
      cases b with
      | listen channel =>
          obtain ⟨hrouter, hasked⟩ := x.listen_same channel
          have hcount : (x.beat (.listen channel)).registrations = x.registrations := by
            rw [registrations, hasked, registrations]
          rw [← hcount, ← hrouter, ih, steps_listen]
      | ask e =>
          have hmono := (ih (x.ask e) 0).2 (List.nil_sublist _)
          have hnext := ih (x.ask e) (n - gain x.router.own.isSome e)
          rw [ask_registrations] at hmono hnext
          rw [steps_ask, course_sublist_cons, ← ask_own, ← hnext]
          change _ ≤ ((x.ask e).run beats).registrations ↔ _
          omega

theorem asked_run (x : Exchange) (beats : List Beat) :
    (x.run beats).asked.map Prod.fst = x.asked.map Prod.fst ++ steps beats := by
  induction beats generalizing x with
  | nil => simp [run, steps]
  | cons b beats ih =>
      rw [run_cons, ih]
      cases b with
      | listen channel => rw [(x.listen_same channel).2, steps_listen]
      | ask e => simp [beat, ask]

theorem standing_cons_iff (e : Step) (more : List Step) :
    Standing (e :: more) ↔ e = .register ∧ .close ∉ more ∨ Standing more := by
  constructor
  · rintro ⟨before, after, hsplit, hopen⟩
    cases before with
    | nil =>
        obtain ⟨rfl, rfl⟩ := List.cons.inj hsplit
        exact .inl ⟨rfl, hopen⟩
    | cons e' before =>
        obtain ⟨-, rfl⟩ := List.cons.inj hsplit
        exact .inr ⟨before, after, rfl, hopen⟩
  · rintro (⟨rfl, hopen⟩ | ⟨before, after, rfl, hopen⟩)
    · exact ⟨[], more, rfl, hopen⟩
    · exact ⟨e :: before, after, rfl, hopen⟩

/-- A router holds a channel exactly as long as it was not closed since a registration. -/
theorem own_run_iff (x : Exchange) (beats : List Beat) :
    (x.run beats).router.own.isSome = true ↔
      Standing (steps beats) ∨ x.router.own.isSome = true ∧ .close ∉ steps beats := by
  induction beats generalizing x with
  | nil => simp [run, steps, Standing]
  | cons b beats ih =>
      rw [run_cons, ih]
      cases b with
      | listen channel => rw [(x.listen_same channel).1, steps_listen]
      | ask e =>
          rw [steps_ask, standing_cons_iff, beat, ask_own]
          cases e with
          | register =>
              have : x.router.own.isSome = true ∧ .close ∉ Step.register :: steps beats →
                  .close ∉ steps beats := fun h hclose => h.2 (.tail _ hclose)
              simp only [heldAfter]
              tauto
          | _ => simp [heldAfter]

/-! ## one handler and more -/

/-- **A router takes on one handler as long as it is not closed.** It takes on a second one exactly if
it was closed in between; and a registration is refused, and changes nothing, exactly as long as it
was not closed since the one before. -/
theorem registrations_le_one_iff (beats : List Beat) :
    let x := ({} : Exchange).run beats
    let asked := x.asked.map Prod.fst
    (x.registrations ≤ 1 ↔ ¬ [.register, .close, .register].Sublist asked) ∧
    (Standing asked → x.step .register = (.refused .alreadyRegistered, x)) ∧
    (¬ Standing asked →
      (x.step .register).1 = .done ∧
      (x.step .register).2.line x.router.opened = { listening := true } ∧
      ∀ other, other ≠ x.router.opened → (x.step .register).2.line other = x.line other) := by
  intro x asked
  have hasked : asked = steps beats := asked_run {} beats
  have hstanding : x.router.own.isSome = true ↔ Standing asked := by
    rw [hasked]
    exact (own_run_iff {} beats).trans (or_iff_left (by simp))
  refine ⟨?_, fun h => step_register_of_own (hstanding.2 h), fun h => ?_⟩
  · have htwo : 0 + 2 ≤ x.registrations ↔ (course false 2).Sublist (steps beats) :=
      registrations_run {} beats 2
    rw [hasked, ← show course false 2 = [.register, .close, .register] from rfl, ← htwo]
    omega
  · rw [step_register_of_none (Bool.eq_false_iff.2 (hstanding.not.2 h))]
    exact ⟨rfl, line_setLine_self _, fun other hother => line_setLine_of_ne hother⟩

/-- A router that was closed takes on a second handler while the first one is listening. -/
theorem two_listeners :
    let beats : List Beat := [.ask .register, .ask .takeSender, .ask .close, .ask .register]
    let x := ({} : Exchange).run beats
    ¬ x.registrations ≤ 1 ∧
      (x.line 0).listening = true ∧ x.turn? 0 = none ∧
      (x.line 1).listening = true ∧ x.turn? 1 = none := by
  intro beats x
  have hclosed : [Step.register, .close, .register].Sublist (x.asked.map Prod.fst) :=
    .cons_cons _ (.cons _ (.cons_cons _ (.cons_cons _ .slnil)))
  exact ⟨fun hone => (registrations_le_one_iff beats).1.1 hone hclosed, rfl, rfl, rfl, rfl⟩

end MacConsent.Exchange
