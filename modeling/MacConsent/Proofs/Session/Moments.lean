import MacConsent.Proofs.Session.Frame

/-!
# MacConsent.Proofs.Session.Moments

When confirmations ask for what.  `Session.moments` lists the requests that the
confirmations make in a step, in order, each with the desk at which it is made.
Nothing is left out as far as updates go: those that a step adds to the log are
those of its moments (`step_updates`).
-/

namespace MacConsent.Session

open Desk (Asked Pending)
open Remedy (Request)

/-- A request that a confirmation makes, and the desk at which it is made. -/
structure Moment where
  asked : Asked
  request : Request
  desk : Desk

/-- The profile and the uid of the update that is asked for. -/
def Moment.update? (m : Moment) : Option (Profile × Uid) := m.request.update?

namespace Desk

/-! ## confirmations -/

/-- The moments of a plan that is followed for a confirmation. -/
def planMoments {α : Type} (d : Desk) (asked : Asked) (plan : Remedy.Plan α) : List Moment :=
  (plan.requests carryOut d).map fun m => ⟨asked, m.1, m.2⟩

/-- The moments in which the choice of a confirmation's dialog is acted on. -/
def concludeMoments (d : Desk) (pending : Pending) (choice : Dialog.Choice) : List Moment :=
  d.planMoments pending.asked
    (Remedy.conclude d.messages pending.asked.id pending.profile choice)

/-- The moments of a confirmation that begins, up to its end or to a dialog that waits. -/
def startMoments (d : Desk) (asked : Asked) : List Moment :=
  let plan := Remedy.check d.messages asked.id asked.identity
  d.planMoments asked plan ++
    match (plan.run carryOut).run d with
    | (.error _, _) => []
    | (.ok p, d) =>
      let d := d.called (.dialog (Remedy.question d.messages p))
      match d.answers with
      | choice :: answers => { d with answers }.concludeMoments ⟨asked, p⟩ choice
      | [] => []

/-- The moments of the confirmations among items, up to a dialog that waits. -/
def consumeMoments (d : Desk) : List (Queue.Item Asked) → List Moment
  | [] => []
  | .barrier ticket :: rest => (work.pass ticket d).consumeMoments rest
  | .job asked :: rest =>
    d.startMoments asked ++
      match d.start asked with
      | (d, none) => d.consumeMoments rest
      | (_, some _) => []

end Desk

/-! ## steps -/

/-- The moments in which a dialog is answered. -/
def actMoments (s : Session) : Step → List Moment
  | .reply choice =>
    if s.desk.unanswered then
      match s.queue.current with
      | none => []
      | some pending => { s.desk with unanswered := false }.concludeMoments pending choice
    else []
  | _ => []

/-- The moments in which the worker goes on. -/
def settleMoments (s : Session) : List Moment :=
  match s.queue.worker, s.queue.current with
  | .running, none => s.desk.consumeMoments s.queue.waiting
  | _, _ => []

/-- The requests that confirmations make in a step, in order. -/
def moments (s : Session) (e : Step) : List Moment :=
  s.actMoments e ++ (s.act e).2.settleMoments

/-! ## the log -/

namespace Desk

variable (d : Desk)

theorem planMoments_call {α : Type} (asked : Asked) (r : Request)
    (next : r.Answer → Remedy.Plan α) :
    d.planMoments asked (.call r next) =
      ⟨asked, r, d⟩ ::
        ((carryOut r).run d).2.planMoments asked (next ((carryOut r).run d).1) := rfl

theorem filterMap_update?_cons (m : Moment) (ms : List Moment) :
    (m :: ms).filterMap Moment.update? = m.request.update?.toList ++ ms.filterMap Moment.update? := by
  rw [List.filterMap_cons, Moment.update?]
  cases m.request.update? <;> rfl

/-- A plan updates at the moments of its run, and in their order. -/
theorem run_updates {α : Type} (asked : Asked) (plan : Remedy.Plan α) :
    ((plan.run carryOut).run d).2.updates =
      d.updates ++ (d.planMoments asked plan).filterMap Moment.update? := by
  induction plan generalizing d with
  | done a => exact (List.append_nil _).symm
  | call r next ih =>
      rw [Remedy.Plan.run_call, ih, carryOut_updates, planMoments_call, filterMap_update?_cons,
        List.append_assoc]

/-- A choice is followed by updates at moments of its conclusion only. -/
theorem conclude_updates (pending : Pending) (choice : Dialog.Choice) :
    (d.conclude pending choice).updates =
      d.updates ++ (d.concludeMoments pending choice).filterMap Moment.update? :=
  (resolve_untouched _ _ _).updates.trans (d.run_updates pending.asked _)

theorem start_updates (asked : Asked) :
    (d.start asked).1.updates =
      d.updates ++ (d.startMoments asked).filterMap Moment.update? := by
  have hcheck := d.run_updates asked (Remedy.check d.messages asked.id asked.identity)
  rw [start, startMoments, List.filterMap_append, ← List.append_assoc, ← hcheck]
  obtain ⟨fault | p, d₁⟩ :=
    ((Remedy.check d.messages asked.id asked.identity).run carryOut).run d
  · exact (resolve_untouched _ _ _).updates.trans (List.append_nil _).symm
  · have hcalled : (d₁.called (.dialog (Remedy.question d₁.messages p))).updates = d₁.updates :=
      (updates_of_calls (d₁.called_calls _)).trans (List.append_nil _)
    dsimp only
    rw [← hcalled]
    generalize d₁.called (.dialog (Remedy.question d₁.messages p)) = d₂
    cases d₂.answers with
    | nil => exact (List.append_nil _).symm
    | cons choice answers => exact conclude_updates { d₂ with answers } ⟨asked, p⟩ choice

/-- Items update at the moments of their confirmations. -/
theorem consume_updates (items : List (Queue.Item Asked)) :
    (Queue.Serial.consume work d items).1.updates =
      d.updates ++ (d.consumeMoments items).filterMap Moment.update? := by
  induction items generalizing d with
  | nil => exact (List.append_nil _).symm
  | cons item items ih =>
      cases item with
      | barrier ticket =>
          have hpass := resolve_untouched d (some ticket) (.flushed (.ok ()))
          rw [Queue.Serial.consume, ih, consumeMoments]
          exact congrArg (· ++ _) hpass.updates
      | job asked =>
          have hwork : work.start asked d = d.start asked := rfl
          rw [Queue.Serial.consume, hwork, consumeMoments, List.filterMap_append,
            ← List.append_assoc, ← d.start_updates asked]
          obtain ⟨d₁, _ | pending⟩ := d.start asked
          · exact ih d₁
          · exact (List.append_nil _).symm

end Desk

/-- A queue that settles updates at the moments of its confirmations. -/
theorem settle_updates (s : Session) :
    s.settle.desk.updates = s.desk.updates ++ s.settleMoments.filterMap Moment.update? := by
  by_cases h : s.queue.worker = .running ∧ s.queue.current = none
  · rw [settle_of_ready h.1 h.2, settleMoments, h.1, h.2, ← Desk.consume_updates]
    obtain ⟨d, _ | pending, rest⟩ := Queue.Serial.consume Desk.work s.desk s.queue.waiting
    · cases s.queue.held with
      | true => rfl
      | false => exact d.traced_updates _
    · rfl
  · have hmoments : s.settleMoments = [] := by
      rw [settleMoments]
      split
      · next hworker hcurrent => exact absurd ⟨hworker, hcurrent⟩ h
      · rfl
    rw [settle_of_not_ready h, hmoments]
    exact (List.append_nil _).symm

/-- A stop updates nothing. -/
theorem stop_updates (s : Session) : s.stop.desk.updates = s.desk.updates := by
  have hlose : ∀ (items : List (Queue.Item Asked)) (d : Desk),
      (items.foldl lose d).updates = d.updates := by
    intro items
    induction items with
    | nil => exact fun _ => rfl
    | cons item items ih =>
        intro d
        rw [List.foldl_cons, ih]
        cases item with
        | job asked => exact (Desk.resolve_untouched d _ _).updates
        | barrier ticket => exact (Desk.resolve_untouched d _ _).updates
  exact hlose _ s.desk

/-- **Every update of a step is one of its moments.** -/
theorem act_updates (s : Session) (e : Step) :
    (s.act e).2.desk.updates =
      s.desk.updates ++ (s.actMoments e).filterMap Moment.update? := by
  by_cases hends : e.endsWait = true
  · cases e with
    | stop => exact s.stop_updates.trans (List.append_nil _).symm
    | reply choice =>
        rw [act, reply, actMoments]
        split
        · dsimp only
          cases s.queue.current with
          | none => exact (List.append_nil _).symm
          | some pending =>
              exact Desk.conclude_updates { s.desk with unanswered := false } pending choice
        · exact (List.append_nil _).symm
    | _ => cases hends
  · have hprogress := s.act_progress (Bool.not_eq_true _ ▸ hends)
    have hmoments : s.actMoments e = [] := by
      cases e with
      | reply choice => exact absurd rfl hends
      | _ => rfl
    rw [hmoments]
    exact (congrArg Progress.updates hprogress).trans (List.append_nil _).symm

/-- **The updates of a step are those of its moments**: the log gets them in order, and no
others. -/
theorem step_updates (s : Session) (e : Step) :
    (s.step e).2.desk.updates = s.desk.updates ++ (s.moments e).filterMap Moment.update? := by
  rw [moments, List.filterMap_append, ← List.append_assoc, ← act_updates, ← settle_updates]
  rfl

end MacConsent.Session
