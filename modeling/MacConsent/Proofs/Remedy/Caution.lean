import MacConsent.Proofs.Remedy.Requests

/-!
# MacConsent.Proofs.Remedy.Caution

How a plan goes about changes (`Plan.Cautious`).  As long as its requests have
changed nothing it may end in any way.  But once one has changed something or
asks for a scan, the plan is bound to end as applied, or it has turned
randomization off for a network and looks that one up next, and then it is bound
to end as applied if the look shows what the update has left.  A confirmation
goes about its change like that (`conclude_cautious`), and before its dialog it
changes nothing at all (`check_spares`).
-/

namespace MacConsent.Remedy

/-- Whether a request that got an answer has changed nothing, and is not for a scan. -/
def Request.spares : (r : Request) → r.Answer → Bool
  | .update .., .ok () => false
  | .enable .., .ok () => false
  | .scan _, _ => false
  | _, _ => true

namespace Plan

variable {α β : Type}

/-! ## endings -/

/-- However a plan goes on, it ends with a `P`. -/
def Ends (P : α → Prop) : Plan α → Prop
  | .done a => P a
  | .call _ next => ∀ answer, (next answer).Ends P

theorem Ends.past {P : α → Prop} {r : Request} {f : r.Answer → Plan α}
    (h : ∀ answer, (f answer).Ends P) : ((ask r).bind f).Ends P := h

/-- The plan looks a network up next, and is bound to end as applied if that has no randomization. -/
def Verifies (id : NetworkId) : Plan Outcome → Prop
  | .call (.look i) next =>
    i = id ∧ ∀ p : Profile, p.macPolicy = .disabled → (next (some p)).Ends (· = .applied)
  | _ => False

theorem Verifies.look {id : NetworkId} {plan : Plan Outcome} (h : plan.Verifies id) :
    ∃ next, plan = .call (.look id) next ∧
      ∀ p : Profile, p.macPolicy = .disabled → (next (some p)).Ends (· = .applied) := by
  unfold Verifies at h
  split at h
  · obtain ⟨rfl, hshown⟩ := h
    exact ⟨_, rfl, hshown⟩
  · exact h.elim

/-! ## caution -/

/-- A plan that is bound to end as applied once it has changed something, apart from an update that
it verifies. -/
def Cautious : Plan Outcome → Prop
  | .done _ => True
  | .call r next => ∀ answer,
    if r.spares answer then (next answer).Cautious
    else (next answer).Ends (· = .applied) ∨
      ∃ p uid, r = .update p uid ∧ p.macPolicy = .disabled ∧ (next answer).Verifies p.id

/-- A request that changes nothing, whatever its answer is. -/
theorem Cautious.past {r : Request} {f : r.Answer → Plan Outcome}
    (hr : ∀ answer, r.spares answer = true) (h : ∀ answer, (f answer).Cautious) :
    ((ask r).bind f).Cautious := by
  intro answer
  rw [if_pos (hr answer)]
  exact h answer

/-- What follows is bound to end as applied in any case. -/
theorem Cautious.of_ends {plan : Plan Outcome} (h : plan.Ends (· = .applied)) : plan.Cautious := by
  induction plan with
  | done outcome => trivial
  | call r next ih =>
      intro answer
      split
      · exact ih answer (h answer)
      · exact .inl (h answer)

end Plan

/-! ## confirmations -/

variable (messages : Messages) (id : NetworkId)

/-- Before its dialog, a confirmation changes nothing. -/
theorem check_spares (captured : Option String) :
    (check messages id captured).All fun r => ∀ answer, r.spares answer = true := by
  refine .bind (.ask fun _ => rfl) fun found => ?_
  cases validate id captured found with
  | ok p => exact .done _
  | error fault => exact .bind (.ask fun _ => rfl) fun _ => .bind (.ask fun _ => rfl) fun _ => .done _

/-- Once the store shows a change, the confirmation is bound to end as applied; until then its report
changes nothing. -/
theorem apply_report (p : Profile) :
    ∃ report, apply messages id p = (disable p).bind report ∧
      (∀ updated, (report (.ok updated)).Ends (· = .applied)) ∧
      ∀ fault, (report (.error fault)).Cautious := by
  refine ⟨_, rfl, fun updated => .past fun _ => .past fun enabled => ?_, fun fault => ?_⟩
  · cases enabled with
    | ok _ => exact .past fun _ => .past fun _ => rfl
    | error fault => exact .past fun _ => .past fun _ => .past fun _ => rfl
  · exact .past (fun _ => rfl) fun _ => .past (fun _ => rfl) fun _ => trivial

/-- **A confirmation goes about its change with caution.** -/
theorem conclude_cautious (p : Profile) (choice : Dialog.Choice) :
    (conclude messages id p choice).Cautious := by
  by_cases hchoice : choice = .accepted
  · obtain ⟨report, happly, hshown, hfailed⟩ := apply_report messages id p
    rw [conclude, if_pos hchoice, happly]
    have hlook (found : Option Profile) : (report (verify p.id found)).Cautious := by
      cases verify p.id found with
      | ok updated => exact .of_ends (hshown updated)
      | error fault => exact hfailed fault
    intro updated
    cases updated with
    | ok _ =>
        refine .inr ⟨p.withDeviceMac, systemUid, rfl, rfl, rfl, fun q hq => ?_⟩
        have hverify : verify p.id (some q) = .ok q := if_pos hq
        change (report (verify p.id (some q))).Ends _
        rw [hverify]
        exact hshown q
    | error fault => exact .past (fun _ => rfl) fun _ => .past (fun _ => rfl) hlook
  · rw [conclude, if_neg hchoice]
    exact .past (fun _ => rfl) fun _ => trivial

end MacConsent.Remedy
