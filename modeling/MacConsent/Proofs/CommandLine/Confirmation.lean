import MacConsent.Proofs.CommandLine.Offer
import MacConsent.Proofs.Session.Protocol

/-!
# MacConsent.Proofs.CommandLine.Confirmation

The confirmation of the program.  A host with a state of its own is a world around
confirmations (`Host.world`) in which every turn comes and every dialog leads to a
choice.  The confirmation of the program is the one of that world
(`Host.confirm_eq`), so it goes by the protocol to an outcome
(`Host.confirm_protocol`).
-/

namespace MacConsent.CommandLine

open Remedy (Plan Request)
open Session (World Protocol confirmation proceed)

variable {σ : Type}

/-! ## one state of two -/

/-- A computation over a shelf and a state, as one over both. -/
def joined {α : Type} (x : StateT Shelf (StateM σ) α) : StateM (Shelf × σ) α := fun (shelf, s) =>
  let ((a, shelf), s) := (x.run shelf).run s
  (a, (shelf, s))

theorem joined_bind {α β : Type} (x : StateT Shelf (StateM σ) α)
    (f : α → StateT Shelf (StateM σ) β) :
    joined (x >>= f) = joined x >>= fun a => joined (f a) := rfl

/-- A plan may be followed over both as well. -/
theorem run_joined (carryOut : (r : Request) → StateT Shelf (StateM σ) r.Answer) {α : Type}
    (plan : Plan α) :
    plan.run (fun r => joined (carryOut r)) = joined (plan.run carryOut) := by
  induction plan with
  | done a => rfl
  | call r next ih =>
      rw [Plan.run, Plan.run, joined_bind]
      exact bind_congr ih

/-! ## the world of a host -/

/-- A host and its shelf as the world around a confirmation. -/
def Host.world (h : Host (StateM σ)) (icons : Dialog.IconSet) : World (Shelf × σ) where
  turn := return true
  carryOut r := joined (h.carryOut r)
  answer request := joined do return some (← h.ask { request, icons })

/-- **The confirmation of the program is the one of its host.** -/
theorem Host.confirm_eq (h : Host (StateM σ)) (icons : Dialog.IconSet) (id : NetworkId)
    (captured : Option String) :
    confirmation (h.world icons) {} id captured =
      joined do return some (← h.confirm icons id captured) := by
  have hcarry (α : Type) (plan : Plan α) :
      plan.run (h.world icons).carryOut = joined (plan.run h.carryOut) := run_joined h.carryOut plan
  have hturn : (h.world icons).turn = return true := rfl
  rw [confirmation, hturn, pure_bind, if_pos rfl, hcarry, Host.confirm, bind_assoc, joined_bind]
  refine bind_congr fun checked => ?_
  cases checked with
  | error fault => rfl
  | ok p =>
      simp only [proceed, hcarry]
      rfl

/-! ## a record of calls -/

/-- A computation with a record of calls comes to the same as the one without. -/
def Forgets {α : Type} (recorded : StateM (σ × List Session.Call) α) (x : StateM σ α) : Prop :=
  ∀ s calls, ∃ more, recorded.run (s, calls) = ((x.run s).1, ((x.run s).2, more))

/-- One step after the other. -/
theorem Forgets.bind {α β : Type} {recorded : StateM (σ × List Session.Call) α} {x : StateM σ α}
    {k : α → StateM (σ × List Session.Call) β} {k' : α → StateM σ β} (h : Forgets recorded x)
    (hk : ∀ a, Forgets (k a) (k' a)) : Forgets (recorded >>= k) (x >>= k') := by
  intro s calls
  obtain ⟨more, hrun⟩ := h s calls
  rw [Session.run_bind_of_run hrun]
  exact hk (x.run s).1 (x.run s).2 more

theorem forgets_pure {α : Type} (a : α) : Forgets (pure a) (pure a : StateM σ α) :=
  fun _ calls => ⟨calls, rfl⟩

/-- A record of the calls does not change what a plan comes to. -/
theorem run_recorded (w : World σ) {α : Type} (plan : Plan α) :
    Forgets (plan.run w.recorded.carryOut) (plan.run w.carryOut) := by
  induction plan with
  | done a => exact forgets_pure a
  | call r next ih => exact .bind (fun _ _ => ⟨_, rfl⟩) ih

/-- Nor does it change what a confirmation comes to. -/
theorem confirmation_recorded (w : World σ) (messages : Messages) (id : NetworkId)
    (captured : Option String) :
    Forgets (confirmation w.recorded messages id captured)
      (confirmation w messages id captured) := by
  refine .bind (fun _ calls => ⟨calls, rfl⟩) fun turn => ?_
  cases turn with
  | false => exact forgets_pure none
  | true =>
      refine .bind (run_recorded w _) fun checked => ?_
      cases checked with
      | error fault => exact forgets_pure _
      | ok p =>
          refine .bind (fun _ _ => ⟨_, rfl⟩) fun choice => ?_
          cases choice with
          | none => exact forgets_pure none
          | some choice => exact .bind (run_recorded w _) fun outcome => forgets_pure (some outcome)

/-! ## the protocol -/

/-- **A confirmation of the program goes by the protocol to an outcome.** -/
theorem Host.confirm_protocol (h : Host (StateM σ)) (icons : Dialog.IconSet) (id : NetworkId)
    (captured : Option String) (shelf : Shelf) (s : σ) :
    ∃ outcome shelf' s' calls,
      ((h.confirm icons id captured).run shelf).run s = ((outcome, shelf'), s') ∧
      (confirmation (h.world icons).recorded {} id captured).run ((shelf, s), []) =
        (some outcome, ((shelf', s'), calls)) ∧
      Protocol {} id captured calls (some outcome) := by
  obtain ⟨⟨outcome, shelf'⟩, s', hrun⟩ : ∃ result s',
    ((h.confirm icons id captured).run shelf).run s = (result, s') := ⟨_, _, rfl⟩
  have hplain : (confirmation (h.world icons) {} id captured).run (shelf, s) =
      (some outcome, (shelf', s')) := by
    rw [h.confirm_eq]
    exact congrArg (fun result => (some result.1.1, (result.1.2, result.2))) hrun
  obtain ⟨calls, hrecorded⟩ := confirmation_recorded (h.world icons) {} id captured (shelf, s) []
  rw [hplain] at hrecorded
  exact ⟨outcome, shelf', s', calls, hrun, hrecorded,
    Session.protocol_iff.1 ⟨_, h.world icons, (shelf, s), (shelf', s'), hrecorded⟩⟩

end MacConsent.CommandLine
