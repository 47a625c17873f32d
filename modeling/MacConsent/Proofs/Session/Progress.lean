import MacConsent.Proofs.Session.Course

/-!
# MacConsent.Proofs.Session.Progress

The worker comes to every confirmation that its queue took on, as long as it goes
on and the dialogs that wait get their choices (`Shift.InTurn.exists_decided`).
It gets its hand free after some requests and at most one choice, and meanwhile
it takes nothing from its queue (`Shift.Frees`); so each time there is one item
less before a confirmation that waits.
-/

namespace MacConsent.Session

open Desk (Asked)
open Queue (Item Leads)
open Remedy (Outcome Plan)

/-- The worker goes on, or the dialog that waits gets a choice. -/
inductive Beat.Onward : Beat → Prop
  | work : Onward (.work [])
  | reply (choice : Dialog.Choice) : Onward (.outside (.reply choice))

namespace Shift

variable {s s' : Shift} {n number : Nat} {asked : Asked}

/-! ## a free hand -/

/-- The worker has taken nothing more from its queue. -/
structure Holds (s s' : Shift) : Prop where
  taken : s'.taken = s.taken
  worker : s'.session.queue.worker = s.session.queue.worker
  waiting : s'.session.queue.waiting = s.session.queue.waiting

/-- The worker gets its hand free before it takes anything more from its queue. -/
def Frees (s : Shift) : Prop :=
  ∃ beats, (∀ b ∈ beats, b.Onward) ∧ (s.run beats).hand = none ∧ s.Holds (s.run beats)

theorem frees_of_none (h : s.hand = none) : s.Frees :=
  ⟨[], ⟨fun _ hb => (nomatch hb), h, rfl, rfl, rfl⟩⟩

/-- It is enough to get to a shift in which the worker gets its hand free. -/
theorem Frees.after {beats : List Beat} (h : (s.run beats).Frees) (honward : ∀ b ∈ beats, b.Onward)
    (hholds : s.Holds (s.run beats)) : s.Frees := by
  obtain ⟨more, hmore, hnone, hholds'⟩ := h
  rw [← run_append] at hnone hholds'
  exact ⟨beats ++ more, fun b hb => (List.mem_append.1 hb).elim (honward b) (hmore b), hnone,
    hholds'.taken.trans hholds.taken, hholds'.worker.trans hholds.worker,
    hholds'.waiting.trans hholds.waiting⟩

theorem Frees.of_leads (h : s'.Frees) (hleads : Leads (work? · []) s s') (hholds : s.Holds s') :
    s.Frees := by
  obtain ⟨works, rfl⟩ := exists_works hleads
  exact h.after (fun b hb => List.eq_of_mem_replicate hb ▸ .work) hholds

/-- What the worker does next. -/
theorem Frees.of_work (h : s'.Frees) (hwork : s.work? [] = some s') (hholds : s.Holds s') :
    s.Frees :=
  h.of_leads (.turn hwork (.refl _)) hholds

/-- The worker goes to the end of a plan. -/
theorem frees_of_plan {α : Type} {stage : Plan α → Stage}
    (hcall : ∀ (s : Shift) (r : Remedy.Request) (next : r.Answer → Plan α),
      s.goOn? ⟨number, asked, stage (.call r next)⟩ [] =
        some (s.request ⟨number, asked, stage (.call r next)⟩ r (fun a => stage (next a)) []))
    {plan : Plan α} (hturn : s.InTurn) (hhand : s.hand = some ⟨number, asked, stage plan⟩)
    (hdone : ∀ a (s' : Shift), s'.InTurn → s'.hand = some ⟨number, asked, stage (.done a)⟩ →
      s'.Frees) : s.Frees := by
  obtain ⟨a, desk, hrun⟩ : ∃ a desk,
      (plan.run Desk.carryOut).run s.session.desk = (a, desk) := ⟨_, _, rfl⟩
  obtain ⟨s', hleads, -, htaken, hhand', hsession⟩ := leads_plan hcall hhand hrun
  have hturn' : s'.InTurn := by
    obtain ⟨works, rfl⟩ := exists_works hleads
    exact hturn.run _
  exact (hdone a s' hturn' hhand').of_leads hleads
    ⟨htaken, congrArg (·.queue.worker) hsession, congrArg (·.queue.waiting) hsession⟩

theorem frees_concluding {plan : Plan Outcome} (hturn : s.InTurn)
    (hhand : s.hand = some ⟨number, asked, .concluding plan⟩) : s.Frees := by
  refine frees_of_plan (fun _ _ _ => rfl) hturn hhand fun outcome s' _ hhand' => ?_
  have hwork : s'.work? [] =
      some (s'.finish ⟨number, asked, .concluding (.done outcome)⟩ outcome) := by
    rw [work?, hhand']
    rfl
  exact (frees_of_none rfl).of_work hwork ⟨rfl, rfl, rfl⟩

theorem frees_asking {p : Profile} (hturn : s.InTurn)
    (hhand : s.hand = some ⟨number, asked, .asking p⟩) : s.Frees := by
  have hunanswered : s.session.desk.unanswered = true := hturn.unanswered _ hhand rfl
  let plan := Remedy.conclude s.session.desk.messages asked.id p .dismissed
  have hreply : s.run [.outside (.reply .dismissed)] =
      { s with
        session := { s.session with
          desk := { s.session.desk with unanswered := false }
          queue := s.session.queue.finish }
        hand := some ⟨number, asked, .concluding plan⟩
        dialogs := s.dialogs.filter (· != number) } := by
    change s.reply .dismissed = _
    rw [reply, if_pos hunanswered, hhand]
  have hfrees : (s.run [.outside (.reply .dismissed)]).Frees :=
    frees_concluding (hturn.run _) (congrArg Shift.hand hreply)
  have hholds : s.Holds (s.run [.outside (.reply .dismissed)]) := by
    rw [hreply]
    exact ⟨rfl, rfl, rfl⟩
  exact hfrees.after (fun b hb => List.mem_singleton.1 hb ▸ .reply _) hholds

theorem frees_checking {plan : Plan (Except Remedy.Fault Profile)} (hturn : s.InTurn)
    (hhand : s.hand = some ⟨number, asked, .checking plan⟩) : s.Frees := by
  refine frees_of_plan (fun _ _ _ => rfl) hturn hhand fun checked s' hturn' hhand' => ?_
  cases checked with
  | error fault =>
      have hwork : s'.work? [] = some
          (s'.finish ⟨number, asked, .checking (.done (.error fault))⟩ (.invalidated fault)) := by
        rw [work?, hhand']
        rfl
      exact (frees_of_none rfl).of_work hwork ⟨rfl, rfl, rfl⟩
  | ok p =>
      have hwork : s'.work? [] =
          some (s'.openDialog ⟨number, asked, .checking (.done (.ok p))⟩ p) := by
        rw [work?, hhand']
        rfl
      have hopened : (s'.openDialog ⟨number, asked, .checking (.done (.ok p))⟩ p).InTurn := by
        have hbeat := hturn'.beat (.work [])
        rwa [beat, hwork] at hbeat
      obtain ⟨stage, hstage, hcases, hrest⟩ :=
        s'.openDialog_rest ⟨number, asked, .checking (.done (.ok p))⟩ p
      have hfrees : (s'.openDialog ⟨number, asked, .checking (.done (.ok p))⟩ p).Frees := by
        rcases hcases with rfl | ⟨choice, rfl⟩
        · exact frees_asking hopened hstage
        · exact frees_concluding hopened hstage
      exact hfrees.of_work hwork ⟨hrest.taken, hrest.worker, hrest.waiting⟩

/-- **The worker gets its hand free**, whatever it has in it. -/
theorem InTurn.frees (h : s.InTurn) : s.Frees := by
  cases hhand : s.hand with
  | none => exact frees_of_none hhand
  | some hd =>
      obtain ⟨number, asked, stage⟩ := hd
      cases stage with
      | checking plan => exact frees_checking h hhand
      | asking p => exact frees_asking h hhand
      | concluding plan => exact frees_concluding h hhand

/-! ## the queue -/

theorem decided_of_none (h : s.hand = none) (htaken : n < s.taken) : s.Decided n :=
  ⟨htaken, fun hd hhd => by rw [h] at hhd; cases hhd⟩

/-- Some beats of the worker and choices get a confirmation past its check. -/
def Comes (s : Shift) (n : Nat) : Prop :=
  ∃ beats, (∀ b ∈ beats, b.Onward) ∧ (s.run beats).Decided n

theorem Comes.after {beats : List Beat} (h : (s.run beats).Comes n)
    (honward : ∀ b ∈ beats, b.Onward) : s.Comes n := by
  obtain ⟨more, hmore, hdecided⟩ := h
  rw [← run_append] at hdecided
  exact ⟨beats ++ more, fun b hb => (List.mem_append.1 hb).elim (honward b) (hmore b), hdecided⟩

/-- The worker comes to a confirmation among the items that wait. -/
theorem comes_of_waiting {items : List (Item Asked)} (hturn : s.InTurn) (hhand : s.hand = none)
    (hrunning : s.session.queue.worker = .running) (hwaiting : s.session.queue.waiting = items)
    (hn : n < s.submitted.length) : s.Comes n := by
  induction items generalizing s with
  | nil =>
      have hall : s.submitted.drop s.taken = [] := (hturn.waiting hrunning).trans (hwaiting ▸ rfl)
      have hle := List.drop_eq_nil_iff.1 hall
      exact ⟨[], fun _ hb => (nomatch hb), decided_of_none hhand (Nat.lt_of_lt_of_le hn hle)⟩
  | cons item items ih =>
      have hwork : s.beat (.work []) = s.take?.getD s := by rw [beat, work?, hhand]
      have hfirst (hcomes : (s.beat (.work [])).Comes n) : s.Comes n := by
        change (s.run [.work []]).Comes n at hcomes
        exact hcomes.after fun b hb => List.mem_singleton.1 hb ▸ .work
      have hturn' := hturn.beat (.work [])
      rw [take?_running hrunning, hwaiting] at hwork
      cases item with
      | barrier ticket =>
          refine hfirst (ih hturn' ?_ ?_ ?_ ?_) <;> rw [hwork]
          exacts [hhand, hrunning, rfl, hn]
      | job asked =>
          refine hfirst ?_
          rw [hwork] at hturn' ⊢
          obtain ⟨beats, honward, hnone, hholds⟩ := hturn'.frees
          have hsubmitted := ((s.withFirst asked items).submitted_grows_run beats).length_le
          exact (ih (hturn'.run beats) hnone (hholds.worker.trans hrunning) hholds.waiting
            (Nat.lt_of_lt_of_le hn hsubmitted)).after honward

/-- **The worker comes to every confirmation that its queue took on**, and gets past its check, as
long as it goes on and the dialogs that wait get their choices. -/
theorem InTurn.exists_decided (h : s.InTurn) (hrunning : s.session.queue.worker = .running)
    (hn : n < s.submitted.length) :
    ∃ beats, (∀ b ∈ beats, b.Onward) ∧ (s.run beats).Decided n := by
  obtain ⟨beats, honward, hnone, hholds⟩ := h.frees
  have hsubmitted := (s.submitted_grows_run beats).length_le
  have hcomes : (s.run beats).Comes n :=
    comes_of_waiting (h.run beats) hnone (hholds.worker.trans hrunning) rfl
      (Nat.lt_of_lt_of_le hn hsubmitted)
  exact hcomes.after honward

end Shift

end MacConsent.Session
