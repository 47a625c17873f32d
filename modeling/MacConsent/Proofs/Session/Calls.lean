import MacConsent.Proofs.Session.Course

/-!
# MacConsent.Proofs.Session.Calls

The calls of one confirmation, in any world and in any shift.  Whatever comes
between its requests, they go by the protocol: its plans make no other calls than
those listed, and a confirmation in hand goes on with them (`Hand.Conforms.lasting`),
so that each beat of a shift keeps a confirmation to it (`Shift.Conforms`).
-/

namespace MacConsent.Session

open Desk (Asked)
open Remedy (Outcome Plan Request)

/-! ## a confirmation in hand -/

/-- The calls of a confirmation in hand are those that the protocol lists up to there. -/
def Hand.Conforms (h : Hand) (messages : Messages) (calls : List Call) : Prop :=
  match h.stage with
  | .checking plan => Logs (Checked messages h.asked) plan calls
  | .asking p =>
    h.asked.identity = some p.identity ∧
      calls = [.get h.asked.id (some p), .dialog (Remedy.question messages p)]
  | .concluding plan => ∃ p choice more, h.asked.identity = some p.identity ∧
    calls = .get h.asked.id (some p) :: .dialog (Remedy.question messages p) :: more ∧
      Logs (Ending messages p choice) plan more

variable {messages : Messages} {asked : Asked} {calls : List Call}

/-- A confirmation that comes to its outcome has gone by the protocol. -/
theorem Hand.Conforms.ended {hd : Hand} {outcome : Outcome} (h : hd.Conforms messages calls)
    (houtcome : hd.outcome? = some outcome) :
    Protocol messages hd.asked.id hd.asked.identity calls (some outcome) := by
  obtain ⟨number, asked, stage⟩ := hd
  unfold Hand.outcome? at houtcome
  split at houtcome
  · next hstage =>
      cases hstage
      cases houtcome
      exact Checked.protocol h
  · next hstage =>
      cases hstage
      cases houtcome
      obtain ⟨p, choice, more, hsame, rfl, hend⟩ := h
      exact .answered hsame hend
  · cases houtcome

/-- The calls of a confirmation in hand begin a course of the protocol. -/
theorem Hand.Conforms.begins {hd : Hand} (h : hd.Conforms messages calls) :
    ∃ more outcome, Protocol messages hd.asked.id hd.asked.identity (calls ++ more) outcome := by
  obtain ⟨number, asked, stage⟩ := hd
  cases stage with
  | checking plan =>
      obtain ⟨more, checked, hchecked⟩ := Logs.exists_result (show Logs _ plan calls from h)
      cases checked with
      | error fault => exact ⟨more, _, hchecked.protocol⟩
      | ok p =>
          obtain ⟨hsame, hcalls⟩ := hchecked.valid
          refine ⟨more ++ [.dialog (Remedy.question messages p)], none, ?_⟩
          rw [← List.append_assoc, hcalls]
          exact .unanswered hsame
  | asking p =>
      obtain ⟨hsame, rfl⟩ := h
      exact ⟨[], none, .unanswered hsame⟩
  | concluding plan =>
      obtain ⟨p, choice, made, hsame, rfl, hlogs⟩ := h
      obtain ⟨more, outcome, hend⟩ := hlogs.exists_result
      exact ⟨more, some outcome, .answered hsame hend⟩

/-- A confirmation in hand goes on by the protocol. -/
theorem Hand.Conforms.lasting (messages : Messages) :
    Hand.Lasting messages fun hd calls => hd.Conforms messages calls where
  taken _ asked := check_logs messages asked
  checked h answer := h answer
  opened h := by
    obtain ⟨hsame, hfound⟩ := Checked.valid (show Checked messages _ _ (.ok _) from h)
    exact ⟨hsame, hfound ▸ rfl⟩
  replied h choice := ⟨_, choice, [], h.1, h.2, conclude_logs ..⟩
  concluded h answer := by
    obtain ⟨p, choice, more, hsame, rfl, hlogs⟩ := h
    exact ⟨p, choice, _, hsame, rfl, hlogs answer⟩

namespace Shift

/-! ## shifts -/

/-- A confirmation that is gone has gone by the protocol: to its outcome, or as far as it got before
the worker was stopped. -/
def Closed (s : Shift) (messages : Messages) (n : Nat) : Prop :=
  (∃ e ∈ s.ended, e.number = n ∧
    Protocol messages e.asked.id e.asked.identity (s.callsOf n) (some e.outcome)) ∨
  ((∀ e ∈ s.ended, e.number ≠ n) ∧ ∃ asked, s.submitted[n]? = some asked ∧
    Protocol messages asked.id asked.identity (s.callsOf n) none)

/-- The calls of a confirmation go by the protocol, in each part of its life. -/
structure Conforms (s : Shift) (messages : Messages) (n : Nat) : Prop where
  wording : s.session.desk.messages = messages
  tracks : s.Tracks n (s.callsOf n = []) (fun hd => hd.Conforms messages (s.callsOf n))
    (s.Closed messages n)

variable {n : Nat} {s s' : Shift} {b : Beat}

/-- Other confirmations end, and one that is gone remains as it was. -/
theorem Closed.others (h : s.Closed messages n) (hcalls : s'.callsOf n = s.callsOf n)
    {more : List Ended} (hended : s'.ended = s.ended ++ more) (hothers : ∀ e ∈ more, e.number ≠ n)
    (hsubmitted : s.submitted <+: s'.submitted) : s'.Closed messages n := by
  rw [Closed, hcalls, hended]
  rcases h with ⟨e, he, hprotocol⟩ | ⟨hnone, asked, hasked, hprotocol⟩
  · exact .inl ⟨e, List.mem_append_left _ he, hprotocol⟩
  · refine .inr ⟨fun e he => ?_, asked, getElem?_mono hsubmitted hasked, hprotocol⟩
    exact (List.mem_append.1 he).elim (hnone e) (hothers e)

/-- **Every move keeps a confirmation to the protocol.** -/
theorem Conforms.move (h : s.Conforms messages n) (hturn : s.InTurn) (honce : s.Once)
    (hmove : s.Move b s') : s'.Conforms messages n where
  wording := hmove.messages.trans h.wording
  tracks := by
    refine h.tracks.move (Hand.Conforms.lasting messages) h.wording hturn hmove
      (fun hcalls hmore hclosed => ?_) (fun asked p hhand hheld hcalls hended => ?_)
      fun hd outcome hhand hn houtcome hheld hcalls hmem => ?_
    · obtain ⟨more, hended, hothers⟩ := hmore
      exact hclosed.others hcalls hended hothers hmove.submitted_grows
    · -- the confirmation is dropped at its dialog
      obtain ⟨hsame, hasked⟩ := hheld
      rw [Closed, hcalls, hended, hasked]
      exact .inr ⟨honce.hand _ hhand, asked,
        getElem?_mono hmove.submitted_grows (hturn.hand _ hhand).2, .unanswered hsame⟩
    · rw [Closed, hcalls]
      exact .inl ⟨_, hmem, hn, hheld.ended houtcome⟩

/-- In the beginning no confirmation has made a call. -/
theorem begin_conforms (desk : Desk) (router : Router) (tickets n : Nat) :
    (begin desk router tickets).Conforms desk.messages n where
  wording := rfl
  tracks :=
    ⟨fun _ => by simp [callsOf, begin], fun _ hhd => (by cases hhd), fun hlt => absurd hlt n.not_lt_zero⟩

/-- However a shift goes on, its confirmations go by the protocol. -/
theorem Conforms.run (h : s.Conforms messages n) (hturn : s.InTurn) (honce : s.Once)
    (beats : List Beat) : (s.run beats).Conforms messages n :=
  (hturn.run_keeps (I := fun s => s.Once ∧ s.Conforms messages n)
    (fun hturn hmove h => ⟨h.1.move hturn hmove, h.2.move hturn h.1 hmove⟩) ⟨honce, h⟩ beats).2

/-- The calls of each confirmation in a shift. -/
structure GoesByProtocol (s : Shift) (messages : Messages) : Prop where
  /-- One that has ended has gone by the protocol to its outcome. -/
  ended : ∀ e ∈ s.ended,
    Protocol messages e.asked.id e.asked.identity (s.callsOf e.number) (some e.outcome)
  /-- One that has not ended and is not in hand was not begun, or it was dropped at its dialog. -/
  unended : ∀ n asked, s.submitted[n]? = some asked → (∀ e ∈ s.ended, e.number ≠ n) →
    (∀ hd, s.hand = some hd → hd.number ≠ n) →
    Protocol messages asked.id asked.identity (s.callsOf n) none
  /-- The one in hand has begun a course of the protocol. -/
  hand : ∀ hd, s.hand = some hd → ∃ more outcome,
    Protocol messages hd.asked.id hd.asked.identity (s.callsOf hd.number ++ more) outcome

/-- **The worker of a shift goes by the protocol**, whatever comes between the requests of a
confirmation. -/
theorem run_goesByProtocol (desk : Desk) (router : Router) (tickets : Nat) (beats : List Beat) :
    ((begin desk router tickets).run beats).GoesByProtocol desk.messages := by
  have hturn₀ := begin_inTurn desk router tickets
  have hturn := hturn₀.run beats
  have honce := (begin_once desk router tickets).run hturn₀ beats
  have hconforms (n : Nat) := (begin_conforms desk router tickets n).run hturn₀
    (begin_once desk router tickets) beats
  generalize (begin desk router tickets).run beats = s at *
  refine ⟨fun e he => ?_, fun n asked hasked hnone hother => ?_, fun hd hhd => ?_⟩
  · have hother (hd : Hand) (hhd : s.hand = some hd) : hd.number ≠ e.number :=
      Ne.symm (honce.hand hd hhd e he)
    rcases (hconforms e.number).tracks.left (honce.taken e he) hother with
      ⟨e', he', hnumber, hprotocol⟩ | ⟨hnone, _⟩
    · cases List.inj_on_of_nodup_map honce.unique he he' hnumber.symm
      exact hprotocol
    · exact absurd rfl (hnone e he)
  · by_cases htaken : s.taken ≤ n
    · rw [(hconforms n).tracks.waiting htaken]
      exact .unbegun
    · rcases (hconforms n).tracks.left (Nat.lt_of_not_le htaken) hother with
        ⟨e, he, hnumber, -⟩ | ⟨-, asked', hasked', hprotocol⟩
      · exact absurd hnumber (hnone e he)
      · cases hasked.symm.trans hasked'
        exact hprotocol
  · exact ((hconforms hd.number).tracks.held hd hhd rfl).begins

end Shift

/-! ## the protocol and its courses -/

/-- **The calls of a confirmation are those of the protocol.**  Any world leads to one of its courses,
and each of its courses is what some world leads to.  The worker of a session is such a world: it goes
by the protocol if it brings a confirmation to its dialog or to its end without a pause, and it does so
whatever comes between two requests of the confirmation. -/
theorem confirmation_calls_iff (messages : Messages) (id : NetworkId) (captured : Option String) :
    (∀ calls outcome,
      (∃ (σ : Type) (w : World σ) (s s' : σ),
        (confirmation w.recorded messages id captured).run (s, []) = (outcome, s', calls)) ↔
      Protocol messages id captured calls outcome) ∧
    (∀ (d : Desk) (asked : Asked),
      (∃ outcome more, (d.start asked).2 = none ∧ (d.start asked).1.calls = d.calls ++ more ∧
        Protocol d.messages asked.id asked.identity more (some outcome)) ∨
      ∃ p, (d.start asked).2 = some ⟨asked, p⟩ ∧ asked.identity = some p.identity ∧
        (d.start asked).1.calls =
          d.calls ++ [.get asked.id (some p), .dialog (Remedy.question d.messages p)]) ∧
    (∀ (d : Desk) (pending : Desk.Pending) (choice : Dialog.Choice),
      ∃ outcome more, (d.conclude pending choice).calls = d.calls ++ more ∧
        Ending d.messages pending.profile choice more outcome) ∧
    ∀ (desk : Desk) (router : Router) (tickets : Nat) (beats : List Beat),
      ((Shift.begin desk router tickets).run beats).GoesByProtocol desk.messages :=
  ⟨fun _ _ => protocol_iff, Desk.start_calls, Desk.conclude_calls, Shift.run_goesByProtocol⟩

end MacConsent.Session
