import MacConsent.Proofs.Session.Frame

/-!
# MacConsent.Proofs.Session.Protocol

What one confirmation asks of the world around it, call by call.  The world is
any that answers: its store may give any profile at any time and refuse or
ignore what it is asked for, its dialogs may lead to any choice, and the worker
may be stopped before the confirmation begins or while the dialog is open.

`Protocol` lists the ways in which a confirmation can go, with the calls in
their order and the outcome.  The plans of a confirmation make the calls that are
listed, however they are answered (`check_logs`, `conclude_logs`), and whoever
records calls finds them in the record (`Logs.run`).  The ways are exactly those
that some world leads to (`protocol_iff`).  A desk is such a world: it logs the
calls of a confirmation as they are listed here (`Desk.start_calls`,
`Desk.conclude_calls`).
-/

namespace MacConsent.Session

open Desk (Asked)
open Remedy (Outcome Plan Request check conclude question systemUid validate verify wifiSource)

/-! ## the protocol -/

/-- The calls of a confirmation after the choice of its dialog for a profile, and its outcome. -/
inductive Ending (messages : Messages) (p : Profile) : Dialog.Choice → List Call → Outcome → Prop
  | declined {choice : Dialog.Choice} (hchoice : choice ≠ .accepted) :
      Ending messages p choice [] (.declined choice)
  /-- Neither the answer to the update nor that to the enabling matters. -/
  | applied (updated enabled : Except Store.Fault Unit) {shown : Profile}
      (hshown : shown.macPolicy = .disabled) :
      Ending messages p .accepted
        [.update p.withDeviceMac systemUid updated, .get p.id (some shown),
          .toast messages.success, .enable shown.id systemUid enabled, .scan wifiSource]
        .applied
  | unverified (updated : Except Store.Fault Unit) {found : Option Profile}
      (hfound : ∀ q ∈ found, q.macPolicy ≠ .disabled) :
      Ending messages p .accepted
        [.update p.withDeviceMac systemUid updated, .get p.id found, .toast messages.failure]
        .unverified

/-- The calls of a confirmation, and its outcome if the worker is not stopped before there is
one. -/
inductive Protocol (messages : Messages) (id : NetworkId) (captured : Option String) :
    List Call → Option Outcome → Prop
  /-- The worker is stopped before the confirmation begins. -/
  | unbegun : Protocol messages id captured [] none
  | missing :
      Protocol messages id captured [.get id none, .toast messages.networkNotFound]
        (some (.invalidated (.notFound id)))
  | stale {p : Profile} (hstale : captured ≠ some p.identity) :
      Protocol messages id captured [.get id (some p), .toast messages.networkNotFound]
        (some (.invalidated (.stale id captured p.identity)))
  /-- The worker is stopped while the dialog is open. -/
  | unanswered {p : Profile} (hsame : captured = some p.identity) :
      Protocol messages id captured [.get id (some p), .dialog (question messages p)] none
  | answered {p : Profile} (hsame : captured = some p.identity) {choice : Dialog.Choice}
      {calls : List Call} {outcome : Outcome} (hend : Ending messages p choice calls outcome) :
      Protocol messages id captured (.get id (some p) :: .dialog (question messages p) :: calls)
        (some outcome)

/-! ## the log of a plan -/

/-- However a plan goes on, its calls after those so far, and its result, are as they should be. -/
def Logs {α : Type} (post : List Call → α → Prop) : Plan α → List Call → Prop
  | .done a, calls => post calls a
  | .call r next, calls => ∀ answer, Logs post (next answer) (calls ++ (Call.of? r answer).toList)

section Logs

variable {α β : Type} {post : List Call → α → Prop} {made : List Call} {plan : Plan α}

/-- A plan that goes on with another one. -/
theorem Logs.bind {after : List Call → β → Prop} {next : α → Plan β} (h : Logs post plan made)
    (hnext : ∀ made a, post made a → Logs after (next a) made) :
    Logs after (plan.bind next) made := by
  induction plan generalizing made with
  | done a => exact hnext made a h
  | call r rest ih => exact fun answer => ih answer (h answer)

/-- A plan can come to a result. -/
theorem Logs.exists_result (h : Logs post plan made) : ∃ more a, post (made ++ more) a := by
  induction plan generalizing made with
  | done a => exact ⟨[], a, (List.append_nil made).symm ▸ h⟩
  | call r rest ih =>
      obtain ⟨answer⟩ : Nonempty r.Answer := by
        cases r <;> first | exact ⟨none⟩ | exact ⟨.ok ()⟩ | exact ⟨()⟩
      obtain ⟨more, a, hpost⟩ := ih answer (h answer)
      exact ⟨_, a, List.append_assoc made _ more ▸ hpost⟩

/-- Each request adds its call to a record, and nothing else does. -/
def Records {σ : Type} (carryOut : (r : Request) → StateM σ r.Answer) (calls : σ → List Call) :
    Prop :=
  ∀ r s, calls ((carryOut r).run s).2 =
    calls s ++ (Call.of? r ((carryOut r).run s).1).toList

/-- **A plan that is run records what it logs.** -/
theorem Logs.run {σ : Type} {carryOut : (r : Request) → StateM σ r.Answer} {calls : σ → List Call}
    (h : Logs post plan made) (hrecords : Records carryOut calls) (s : σ) :
    ∃ a s' more, (plan.run carryOut).run s = (a, s') ∧ calls s' = calls s ++ more ∧
      post (made ++ more) a := by
  induction plan generalizing made s with
  | done a => exact ⟨a, s, [], rfl, (List.append_nil _).symm, (List.append_nil made).symm ▸ h⟩
  | call r next ih =>
      obtain ⟨a, s', more, hrun, hcalls, hpost⟩ := ih _ (h _) ((carryOut r).run s).2
      refine ⟨a, s', _ ++ more, hrun, ?_, List.append_assoc made _ more ▸ hpost⟩
      rw [hcalls, hrecords r s, List.append_assoc]
      rfl

end Logs

/-! ## the plans of a confirmation -/

section Plans

variable {messages : Messages} {id : NetworkId} {captured : Option String} {asked : Asked}
  {calls : List Call}

/-- The calls of a check that has come to its result. -/
def Checked (messages : Messages) (asked : Asked) (calls : List Call)
    (checked : Except Remedy.Fault Profile) : Prop :=
  ∃ found, checked = Remedy.validate asked.id asked.identity found ∧
    calls = .get asked.id found ::
      match checked with
      | .ok _ => []
      | .error _ => [.toast messages.networkNotFound]

/-- **A check looks the network up**, and tells the user if it is not the one that is meant. -/
theorem check_logs (messages : Messages) (asked : Asked) :
    Logs (Checked messages asked) (check messages asked.id asked.identity) [] := by
  intro found
  have hrest : Logs (Checked messages asked)
      (match validate asked.id asked.identity found with
        | .ok p => .done (.ok p)
        | .error fault =>
          (Plan.ask (.trace (.notActedOn asked.id fault))).bind fun _ =>
            (Plan.ask (.toast messages.networkNotFound)).bind fun _ => .done (.error fault))
      [.get asked.id found] := by
    cases hvalid : validate asked.id asked.identity found with
    | ok p => exact ⟨found, hvalid.symm, rfl⟩
    | error fault => exact fun _ _ => ⟨found, hvalid.symm, rfl⟩
  exact hrest

/-- A check that has succeeded has found a profile of the identity that it was asked for. -/
theorem Checked.valid {p : Profile} (h : Checked messages asked calls (.ok p)) :
    asked.identity = some p.identity ∧ calls = [.get asked.id (some p)] := by
  obtain ⟨found, hvalid, rfl⟩ := h
  obtain ⟨rfl, hsame⟩ := Remedy.validate_eq_ok hvalid.symm
  exact ⟨hsame, rfl⟩

/-- The dialog is reached with the profile that is meant; without it, all is over. -/
theorem protocol_of_invalid {found : Option Profile} {fault : Remedy.Fault}
    (h : validate id captured found = .error fault) :
    Protocol messages id captured [.get id found, .toast messages.networkNotFound]
      (some (.invalidated fault)) := by
  unfold validate at h
  split at h
  · cases h; exact .missing
  · split at h
    · cases h
    · next hstale => cases h; exact .stale hstale

/-- A check that has failed ends the protocol. -/
theorem Checked.protocol {fault : Remedy.Fault} (h : Checked messages asked calls (.error fault)) :
    Protocol messages asked.id asked.identity calls (some (.invalidated fault)) := by
  obtain ⟨found, hvalid, rfl⟩ := h
  exact protocol_of_invalid hvalid.symm

/-- A change is asked for, and the store is looked at. -/
theorem disable_logs (p : Profile) :
    Logs (fun calls checked => ∃ updated found, checked = verify p.id found ∧
      calls = [.update p.withDeviceMac systemUid updated, .get p.id found])
      (Remedy.disable p) [] := by
  intro updated
  cases updated with
  | ok _ => exact fun found => ⟨.ok (), found, rfl, rfl⟩
  | error fault => exact fun _ found => ⟨.error fault, found, rfl, rfl⟩

/-- A profile that fails the last check does not have its randomization disabled. -/
theorem not_shown_of_verify {found : Option Profile} {fault : Remedy.Fault}
    (h : verify id found = .error fault) : ∀ q ∈ found, q.macPolicy ≠ .disabled := by
  rintro q rfl hshown
  rw [verify, if_pos hshown] at h
  cases h

/-- **What follows a dialog is an ending of the protocol.** -/
theorem conclude_logs (messages : Messages) (id : NetworkId) (p : Profile)
    (choice : Dialog.Choice) :
    Logs (Ending messages p choice) (conclude messages id p choice) [] := by
  rw [conclude]
  split
  · next haccepted =>
      subst haccepted
      refine (disable_logs p).bind ?_
      rintro _ checked ⟨updated, found, rfl, rfl⟩
      cases hverify : verify p.id found with
      | ok q =>
          obtain ⟨rfl, hshown⟩ := Remedy.verify_eq_ok hverify
          intro _ enabled
          cases enabled with
          | ok _ => exact fun _ _ => .applied updated (.ok ()) hshown
          | error fault => exact fun _ _ _ => .applied updated (.error fault) hshown
      | error fault => exact fun _ _ => .unverified updated (not_shown_of_verify hverify)
  · next hother => exact fun _ => .declined hother

end Plans

/-! ## any world -/

theorem run_bind_of_run {σ α β : Type} {x : StateM σ α} {f : α → StateM σ β} {s s' : σ} {a : α}
    (h : x.run s = (a, s')) : (x >>= f).run s = (f a).run s' := by
  rw [StateT.run_bind, h]
  rfl

/-- The world around one confirmation, with a state of its own. -/
structure World (σ : Type) where
  /-- Whether the confirmation's turn comes before the worker is stopped. -/
  turn : StateM σ Bool
  carryOut : (r : Request) → StateM σ r.Answer
  /-- The choice that a dialog leads to, unless the worker is stopped while it is open. -/
  answer : Dialog.Request → StateM σ (Option Dialog.Choice)

/-- The world with a record of the calls that are made to it. -/
def World.recorded {σ : Type} (w : World σ) : World (σ × List Call) where
  turn := fun (s, calls) =>
    let (turn, s) := w.turn.run s
    (turn, (s, calls))
  carryOut r := fun (s, calls) =>
    let (answer, s) := (w.carryOut r).run s
    (answer, (s, calls ++ (Call.of? r answer).toList))
  answer request := fun (s, calls) =>
    let (choice, s) := (w.answer request).run s
    (choice, (s, calls ++ [.dialog request]))

/-- What a confirmation does after its check, up to its outcome; there is none if the worker is
stopped. -/
def proceed {σ : Type} (w : World σ) (messages : Messages) (id : NetworkId) :
    Except Remedy.Fault Profile → StateM σ (Option Outcome)
  | .error fault => return some (.invalidated fault)
  | .ok p => do
    match ← w.answer (question messages p) with
    | none => return none
    | some choice => return some (← (conclude messages id p choice).run w.carryOut)

/-- A confirmation from its turn to its outcome. -/
def confirmation {σ : Type} (w : World σ) (messages : Messages) (id : NetworkId)
    (captured : Option String) : StateM σ (Option Outcome) := do
  if ← w.turn then
    proceed w messages id (← (check messages id captured).run w.carryOut)
  else return none

section World

variable {σ : Type} {messages : Messages} {id : NetworkId} {captured : Option String}

/-- A world that adds each call to a record, and nothing else. -/
structure World.Keeps (w : World σ) (calls : σ → List Call) : Prop where
  turn : ∀ s, calls (w.turn.run s).2 = calls s
  carryOut : Records w.carryOut calls
  answer : ∀ request s, calls ((w.answer request).run s).2 = calls s ++ [.dialog request]

/-- A dialog is recorded with what it asks. -/
theorem World.Keeps.ask {w : World σ} {calls : σ → List Call} (h : w.Keeps calls)
    (request : Dialog.Request) (s : σ) :
    ∃ choice s', (w.answer request).run s = (choice, s') ∧ calls s' = calls s ++ [.dialog request] :=
  ⟨_, _, rfl, h.answer request s⟩

theorem World.recorded_keeps (w : World σ) : w.recorded.Keeps Prod.snd :=
  ⟨fun _ => rfl, fun _ _ => rfl, fun _ _ => rfl⟩

/-- A confirmation whose turn has come goes on with what its check has found. -/
theorem confirmation_of_turn {w : World σ} {checked : Except Remedy.Fault Profile} {s s₁ s₂ : σ}
    (hturn : w.turn.run s = (true, s₁))
    (hcheck : ((check messages id captured).run w.carryOut).run s₁ = (checked, s₂)) :
    (confirmation w messages id captured).run s = (proceed w messages id checked).run s₂ := by
  rw [confirmation, run_bind_of_run hturn, if_pos rfl, run_bind_of_run hcheck]

/-- After the check, the dialog is answered and the choice concluded. -/
theorem proceed_of_choice {w : World σ} {p : Profile} {choice : Dialog.Choice} {outcome : Outcome}
    {s s₁ s₂ : σ} (hanswer : (w.answer (question messages p)).run s = (some choice, s₁))
    (hconclude : ((conclude messages id p choice).run w.carryOut).run s₁ = (outcome, s₂)) :
    (proceed w messages id (.ok p)).run s = (some outcome, s₂) := by
  rw [proceed, run_bind_of_run hanswer]
  dsimp only
  rw [run_bind_of_run hconclude]
  rfl

/-- **A confirmation goes by the protocol in any world.** -/
theorem confirmation_calls (messages : Messages) (id : NetworkId) (captured : Option String)
    {w : World σ} {calls : σ → List Call} (h : w.Keeps calls) (s : σ) :
    ∃ outcome s' more, (confirmation w messages id captured).run s = (outcome, s') ∧
      calls s' = calls s ++ more ∧ Protocol messages id captured more outcome := by
  obtain ⟨turn, s₁, hturn, hcalls₁⟩ :
      ∃ turn s₁, w.turn.run s = (turn, s₁) ∧ calls s₁ = calls s := ⟨_, _, rfl, h.turn s⟩
  cases turn with
  | false =>
      refine ⟨none, s₁, [], ?_, by rw [hcalls₁, List.append_nil], .unbegun⟩
      rw [confirmation, run_bind_of_run hturn]
      rfl
  | true =>
      obtain ⟨checked, s₂, found, hcheck, hcalls₂, hchecked⟩ :=
        (check_logs messages ⟨id, captured, none⟩).run h.carryOut s₁
      rw [hcalls₁] at hcalls₂
      rw [confirmation_of_turn hturn hcheck]
      cases checked with
      | error fault => exact ⟨_, s₂, found, rfl, hcalls₂, hchecked.protocol⟩
      | ok p =>
          obtain ⟨hsame, rfl⟩ := hchecked.valid
          obtain ⟨choice, s₃, hanswer, hcalls₃⟩ := h.ask (question messages p) s₂
          rw [hcalls₂, List.append_assoc] at hcalls₃
          cases choice with
          | none =>
              refine ⟨none, s₃, _, ?_, hcalls₃, .unanswered hsame⟩
              rw [proceed, run_bind_of_run hanswer]
              rfl
          | some choice =>
              obtain ⟨outcome, s₄, more, hconclude, hcalls₄, hend⟩ :=
                (conclude_logs messages id p choice).run h.carryOut s₃
              refine ⟨some outcome, s₄, _, proceed_of_choice hanswer hconclude, ?_,
                .answered hsame hend⟩
              rw [hcalls₄, hcalls₃, List.append_assoc]
              rfl

/-- A world that gives the answers of a script: one profile before the update is asked for, and
another one after it. -/
def World.scripted (turn : Bool) (found : Option Profile) (choice : Option Dialog.Choice)
    (updated : Except Store.Fault Unit) (shown : Option Profile)
    (enabled : Except Store.Fault Unit) : World Bool where
  turn := fun asked => (turn, asked)
  carryOut
    | .look _ => fun asked => (if asked then shown else found, asked)
    | .update .. => fun _ => (updated, true)
    | .enable .. => fun asked => (enabled, asked)
    | .post .. => fun asked => ((), asked)
    | .toast _ => fun asked => ((), asked)
    | .scan _ => fun asked => ((), asked)
    | .trace _ => fun asked => ((), asked)
  answer _ := fun asked => (choice, asked)

section Scripted

variable (messages id captured) (p : Profile) (found shown : Option Profile)
  (choice : Option Dialog.Choice) (updated enabled : Except Store.Fault Unit) (calls : List Call)

/-- The check in a world that goes by a script. -/
theorem check_scripted :
    ((check messages id captured).run
        (World.scripted true found choice updated shown enabled).recorded.carryOut).run
          (false, calls) =
      (validate id captured found, (false, calls ++ .get id found ::
        (match validate id captured found with
        | .ok _ => []
        | .error _ => [.toast messages.networkNotFound]))) := by
  rw [check, Plan.bind_eq, Plan.run_bind, Plan.ask, Plan.run_call]
  change StateT.run (Plan.run _ (match validate id captured found with
    | .ok p => _ | .error fault => _)) (false, calls ++ [.get id found]) = _
  cases validate id captured found with
  | ok p => rfl
  | error fault =>
      change (_, (false, calls ++ [.get id found] ++ [] ++ [.toast messages.networkNotFound])) = _
      simp

/-- The update in a world that goes by a script. -/
theorem disable_scripted :
    ((Remedy.disable p).run
        (World.scripted true found choice updated shown enabled).recorded.carryOut).run
          (false, calls) =
      (verify p.id shown,
        (true, calls ++ [.update p.withDeviceMac systemUid updated, .get p.id shown])) := by
  cases updated with
  | ok _ =>
      change (verify p.id shown, (true, calls ++ [_] ++ [_])) = _
      simp
  | error fault =>
      change (verify p.id shown, (true, calls ++ [_] ++ [] ++ [_])) = _
      simp

/-- Whatever follows the dialog by the protocol is what some script leads to. -/
theorem conclude_scripted {choice : Dialog.Choice} {more : List Call} {outcome : Outcome}
    (hend : Ending messages p choice more outcome) :
    ∃ updated shown enabled asked,
      ((conclude messages id p choice).run
          (World.scripted true found (some choice) updated shown enabled).recorded.carryOut).run
            (false, calls) = (outcome, (asked, calls ++ more)) := by
  cases hend with
  | declined hchoice =>
      refine ⟨.ok (), none, .ok (), false, ?_⟩
      rw [conclude, if_neg hchoice]
      rfl
  | @applied updated enabled q hshown =>
      have hverify : verify p.id (some q) = .ok q := if_pos hshown
      refine ⟨updated, some q, enabled, true, ?_⟩
      rw [conclude, if_pos rfl, Remedy.apply, Plan.bind_eq, Plan.run_bind, disable_scripted, hverify]
      cases enabled with
      | ok _ =>
          change (_, (true, calls ++ [_, _] ++ [_] ++ [_] ++ [_] ++ [])) = _
          simp
      | error fault =>
          change (_, (true, calls ++ [_, _] ++ [_] ++ [_] ++ [] ++ [_] ++ [])) = _
          simp
  | @unverified updated shown hfound =>
      have hverify : verify p.id shown = .error (.unverified p.id) := by
        cases shown with
        | none => rfl
        | some q => exact if_neg (hfound q rfl)
      refine ⟨updated, shown, .ok (), true, ?_⟩
      rw [conclude, if_pos rfl, Remedy.apply, Plan.bind_eq, Plan.run_bind, disable_scripted, hverify]
      change (_, (true, calls ++ [_, _] ++ [_] ++ [])) = _
      simp

end Scripted

/-- **The calls of a confirmation are those of the protocol**: any world leads to one of its
courses, and each of its courses is what some world leads to. -/
theorem protocol_iff {calls : List Call} {outcome : Option Outcome} :
    (∃ (σ : Type) (w : World σ) (s s' : σ),
        (confirmation w.recorded messages id captured).run (s, []) = (outcome, s', calls)) ↔
      Protocol messages id captured calls outcome := by
  constructor
  · rintro ⟨σ, w, s, s', hrun⟩
    obtain ⟨outcome', t, more, hrun', hcalls, hprotocol⟩ :=
      confirmation_calls messages id captured w.recorded_keeps (s, [])
    obtain ⟨rfl, rfl⟩ := Prod.mk.inj (hrun.symm.trans hrun')
    obtain rfl : calls = more := hcalls
    exact hprotocol
  · intro h
    cases h with
    | unbegun => exact ⟨Bool, .scripted false none none (.ok ()) none (.ok ()), false, false, rfl⟩
    | missing => exact ⟨Bool, .scripted true none none (.ok ()) none (.ok ()), false, false, rfl⟩
    | @stale p hstale =>
        have hvalid : validate id captured (some p) = .error (.stale id captured p.identity) :=
          if_neg hstale
        refine ⟨Bool, .scripted true (some p) none (.ok ()) none (.ok ()), false, false, ?_⟩
        rw [confirmation_of_turn rfl (check_scripted ..), hvalid]
        rfl
    | @unanswered p hsame =>
        have hvalid : validate id captured (some p) = .ok p := if_pos hsame
        refine ⟨Bool, .scripted true (some p) none (.ok ()) none (.ok ()), false, false, ?_⟩
        rw [confirmation_of_turn rfl (check_scripted ..), hvalid]
        rfl
    | @answered p hsame choice more outcome hend =>
        have hvalid : validate id captured (some p) = .ok p := if_pos hsame
        obtain ⟨updated, shown, enabled, asked, hconclude⟩ := conclude_scripted messages id p
          (some p) [.get id (some p), .dialog (question messages p)] hend
        refine ⟨Bool, .scripted true (some p) (some choice) updated shown enabled, false, asked, ?_⟩
        rw [confirmation_of_turn rfl (check_scripted ..), hvalid]
        exact proceed_of_choice rfl hconclude

end World

/-! ## a desk -/

namespace Desk

variable (d : Desk)

/-- The desk records the call of each request. -/
theorem carryOut_records : Records carryOut calls := fun r d => d.carryOut_calls r

theorem carryOut_messages (r : Request) : ((carryOut r).run d).2.messages = d.messages := by
  cases r <;> rfl

/-- A plan leaves the texts of the dialog as they are. -/
theorem run_messages {α : Type} (plan : Plan α) :
    ((plan.run carryOut).run d).2.messages = d.messages :=
  Plan.run_keeps (fun r _ d => carryOut_messages d r) plan.all_true d

/-- A resolved ticket is no call. -/
theorem resolve_calls (ticket : Option Nat) (r : Resolution) : (d.resolve ticket r).calls = d.calls := by
  cases ticket <;> rfl

/-- **The worker of a session ends a confirmation by the protocol.** -/
theorem conclude_calls (pending : Pending) (choice : Dialog.Choice) :
    ∃ outcome more, (d.conclude pending choice).calls = d.calls ++ more ∧
      Ending d.messages pending.profile choice more outcome := by
  obtain ⟨outcome, d₁, more, hconclude, hcalls, hend⟩ :=
    (conclude_logs d.messages pending.asked.id pending.profile choice).run carryOut_records d
  refine ⟨outcome, more, ?_, hend⟩
  rw [conclude, hconclude]
  dsimp only
  rw [resolve_calls, hcalls]

/-- **The worker of a session begins a confirmation by the protocol**: it brings it to an outcome,
or leaves it waiting at its dialog. -/
theorem start_calls (asked : Asked) :
    (∃ outcome more, (d.start asked).2 = none ∧ (d.start asked).1.calls = d.calls ++ more ∧
        Protocol d.messages asked.id asked.identity more (some outcome)) ∨
      ∃ p, (d.start asked).2 = some ⟨asked, p⟩ ∧ asked.identity = some p.identity ∧
        (d.start asked).1.calls =
          d.calls ++ [.get asked.id (some p), .dialog (question d.messages p)] := by
  obtain ⟨checked, d₁, found, hcheck, hcalls₁, hchecked⟩ :=
    (check_logs d.messages asked).run carryOut_records d
  have hmessages : d₁.messages = d.messages := by
    have hrun := d.run_messages (check d.messages asked.id asked.identity)
    rwa [hcheck] at hrun
  rw [start, hcheck]
  cases checked with
  | error fault =>
      refine .inl ⟨.invalidated fault, found, rfl, ?_, hchecked.protocol⟩
      dsimp only
      rw [resolve_calls, hcalls₁]
  | ok p =>
      obtain ⟨hsame, rfl⟩ := hchecked.valid
      have hasked : (d₁.called (.dialog (question d₁.messages p))).calls =
          d.calls ++ [.get asked.id (some p), .dialog (question d.messages p)] := by
        rw [called_calls, hcalls₁, hmessages, List.append_assoc]
        rfl
      dsimp only
      split
      · next choice answers _ =>
          obtain ⟨outcome, more, hcalls₂, hend⟩ :=
            ({ d₁.called (.dialog (question d₁.messages p)) with answers }).conclude_calls
              ⟨asked, p⟩ choice
          refine .inl ⟨outcome, _, rfl, ?_, .answered hsame (hmessages ▸ hend)⟩
          rw [hcalls₂]
          exact (congrArg (· ++ more) hasked).trans (List.append_assoc ..)
      · exact .inr ⟨p, rfl, hsame, hasked⟩

end Desk

end MacConsent.Session
