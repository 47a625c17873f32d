import MacConsent.Proofs.Session.Frame
import MacConsent.Proofs.Store.Commit
import MacConsent.Proofs.Store.Roster

/-!
# MacConsent.Proofs.Session.Watch

What happens to a network while its dialog waits.  A watch follows a run and
keeps two profiles on the side: the one that was checked when the dialog was
opened, and the one that the latest direct change has put in its place since
(`Watch`).  Nothing but direct changes touches the store while a dialog waits,
so the store holds the latter if there is one, and the former otherwise
(`Waiting`).
-/

namespace MacConsent.Session

open Desk (Asked Pending)

/-! ## direct changes -/

/-- The profile that a step puts into the store past the remedies, going by its result. -/
def Step.edited? : Step → Result → Option Profile
  | .insert p, .ok => some p
  | .update p, .ok => some p
  | .add p, .id n => some { p with id := n }
  | _, _ => none

/-- The profile that a step puts under an id past the remedies, if it does. -/
def edit? (s : Session) (id : NetworkId) (e : Step) : Option Profile :=
  (e.edited? (s.step e).1).filter fun p => p.id == id

/-- The roster with a profile put in, if there is one. -/
def put (r : Store.Roster) : Option Profile → Store.Roster
  | none => r
  | some p => r.insert p

theorem put_find? (r : Store.Roster) (p : Option Profile) (id : NetworkId) :
    (put r p).find? id = (p.filter fun p => p.id == id).or (r.find? id) := by
  cases p with
  | none => rfl
  | some p =>
      rw [put, Store.Roster.find?_insert]
      by_cases h : p.id = id <;> simp [Option.filter, h]

variable (s : Session)

theorem onMemory_roster {f : Store.Memory → Store.Memory} {put? : Result → Option Profile}
    (hunfit : put? .unfit = none) (hok : ∀ m, (f m).roster = put m.roster (put? .ok)) :
    (s.onMemory f).2.desk.store.roster = put s.desk.store.roster (put? (s.onMemory f).1) := by
  unfold onMemory
  split
  · next m hstore =>
      rw [hstore]
      exact hok m
  · rw [hunfit]
    rfl

theorem onDurable_roster {α : Type}
    {op : Store.Durable → StateM Store.Bench (Except Store.Fault (α × Store.Durable))}
    {result : α → Result} {put? : Result → Option Profile} (hunfit : put? .unfit = none)
    (hfault : ∀ fault, put? (.storeFault fault) = none)
    (hok : ∀ store b a after, ((op store).run b).1 = .ok (a, after) →
      after.roster = put store.roster (put? (result a))) :
    (s.onDurable op result).2.desk.store.roster =
      put s.desk.store.roster (put? (s.onDurable op result).1) := by
  unfold onDurable
  split
  · rw [hunfit]
    rfl
  · next store hstore =>
      have hsame : (s.desk.withFiles (op store)).2.store = s.desk.store := rfl
      split
      · next a after _ hrun =>
          have hresult : ((op store).run ⟨s.desk.tree, []⟩).1 = .ok (a, after) :=
            congrArg Prod.fst hrun
          rw [hstore]
          exact hok store _ a after hresult
      · next hrun =>
          rw [hrun] at hsame
          rw [hfault]
          exact congrArg Store.Backend.roster hsame

/-- **A step past the remedies changes what it says it changes**: it puts in one profile, if
any. -/
theorem act_roster {e : Step} (h : e.endsWait = false) :
    (s.act e).2.desk.store.roster = put s.desk.store.roster (e.edited? (s.act e).1) := by
  cases e with
  | insert p => exact @onMemory_roster s _ (Step.insert p).edited? rfl fun _ => rfl
  | add p =>
      refine s.onDurable_roster rfl (fun _ => rfl) fun store b id after hrun => ?_
      rw [(Store.Durable.add_cases hrun).2]
      rfl
  | update p =>
      refine s.onDurable_roster rfl (fun _ => rfl) fun store b _ after hrun => ?_
      have hmap : ((store.update Store.Backing.bench p directUid).run b).1.map ((), ·) =
          .ok ((), after) := hrun
      cases hupdate : ((store.update Store.Backing.bench p directUid).run b).1 with
      | error fault => rw [hupdate] at hmap; cases hmap
      | ok updated =>
          rw [hupdate] at hmap
          cases hmap
          obtain ⟨q, hq, rfl⟩ := @Store.Durable.change_cases _ _ _ (.update p directUid) hupdate
          obtain ⟨-, -, rfl⟩ := (Store.Change.profile?_update_eq_ok directUid).1 hq
          rfl
  | write path content => exact congrArg Store.Backend.roster (onFiles_frame s _).2
  | makeDirectory path => exact congrArg Store.Backend.roster (onFiles_frame s _).2
  | clear path => exact congrArg Store.Backend.roster (onFiles_frame s _).2
  | mode mode => exact s.onMemory_roster rfl fun _ => rfl
  | failEnable => exact s.onMemory_roster rfl fun _ => rfl
  | notify n =>
      have hsame := Desk.untouched_of_aside (Remedy.offer_aside s.desk.messages n) s.desk
      exact congrArg Store.Backend.roster hsame.store
  | confirm n identity =>
      have hask := ask_frame { s with tickets := s.tickets + 1 } ⟨n, identity, some s.tickets⟩
      exact congrArg Store.Backend.roster hask.2.store
  | flush => exact congrArg Store.Backend.roster (flush_frame s).2.store
  | reply choice => cases h
  | route e =>
      have hhear := hearAll_frame { s with router := (s.router.step e).2.1 } (s.router.step e).2.2
      exact congrArg Store.Backend.roster hhear.2.store
  | tap =>
      rw [act]
      split
      · rfl
      · exact congrArg Store.Backend.roster (hearAll_frame s _).2.store
  | stop => cases h

theorem act_find? {e : Step} (h : e.endsWait = false) (id : NetworkId) :
    (s.act e).2.desk.store.find? id = (s.edit? id e).or (s.desk.store.find? id) := by
  rw [Store.Backend.find?, s.act_roster h, put_find?]
  rfl

/-! ## watching a dialog -/

/-- A session, and what is kept on the side of the dialog that waits: the profile that was
checked, and the one that was put in its place since. -/
structure Watch where
  session : Session
  opened : Option Profile := none
  edit : Option Profile := none

/-- The watch after a step. It begins anew when the wait for a choice ends. -/
def Watch.step (w : Watch) (e : Step) : Watch :=
  let session := (w.session.step e).2
  match w.session.queue.current, e.endsWait with
  | some pending, false =>
    { w with session, edit := (w.session.edit? pending.asked.id e).or w.edit }
  | _, _ =>
    { session
      opened := session.queue.current.bind fun pending =>
        session.desk.store.find? pending.asked.id }

/-- The session after steps. -/
def run (s : Session) (steps : List Step) : Session := steps.foldl (fun s e => (s.step e).2) s

/-- The watch after steps. -/
def watch (s : Session) (steps : List Step) : Watch := steps.foldl Watch.step { session := s }

theorem Watch.step_session (w : Watch) (e : Step) :
    (w.step e).session = (w.session.step e).2 := by
  unfold Watch.step
  split <;> rfl

/-- Watching a session changes nothing about it. -/
theorem watch_session (s : Session) (steps : List Step) :
    (s.watch steps).session = s.run steps := by
  have hfold : ∀ w : Watch, (steps.foldl Watch.step w).session =
      steps.foldl (fun s e => (s.step e).2) w.session := by
    induction steps with
    | nil => exact fun _ => rfl
    | cons e steps ih =>
        intro w
        rw [List.foldl_cons, List.foldl_cons, ih, Watch.step_session]
  exact hfold { session := s }

/-- What holds while a dialog waits: nobody else works, no choice is there, and the store has the
profile that was checked, unless another was put in its place. -/
structure Watch.Waiting (w : Watch) (pending : Pending) : Prop where
  running : w.session.queue.worker = .running
  unanswered : w.session.desk.unanswered = true
  answers : w.session.desk.answers = []
  opened : w.opened = some pending.profile
  named : pending.profile.id = pending.asked.id
  checked : pending.asked.identity = some pending.profile.identity
  found : w.session.desk.store.find? pending.asked.id = w.edit.or w.opened

/-- Whenever a dialog waits, what is kept on its side fits the session. -/
def Watch.Sound (w : Watch) : Prop :=
  ∀ pending, w.session.queue.current = some pending → w.Waiting pending

/-- The worker stops going on only at a dialog that waits for a choice. -/
theorem settle_asking {s : Session} {pending : Pending} (hnone : s.queue.current = none)
    (h : s.settle.queue.current = some pending) :
    s.settle.queue.worker = .running ∧ s.settle.desk.Asking pending := by
  by_cases hworker : s.queue.worker = .running
  · rw [settle_of_ready hworker hnone] at h ⊢
    cases hconsume : Queue.Serial.consume Desk.work s.desk s.queue.waiting with
    | mk desk left =>
        obtain ⟨_ | waits, waiting⟩ := left
        · rw [hconsume] at h
          cases hheld : s.queue.held with
          | true => rw [hheld] at h; cases hnone.symm.trans h
          | false => rw [hheld] at h; cases hnone.symm.trans h
        · rw [hconsume] at h
          obtain rfl := Option.some.inj h
          exact ⟨hworker, Desk.consume_asking hconsume⟩
  · rw [settle_of_not_ready fun hready => hworker hready.1] at h
    cases hnone.symm.trans h

variable {w : Watch}

theorem Watch.Sound.reply_current (hw : w.Sound) (choice : Dialog.Choice) :
    (w.session.reply choice).2.queue.current = none := by
  rw [reply]
  split
  · dsimp only
    cases hcurrent : w.session.queue.current with
    | none => exact hcurrent
    | some pending => rfl
  · next hunanswered =>
      cases hcurrent : w.session.queue.current with
      | none => rfl
      | some pending => exact absurd (hw pending hcurrent).unanswered hunanswered

theorem Watch.Sound.stop_current (hw : w.Sound) : w.session.stop.queue.current = none := by
  change w.session.queue.stop.1.current = none
  rw [Queue.Serial.stop]
  split
  · rfl
  · next hworker =>
      cases hcurrent : w.session.queue.current with
      | none => rfl
      | some pending => exact absurd (hw pending hcurrent).running hworker

/-- No dialog waits any more once a step has ended the wait. -/
theorem Watch.Sound.act_current (hw : w.Sound) {e : Step}
    (h : w.session.queue.current = none ∨ e.endsWait = true) :
    (w.session.act e).2.queue.current = none := by
  by_cases hends : e.endsWait = true
  · cases e with
    | reply choice => exact hw.reply_current choice
    | stop => exact hw.stop_current
    | _ => cases hends
  · have hprogress := w.session.act_progress (Bool.not_eq_true _ ▸ hends)
    exact (congrArg Progress.current hprogress).trans (h.resolve_right hends)

/-- A step that leaves a dialog waiting. -/
theorem Watch.Waiting.step {pending : Pending} (h : w.Waiting pending)
    (hcurrent : w.session.queue.current = some pending) {e : Step} (hends : e.endsWait = false) :
    (w.session.step e).2 = (w.session.act e).2 ∧
      Watch.Waiting
        { w with
          session := (w.session.step e).2
          edit := (w.session.edit? pending.asked.id e).or w.edit } pending := by
  have hprogress := w.session.act_progress hends
  have hwaits : (w.session.act e).2.queue.current = some pending :=
    (congrArg Progress.current hprogress).trans hcurrent
  have hsettle : (w.session.step e).2 = (w.session.act e).2 :=
    settle_of_not_ready fun hready => nomatch hready.2.symm.trans hwaits
  refine ⟨hsettle, ?_⟩
  rw [hsettle]
  exact {
    running := (congrArg Progress.worker hprogress).trans h.running
    unanswered := (congrArg Progress.unanswered hprogress).trans h.unanswered
    answers := (congrArg Progress.answers hprogress).trans h.answers
    opened := h.opened
    named := h.named
    checked := h.checked
    found := by
      rw [w.session.act_find? hends, h.found, Option.or_assoc] }

/-- **A step keeps a watch sound.** -/
theorem Watch.Sound.step (hw : w.Sound) (e : Step) : (w.step e).Sound := by
  unfold Watch.step
  split
  · next pending hcurrent hends =>
      obtain ⟨hsettle, hwaiting⟩ := (hw pending hcurrent).step hcurrent hends
      have hsame : (w.session.step e).2.queue.current = some pending := by
        rw [hsettle]
        exact (congrArg Progress.current (w.session.act_progress hends)).trans hcurrent
      intro other hother
      obtain rfl := Option.some.inj (hsame.symm.trans hother)
      exact hwaiting
  · next hnot =>
      have hends : w.session.queue.current = none ∨ e.endsWait = true := by
        cases hcurrent : w.session.queue.current with
        | none => exact .inl rfl
        | some pending =>
            cases hends : e.endsWait with
            | true => exact .inr rfl
            | false => exact (hnot pending hcurrent hends).elim
      intro pending hpending
      obtain ⟨hrunning, hasking⟩ := settle_asking (hw.act_current hends) hpending
      have hopened : (w.session.step e).2.queue.current.bind (fun pending =>
          (w.session.step e).2.desk.store.find? pending.asked.id) = some pending.profile := by
        have hcurrent : (w.session.step e).2.queue.current = some pending := hpending
        rw [hcurrent]
        exact hasking.found
      exact {
        running := hrunning
        unanswered := hasking.unanswered
        answers := hasking.answers
        opened := hopened
        named := Store.Roster.id_of_find? hasking.found
        checked := hasking.checked
        found := hasking.found.trans hopened.symm }

/-- **A watch that begins before any dialog waits is sound**, whatever the steps are. -/
theorem watch_sound {s : Session} (h : s.queue.current = none) (steps : List Step) :
    (s.watch steps).Sound := by
  have hfold : ∀ w : Watch, w.Sound → (steps.foldl Watch.step w).Sound := by
    induction steps with
    | nil => exact fun _ hw => hw
    | cons e steps ih => exact fun w hw => ih (w.step e) (hw.step e)
  exact hfold _ fun pending hpending => nomatch h.symm.trans hpending

end MacConsent.Session
