import MacConsent.Store.Durable

/-!
# MacConsent.Proofs.Store.Change

The changes that a store can be asked for, as data.  All of them go the same
way (`Change.run_eq`): a profile is prepared, unless the profiles do not allow
it, and committed; then the observer is told.  So over any files a change that
is allowed ends as its commit does (`Change.run_of_commit`).
-/

namespace MacConsent.Store

/-- What a store can be asked to change. -/
inductive Change
  | add (p : Profile)
  | update (p : Profile) (uid : Uid)
  | enable (id : NetworkId) (uid : Uid)
deriving DecidableEq

namespace Change

/-- The profile that a change puts in, unless the profiles do not allow it. -/
def profile? (r : Roster) : Change → Except Fault Profile
  | .add p =>
    match r.freeId with
    | .error last => .error (.rejected last .noFreeId)
    | .ok id => .ok { p with id }
  | .update p _ =>
    if p.ssid = "" then .error (.rejected p.id .emptyName)
    else
      match r.find? p.id with
      | none => .error (.unknownProfile p.id)
      | some _ => .ok p
  | .enable id _ =>
    match r.find? id with
    | none => .error (.unknownProfile id)
    | some p => .ok { p with enabled := true }

/-- What the observer is told of a change that was made. -/
def notes : Change → List Diagnostic
  | .add _ => []
  | .update p uid => [.profileUpdated p.id uid]
  | .enable id uid => [.profileEnabled id uid]

variable {m : Type → Type} [Monad m]

/-- Makes a change. -/
def run (b : Backing m) (s : Durable) : Change → m (Except Fault Durable)
  | .add p => do return (← s.add b p).map Prod.snd
  | .update p uid => s.update b p uid
  | .enable id uid => s.enable b id uid

/-- **All changes go the same way**: they prepare a profile, commit it and tell the observer. -/
theorem run_eq [LawfulMonad m] (b : Backing m) (s : Durable) (c : Change) :
    c.run b s =
      match c.profile? s.roster with
      | .error fault => return .error fault
      | .ok p => do
        match ← s.commit b (s.roster.insert p) with
        | .error fault => return .error fault
        | .ok s =>
          c.notes.forM b.trace
          return .ok s := by
  cases c with
  | add p =>
      rw [run, Durable.add, profile?]
      cases s.roster.freeId with
      | error last => exact pure_bind _ _
      | ok id =>
          simp only [notes, bind_assoc]
          refine bind_congr fun result => ?_
          cases result <;> simp [Except.map]
  | update p uid =>
      rw [run, Durable.update, profile?]
      split
      · rfl
      · cases s.roster.find? p.id with
        | none => rfl
        | some q =>
            refine bind_congr fun result => ?_
            cases result <;> simp [notes]
  | enable id uid =>
      rw [run, Durable.enable, profile?]
      cases s.roster.find? id with
      | none => rfl
      | some p =>
          refine bind_congr fun result => ?_
          cases result <;> simp [notes]

theorem profile?_update_eq_ok {r : Roster} {p q : Profile} (uid : Uid) :
    (Change.update p uid).profile? r = .ok q ↔
      p.ssid ≠ "" ∧ (∃ old, r.find? p.id = some old) ∧ q = p := by
  rw [profile?]
  by_cases hname : p.ssid = ""
  · simp [hname]
  · cases hfound : r.find? p.id with
    | none => simp [hname]
    | some old => simp [hname, eq_comm]

theorem profile?_enable_eq_ok {r : Roster} {id : NetworkId} {q : Profile} (uid : Uid) :
    (Change.enable id uid).profile? r = .ok q ↔
      ∃ p, r.find? id = some p ∧ q = { p with enabled := true } := by
  rw [profile?]
  cases hfound : r.find? id with
  | none => simp
  | some p => simp [eq_comm]

/-! ## over files with a state -/

section State

variable {σ : Type} {b : Backing (StateM σ)} (tree : σ → Files.Tree) {s : Durable} {c : Change}

/-- What the profiles do not allow leaves all as it is. -/
theorem run_refused {fault : Fault} (h : c.profile? s.roster = .error fault) (t : σ) :
    (c.run b s).run t = (.error fault, t) := by
  simp only [run_eq, h]
  rfl

/-- Telling the observer leaves the files alone, if telling one thing does. -/
theorem forM_trace_run (htrace : ∀ d t, tree ((b.trace d).run t).2 = tree t)
    (notes : List Diagnostic) (t : σ) :
    ∃ t', (notes.forM b.trace).run t = ((), t') ∧ tree t' = tree t := by
  induction notes generalizing t with
  | nil => exact ⟨t, rfl, rfl⟩
  | cons d notes ih =>
      obtain ⟨t', hrun, htree⟩ := ih ((b.trace d).run t).2
      exact ⟨t', hrun, htree.trans (htrace d t)⟩

/-- **A change that the profiles allow ends as its commit does**, up to what the observer is
told. -/
theorem run_of_commit (htrace : ∀ d t, tree ((b.trace d).run t).2 = tree t) {p : Profile}
    (hp : c.profile? s.roster = .ok p) {result : Except Fault Durable} {t t' : σ}
    (hcommit : (s.commit b (s.roster.insert p)).run t = (result, t')) :
    ∃ t'', (c.run b s).run t = (result, t'') ∧ tree t'' = tree t' := by
  simp only [run_eq, hp, StateT.run_bind, hcommit]
  cases result with
  | error fault => exact ⟨t', rfl, rfl⟩
  | ok s' =>
      obtain ⟨t'', htell, htree⟩ := forM_trace_run tree htrace c.notes t'
      refine ⟨t'', ?_, htree⟩
      change StateT.run (c.notes.forM b.trace >>= _) t' = _
      rw [StateT.run_bind, htell]
      rfl

end State

end Change

end MacConsent.Store
