import MacConsent.Proofs.Remedy.Requests
import MacConsent.Proofs.Store.Bare

/-!
# MacConsent.Proofs.Remedy.Bare

Remedies and passphrases.  A remedy gets to see a profile when it looks one up,
and hands it on when it asks for an update; in between it reads the name and the
kind of security only.  So the plans of a remedy for two profiles that are bare
alike make the same requests, but for the passphrase in an update, as long as
they get the same answers, but for the passphrase of what is found
(`Plan.Alike`).
-/

namespace MacConsent.Remedy

/-- A request that neither shows a profile nor hands one on. -/
def Request.IsBlind : Request → Prop
  | .look _ => False
  | .update .. => False
  | _ => True

namespace Plan

variable {α β : Type}

/-- Plans that differ in passphrases only. -/
inductive Alike (A : α → α → Prop) : Plan α → Plan α → Prop
  | done {a a' : α} (h : A a a') : Alike A (.done a) (.done a')
  | look (id : NetworkId) {next next' : Option Profile → Plan α}
      (h : ∀ found found', found.map Profile.bare = found'.map Profile.bare →
        Alike A (next found) (next' found')) :
      Alike A (.call (.look id) next) (.call (.look id) next')
  | update {p p' : Profile} (hp : p.bare = p'.bare) (uid : Uid)
      {next next' : Except Store.Fault Unit → Plan α}
      (h : ∀ answer, Alike A (next answer) (next' answer)) :
      Alike A (.call (.update p uid) next) (.call (.update p' uid) next')
  | aside (r : Request) (hr : r.IsBlind) {next next' : r.Answer → Plan α}
      (h : ∀ answer, Alike A (next answer) (next' answer)) : Alike A (.call r next) (.call r next')

namespace Alike

variable {A : α → α → Prop} {B : β → β → Prop}

/-- A plan like a call is a call. -/
theorem exists_call {r : Request} {next : r.Answer → Plan α} {x : Plan α}
    (h : (Plan.call r next).Alike A x) :
    ∃ (r' : Request) (next' : r'.Answer → Plan α), x = .call r' next' := by
  cases h <;> exact ⟨_, _, rfl⟩

/-- Alike plans go on alike. -/
theorem bind {x x' : Plan α} {k k' : α → Plan β} (hx : x.Alike A x')
    (hk : ∀ a a', A a a' → (k a).Alike B (k' a')) : (x.bind k).Alike B (x'.bind k') := by
  induction hx with
  | done h => exact hk _ _ h
  | look id h ih => exact .look id fun found found' hfound => ih found found' hfound
  | update hp uid h ih => exact .update hp uid fun answer => ih answer
  | aside r hr h ih => exact .aside r hr fun answer => ih answer

theorem ask {r : Request} (hr : r.IsBlind) : (ask r).Alike Eq (ask r) :=
  .aside r hr fun _ => .done rfl

/-- Looking up a profile, whose passphrase the answer may differ in. -/
theorem ask_look (id : NetworkId) :
    (Plan.ask (.look id)).Alike
      (fun found found' => found.map Profile.bare = found'.map Profile.bare)
      (Plan.ask (.look id)) :=
  .look id fun _ _ hfound => .done hfound

/-- Updates that differ in a passphrase are answered alike. -/
theorem ask_update {p p' : Profile} (hp : p.bare = p'.bare) (uid : Uid) :
    (Plan.ask (.update p uid)).Alike Eq (Plan.ask (.update p' uid)) :=
  .update hp uid fun _ => .done rfl

/-- One blind request after another. -/
theorem andThen {r : Request} (hr : r.IsBlind) {x x' : Plan β} (hx : x.Alike B x') :
    ((Plan.ask r).bind fun _ => x).Alike B ((Plan.ask r).bind fun _ => x') :=
  (ask hr).bind fun _ _ _ => hx

end Alike

end Plan

/-! ## what is read off a profile -/

variable {p p' : Profile}

/-- The passphrase is no part of the identity. -/
theorem identity_eq_of_bare (h : p.bare = p'.bare) : p.identity = p'.identity :=
  Profile.eq_of_bare (fun _ => rfl) h

/-- What is found twice and differs in passphrases only. -/
theorem found_cases {found found' : Option Profile}
    (h : found.map Profile.bare = found'.map Profile.bare) :
    (found = none ∧ found' = none) ∨
      ∃ p p', found = some p ∧ found' = some p' ∧ p.bare = p'.bare := by
  cases found with
  | none =>
      cases found' with
      | none => exact .inl ⟨rfl, rfl⟩
      | some p' => cases h
  | some p =>
      cases found' with
      | none => cases h
      | some p' => exact .inr ⟨p, p', rfl, rfl, Option.some.inj h⟩

/-- The check does not look at the passphrase. -/
theorem validate_alike (id : NetworkId) (captured : Option String) {found found' : Option Profile}
    (h : found.map Profile.bare = found'.map Profile.bare) :
    ResultsAlike (fun p p' => p.bare = p'.bare) (validate id captured found)
      (validate id captured found') := by
  obtain ⟨rfl, rfl⟩ | ⟨p, p', rfl, rfl, hbare⟩ := found_cases h
  · exact .error _
  · rw [validate, validate, identity_eq_of_bare hbare]
    split
    · exact .ok hbare
    · exact .error _

/-- The last check does not look at the passphrase. -/
theorem verify_alike (id : NetworkId) {found found' : Option Profile}
    (h : found.map Profile.bare = found'.map Profile.bare) :
    ResultsAlike (fun p p' => p.bare = p'.bare) (verify id found) (verify id found') := by
  obtain ⟨rfl, rfl⟩ | ⟨p, p', rfl, rfl, hbare⟩ := found_cases h
  · exact .error _
  · have hpolicy : p.macPolicy = p'.macPolicy := Profile.eq_of_bare (fun _ => rfl) hbare
    rw [verify, verify, hpolicy]
    split
    · exact .ok hbare
    · exact .error _

/-- A notification shows no passphrase. -/
theorem notice_eq_of_bare (h : p.bare = p'.bare) (messages : Messages) (offer : Offer) :
    notice messages p offer = notice messages p' offer :=
  Profile.eq_of_bare (f := fun p => notice messages p offer) (fun _ => rfl) h

/-- The dialog shows no passphrase. -/
theorem question_eq_of_bare (h : p.bare = p'.bare) (messages : Messages) :
    question messages p = question messages p' :=
  Profile.eq_of_bare (fun _ => rfl) h

/-! ## remedies -/

variable (messages : Messages) (id : NetworkId)

theorem offer_alike : (offer messages id).Alike Eq (offer messages id) := by
  refine (Plan.Alike.ask_look id).bind fun found found' hfound => ?_
  obtain ⟨rfl, rfl⟩ | ⟨p, p', rfl, rfl, hbare⟩ := found_cases hfound
  · exact .andThen (by trivial) (.done rfl)
  · dsimp only
    rw [identity_eq_of_bare hbare, notice_eq_of_bare hbare]
    exact .andThen (by trivial) (.andThen (by trivial) (.done rfl))

/-- A confirmation checks alike, but for the passphrase of what it finds. -/
theorem check_alike (captured : Option String) :
    (check messages id captured).Alike (ResultsAlike fun p p' => p.bare = p'.bare)
      (check messages id captured) := by
  refine (Plan.Alike.ask_look id).bind fun found found' hfound => ?_
  have hvalid := validate_alike id captured hfound
  generalize validate id captured found = valid, validate id captured found' = valid' at hvalid
  cases hvalid with
  | error fault => exact .andThen (by trivial) (.andThen (by trivial) (.done (.error fault)))
  | ok hbare => exact .done (.ok hbare)

theorem disable_alike (h : p.bare = p'.bare) :
    (disable p).Alike (ResultsAlike fun p p' => p.bare = p'.bare) (disable p') := by
  have hupdate : p.withDeviceMac.bare = p'.withDeviceMac.bare := congrArg Profile.withDeviceMac h
  have hid : p.id = p'.id := Profile.eq_of_bare (fun _ => rfl) h
  have hverify : (Plan.bind (Plan.ask (.look p.id)) fun found => .done (verify p.id found)).Alike
      (ResultsAlike fun p p' => p.bare = p'.bare)
      (Plan.bind (Plan.ask (.look p.id)) fun found => .done (verify p.id found)) :=
    (Plan.Alike.ask_look p.id).bind fun _ _ hfound => .done (verify_alike p.id hfound)
  refine (Plan.Alike.ask_update hupdate systemUid).bind ?_
  rintro answer _ rfl
  rw [← hid]
  cases answer with
  | ok _ => exact hverify
  | error fault => exact .andThen (by trivial) hverify

/-- An accepted confirmation makes the same requests, but for the passphrase it writes back. -/
theorem apply_alike (h : p.bare = p'.bare) :
    (apply messages id p).Alike Eq (apply messages id p') := by
  refine (disable_alike h).bind fun verified verified' hverified => ?_
  cases hverified with
  | error fault => exact .andThen (by trivial) (.andThen (by trivial) (.done rfl))
  | @ok q q' hbare =>
      have hid : q.id = q'.id := Profile.eq_of_bare (fun _ => rfl) hbare
      have hscan : (Plan.bind (Plan.ask (.scan wifiSource)) fun _ =>
          Plan.bind (Plan.ask (.trace (.randomizationDisabled id))) fun _ =>
            .done Outcome.applied).Alike Eq _ :=
        .andThen (by trivial) (.andThen (by trivial) (.done rfl))
      dsimp only
      rw [hid]
      refine .andThen (by trivial) ((Plan.Alike.ask (by trivial)).bind ?_)
      rintro answer _ rfl
      cases answer with
      | ok _ => exact hscan
      | error fault => exact .andThen (by trivial) hscan

/-- **A confirmation does the same for profiles that are bare alike.** -/
theorem conclude_alike (h : p.bare = p'.bare) (choice : Dialog.Choice) :
    (conclude messages id p choice).Alike Eq (conclude messages id p' choice) := by
  rw [conclude, conclude]
  split
  · exact apply_alike messages id h
  · exact .andThen (by trivial) (.done rfl)

end MacConsent.Remedy
