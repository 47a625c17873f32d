import MacConsent.Proofs.Remedy.Requests

/-!
# MacConsent.Proofs.Remedy.Effects

What a plan ensures when it is not alone (`Plan.Ensures`).  A request has an
effect that depends on its answer, and between two requests others may act, so
whatever is known of the state has to outlast what others may do.  A
confirmation that makes its change relies on them to leave the profile of its
network alone meanwhile; then it ends as applied only if the profile that the
store holds has its randomization turned off, and is enabled if the enabling has
succeeded (`conclude_ensures`).
-/

namespace MacConsent.Remedy

/-- What a plan is carried out among: what others may do between two requests, and what a request
may do when it gets an answer. -/
structure Setting (σ : Type) where
  others : σ → σ → Prop
  effect : (r : Request) → r.Answer → σ → σ → Prop
  refl : ∀ s, others s s
  trans : ∀ s t u, others s t → others t u → others s u

namespace Plan

variable {σ α β : Type} {w : Setting σ} {post : α → σ → Prop} {s t : σ}

/-- The plan ends with a result and a state as they should be, whatever the answers are and
whatever others do. -/
def Ensures (w : Setting σ) (post : α → σ → Prop) : Plan α → σ → Prop
  | .done a, s => ∀ t, w.others s t → post a t
  | .call r next, s => ∀ t, w.others s t → ∀ answer u, w.effect r answer t u →
    (next answer).Ensures w post u

/-- What is ensured outlasts what others do. -/
theorem Ensures.others {p : Plan α} (h : p.Ensures w post s) (hst : w.others s t) :
    p.Ensures w post t := by
  cases p with
  | done a => exact fun u htu => h u (w.trans s t u hst htu)
  | call r next => exact fun u htu => h u (w.trans s t u hst htu)

theorem Ensures.result {a : α} (h : (Plan.done a).Ensures w post s) : post a s := h s (w.refl s)

/-- A request that does no more than others may do ensures nothing, and spoils nothing. -/
theorem Ensures.past {r : Request} {f : r.Answer → Plan α}
    (hr : ∀ answer t u, w.effect r answer t u → w.others t u)
    (h : ∀ answer, (f answer).Ensures w post s) : ((ask r).bind f).Ensures w post s :=
  fun t hst answer u heffect => (h answer).others (w.trans s t u hst (hr answer t u heffect))

theorem Ensures.imp {post' : α → σ → Prop} {p : Plan α} (h : p.Ensures w post s)
    (himp : ∀ a t, post a t → post' a t) : p.Ensures w post' s := by
  induction p generalizing s with
  | done a => exact fun t hst => himp a t (h t hst)
  | call r next ih => exact fun t hst answer u heffect => ih answer (h t hst answer u heffect)

theorem Ensures.bind {p : Plan β} {f : β → Plan α}
    (h : p.Ensures w (fun b t => (f b).Ensures w post t) s) : (p.bind f).Ensures w post s := by
  induction p generalizing s with
  | done b => exact h.result
  | call r next ih => exact fun t hst answer u heffect => ih answer (h t hst answer u heffect)

end Plan

/-! ## what is seen of a network -/

/-- What is seen of a network while a confirmation is about it. -/
structure Sight where
  /-- The profile that the store holds under its id. -/
  found : Option Profile
  /-- Whether the confirmation has enabled a network. -/
  enabled : Bool

/-- Whether a request enables a network. -/
def Request.enables : (r : Request) → r.Answer → Bool
  | .enable .., .ok () => true
  | _, _ => false

/-- What becomes of the profile under an id when a request gets an answer. -/
def Request.Turns (id : NetworkId) : (r : Request) → r.Answer → Option Profile → Option Profile → Prop
  | .look i, found, before, after =>
    after = before ∧ (∀ p ∈ found, p.id = i) ∧ (i = id → found = before)
  | .update p _, .ok (), before, after => after = if p.id = id then some p else before
  | .enable i _, .ok (), before, after =>
    after = if i = id then before.map ({ · with enabled := true }) else before
  | _, _, before, after => after = before

/-- Where a confirmation is carried out. Once it makes its change, others do not touch the profile
that the store holds under the id. -/
def sighted (id : NetworkId) (changing : Prop) : Setting Sight where
  others s t := t.enabled = s.enabled ∧ (changing → ∀ p, s.found = some p → t.found = some p)
  effect r answer s t :=
    r.Turns id answer s.found t.found ∧ t.enabled = (s.enabled || r.enables answer)
  refl _ := ⟨rfl, fun _ _ h => h⟩
  trans _ _ _ hst htu :=
    ⟨htu.1.trans hst.1, fun hchanging p h => htu.2 hchanging p (hst.2 hchanging p h)⟩

/-! ## confirmations -/

section Confirmation

variable {messages : Messages} {id : NetworkId} {changing : Prop} {s : Sight}

/-- A request that asks for no change does no more to a network than others may do. -/
theorem others_of_aside {r : Request} (h : r.IsAside) (answer : r.Answer) (t u : Sight)
    (heffect : (sighted id changing).effect r answer t u) : (sighted id changing).others t u := by
  obtain ⟨hturns, henabled⟩ := heffect
  cases r with
  | update p uid => exact h.elim
  | enable i uid => exact h.elim
  | look i => exact ⟨by simpa [Request.enables] using henabled, fun _ p hp => hturns.1.trans hp⟩
  | _ => exact ⟨by simpa [Request.enables] using henabled, fun _ p hp => Eq.trans hturns hp⟩

/-- A check finds the profile of the id that it was asked for, and enables nothing. -/
theorem check_ensures (captured : Option String) (henabled : s.enabled = false) :
    (check messages id captured).Ensures (sighted id False)
      (fun checked t => t.enabled = false ∧ ∀ p, checked = .ok p → p.id = id) s := by
  intro t hst found u heffect
  have hkept := others_of_aside (r := .look id) trivial found t u heffect
  have hu : u.enabled = false := hkept.1.trans (hst.1.trans henabled)
  dsimp only [Plan.bind]
  cases hvalid : validate id captured found with
  | ok p =>
      have hid : p.id = id := heffect.1.2.1 p (validate_eq_ok hvalid).1
      exact fun v huv => ⟨huv.1.trans hu, fun q hq => by cases hq; exact hid⟩
  | error fault =>
      refine .past (others_of_aside trivial) fun _ => .past (others_of_aside trivial) fun _ => ?_
      exact fun v huv => ⟨huv.1.trans hu, fun q hq => by cases hq⟩

/-- What an outcome tells of a network. -/
def Outcome.Tells (outcome : Outcome) (s : Sight) : Prop :=
  outcome = .applied →
    ∃ p, s.found = some p ∧ p.macPolicy = .disabled ∧ (s.enabled = true → p.enabled = true)

theorem Outcome.Tells.others {outcome : Outcome} {t : Sight} (h : outcome.Tells s)
    (hst : (sighted id True).others s t) : outcome.Tells t := by
  intro happlied
  obtain ⟨p, hfound, hdisabled, henabled⟩ := h happlied
  exact ⟨p, hst.2 trivial p hfound, hdisabled, fun ht => henabled (hst.1 ▸ ht)⟩

/-- A change that is verified is there, and stays there. -/
theorem disable_ensures {p : Profile} (hp : p.id = id) (henabled : s.enabled = false) :
    (disable p).Ensures (sighted id True)
      (fun changed t => t.enabled = false ∧ ∀ q, changed = .ok q →
        t.found = some q ∧ q.id = id ∧ q.macPolicy = .disabled) s := by
  intro t hst answer u hupdate
  have hu : u.enabled = false := by
    rw [hupdate.2, hst.1, henabled]
    rfl
  -- whatever the update has come to, it is the look that decides
  have hlook : ((Plan.ask (.look p.id)).bind fun found => .done (verify p.id found)).Ensures
      (sighted id True) (fun changed t => t.enabled = false ∧ ∀ q, changed = .ok q →
        t.found = some q ∧ q.id = id ∧ q.macPolicy = .disabled) u := by
    intro v huv found x hshown y hxy
    have hkept := others_of_aside (r := .look p.id) trivial found v x hshown
    refine ⟨hxy.1.trans (hkept.1.trans (huv.1.trans hu)), fun q hq => ?_⟩
    obtain ⟨rfl, hdisabled⟩ := verify_eq_ok hq
    have hfound : v.found = some q := (hshown.1.2.2 hp).symm
    exact ⟨hxy.2 trivial q (hkept.2 trivial q hfound), (hshown.1.2.1 q rfl).trans hp, hdisabled⟩
  cases answer with
  | ok _ => exact hlook
  | error fault => exact .past (others_of_aside trivial) fun _ => hlook

/-- **A confirmation ends as applied only if its change is there.** -/
theorem conclude_ensures {p : Profile} (hp : p.id = id) (henabled : s.enabled = false)
    (choice : Dialog.Choice) :
    (conclude messages id p choice).Ensures (sighted id True) Outcome.Tells s := by
  by_cases hchoice : choice = .accepted
  · rw [conclude, if_pos hchoice]
    refine .bind ((disable_ensures hp henabled).imp fun changed t hchanged => ?_)
    obtain ⟨hnone, hshown⟩ := hchanged
    cases changed with
    | error fault =>
        refine .past (others_of_aside trivial) fun _ => .past (others_of_aside trivial) fun _ => ?_
        exact fun _ _ happlied => by cases happlied
    | ok q =>
        obtain ⟨hfound, hid, hdisabled⟩ := hshown q rfl
        refine .past (others_of_aside trivial) fun _ => ?_
        intro u htu answer v henable
        have hu : u.found = some q := htu.2 trivial q hfound
        -- nothing after the enabling can take back what is there now
        have hrest : ((Plan.ask (.scan wifiSource)).bind fun _ =>
              (Plan.ask (.trace (.randomizationDisabled id))).bind fun _ => .done .applied).Ensures
            (sighted id True) Outcome.Tells v := by
          refine .past (others_of_aside trivial) fun _ => .past (others_of_aside trivial) fun _ => ?_
          refine fun x hvx => Outcome.Tells.others (fun _ => ?_) hvx
          cases answer with
          | ok _ =>
              have hv : v.found = some { q with enabled := true } := by
                rw [henable.1, if_pos hid, hu, Option.map_some]
              exact ⟨_, hv, hdisabled, fun _ => rfl⟩
          | error fault =>
              have hv : v.enabled = false := by
                rw [henable.2, htu.1, hnone]
                rfl
              refine ⟨q, henable.1.trans hu, hdisabled, fun htrue => ?_⟩
              rw [hv] at htrue
              cases htrue
        cases answer with
        | ok _ => exact hrest
        | error fault => exact .past (others_of_aside trivial) fun _ => hrest
  · rw [conclude, if_neg hchoice]
    refine .past (others_of_aside trivial) fun _ => ?_
    exact fun _ _ happlied => by cases happlied

end Confirmation

end MacConsent.Remedy
