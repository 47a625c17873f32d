import MacConsent.Remedy.Confirmation

/-!
# MacConsent.Proofs.Remedy.Requests

The requests that a plan makes.  `Plan.requests` lists them in order, each with
the state that it is made in; `Plan.All` tells what holds of all of them
whatever the answers are, and then a run keeps what such requests keep
(`Plan.run_keeps`).  A confirmation changes the store by two requests at most:
the update, which comes first once the dialog is accepted, and the enabling.
-/

namespace MacConsent.Remedy

namespace Plan

variable {α β σ γ : Type}

@[simp] theorem bind_eq (p : Plan α) (f : α → Plan β) : p >>= f = p.bind f := rfl

/-! ## runs -/

section Run

variable (carryOut : (r : Request) → StateM σ r.Answer)

/-- The requests of a plan in order, each with the state that it is made in. -/
def requests : Plan α → σ → List (Request × σ)
  | .done _, _ => []
  | .call r next, s =>
    (r, s) :: (next ((carryOut r).run s).1).requests ((carryOut r).run s).2

theorem run_done (a : α) (s : σ) : ((Plan.done a).run carryOut).run s = (a, s) := rfl

/-- A call is carried out, and the rest of the plan runs on its answer. -/
theorem run_call (r : Request) (next : r.Answer → Plan α) (s : σ) :
    ((Plan.call r next).run carryOut).run s =
      ((next ((carryOut r).run s).1).run carryOut).run ((carryOut r).run s).2 := rfl

/-- A plan after another starts in the state that the other has left. -/
theorem run_bind (p : Plan α) (f : α → Plan β) (s : σ) :
    ((p.bind f).run carryOut).run s =
      ((f ((p.run carryOut).run s).1).run carryOut).run ((p.run carryOut).run s).2 := by
  induction p generalizing s with
  | done a => rfl
  | call r next ih => exact ih _ _

end Run

/-! ## what holds of all requests -/

/-- Every request of a plan is a `P`, whatever the answers are. -/
def All (P : Request → Prop) : Plan α → Prop
  | .done _ => True
  | .call r next => P r ∧ ∀ answer, (next answer).All P

variable {P : Request → Prop}

theorem All.done (a : α) : (Plan.done a).All P := trivial

theorem All.ask {r : Request} (h : P r) : (ask r).All P := ⟨h, fun _ => trivial⟩

/-- A plan in two parts asks for what its parts ask for. -/
theorem All.bind {p : Plan α} {f : α → Plan β} (hp : p.All P) (hf : ∀ a, (f a).All P) :
    (p.bind f).All P := by
  induction p with
  | done a => exact hf a
  | call r next ih => exact ⟨hp.1, fun answer => ih answer (hp.2 answer)⟩

/-- A weaker condition on the requests. -/
theorem All.imp {Q : Request → Prop} {p : Plan α} (h : p.All P) (himp : ∀ r, P r → Q r) :
    p.All Q := by
  induction p with
  | done a => trivial
  | call r next ih => exact ⟨himp r h.1, fun answer => ih answer (h.2 answer)⟩

theorem all_true (p : Plan α) : p.All fun _ => True := by
  induction p with
  | done a => trivial
  | call r next ih => exact ⟨trivial, ih⟩

variable {carryOut : (r : Request) → StateM σ r.Answer}

/-- What requests of a kind keep, a plan of such requests keeps. -/
theorem run_keeps {view : σ → γ}
    (hkeeps : ∀ r, P r → ∀ s, view ((carryOut r).run s).2 = view s)
    {p : Plan α} (h : p.All P) (s : σ) : view ((p.run carryOut).run s).2 = view s := by
  induction p generalizing s with
  | done a => rfl
  | call r next ih =>
      rw [run_call, ih _ (h.2 _), hkeeps r h.1]

/-- What is asked for in a run is what the plan may ask for. -/
theorem of_mem_requests {p : Plan α} (h : p.All P) {s : σ} {m : Request × σ}
    (hm : m ∈ p.requests carryOut s) : P m.1 := by
  induction p generalizing s with
  | done a => cases hm
  | call r next ih =>
      rcases List.mem_cons.1 hm with rfl | hm
      · exact h.1
      · exact ih _ (h.2 _) hm

end Plan

/-! ## what a confirmation reads off the store -/

/-- A profile that passes the check is the one that was found, and has the captured identity. -/
theorem validate_eq_ok {id : NetworkId} {captured : Option String} {found : Option Profile}
    {p : Profile} (h : validate id captured found = .ok p) :
    found = some p ∧ captured = some p.identity := by
  unfold validate at h
  split at h
  · cases h
  · split at h
    · next hcaptured => cases h; exact ⟨rfl, hcaptured⟩
    · cases h

/-- A profile that passes the last check has its randomization disabled. -/
theorem verify_eq_ok {id : NetworkId} {found : Option Profile} {q : Profile}
    (h : verify id found = .ok q) : found = some q ∧ q.macPolicy = .disabled := by
  unfold verify at h
  split at h
  · cases h
  · split at h
    · next hshown => cases h; exact ⟨rfl, hshown⟩
    · cases h

/-! ## the requests of a confirmation -/

/-- A request that does not ask for a change of the store. -/
def Request.IsAside : Request → Prop
  | .update .. => False
  | .enable .. => False
  | _ => True

/-- The profile and the uid of an update. -/
def Request.update? : Request → Option (Profile × Uid)
  | .update p uid => some (p, uid)
  | _ => none

/-- A request aside from the store is no update. -/
theorem Request.IsAside.update?_eq_none {r : Request} (h : r.IsAside) : r.update? = none := by
  cases r with
  | update p uid => exact h.elim
  | _ => rfl

variable (messages : Messages) (id : NetworkId)

/-- An offer is aside from the store. -/
theorem offer_aside : (offer messages id).All Request.IsAside := by
  refine .bind (.ask trivial) fun found => ?_
  cases found with
  | none => exact .bind (.ask trivial) fun _ => .done _
  | some p => exact .bind (.ask trivial) fun _ => .bind (.ask trivial) fun _ => .done _

/-- A check looks a network up, and may tell that it is not the one that is meant. -/
theorem check_all {P : Request → Prop} {captured : Option String} (hlook : P (.look id))
    (htrace : ∀ fault, P (.trace (.notActedOn id fault)))
    (htoast : P (.toast messages.networkNotFound)) : (check messages id captured).All P := by
  refine .bind (.ask hlook) fun found => ?_
  cases validate id captured found with
  | ok p => exact .done _
  | error fault => exact .bind (.ask (htrace fault)) fun _ => .bind (.ask htoast) fun _ => .done _

/-- Before the dialog, a confirmation leaves the store alone. -/
theorem check_aside (captured : Option String) : (check messages id captured).All Request.IsAside :=
  check_all messages id trivial (fun _ => trivial) trivial

/-- Without consent, a confirmation leaves the store alone. -/
theorem conclude_aside (p : Profile) {choice : Dialog.Choice} (h : choice ≠ .accepted) :
    (conclude messages id p choice).All Request.IsAside := by
  rw [conclude, if_neg h]
  exact .bind (.ask trivial) fun _ => .done _

/-- The change begins with the update; what follows is a look at the store. -/
theorem disable_eq (p : Profile) :
    ∃ rest, disable p = .call (.update p.withDeviceMac systemUid) rest ∧
      ∀ answer, (rest answer).All Request.IsAside := by
  refine ⟨_, rfl, fun answer => .bind (.done answer) fun answer => ?_⟩
  cases answer with
  | ok _ => exact .bind (.ask trivial) fun _ => .done _
  | error fault => exact .bind (.ask trivial) fun _ => .bind (.ask trivial) fun _ => .done _

/-- The report of a change enables the network if the store shows the change. -/
theorem apply_eq (p : Profile) :
    ∃ report, apply messages id p = (disable p).bind report ∧
      (∀ fault, (report (.error fault)).All Request.IsAside) ∧
      ∀ updated, ∃ rest, report (.ok updated) =
          .call (.toast messages.success) (fun _ => .call (.enable updated.id systemUid) rest) ∧
        ∀ answer, (rest answer).All Request.IsAside := by
  refine ⟨_, rfl, fun fault => .bind (.ask trivial) fun _ => .bind (.ask trivial) fun _ => .done _,
    fun updated => ⟨_, rfl, fun answer => .bind (.done answer) fun answer => ?_⟩⟩
  cases answer with
  | ok _ => exact .bind (.ask trivial) fun _ => .bind (.ask trivial) fun _ => .done _
  | error fault =>
      exact .bind (.ask trivial) fun _ => .bind (.ask trivial) fun _ => .bind (.ask trivial)
        fun _ => .done _

/-- With consent, a confirmation asks for one update, before all else. -/
theorem conclude_accepted (p : Profile) :
    ∃ next, conclude messages id p .accepted = .call (.update p.withDeviceMac systemUid) next ∧
      ∀ answer, (next answer).All fun r => r.update? = none := by
  obtain ⟨rest, hdisable, haside⟩ := disable_eq p
  obtain ⟨report, happly, hfailed, hdone⟩ := apply_eq messages id p
  have hnone : ∀ r : Request, r.IsAside → r.update? = none := fun _ h => h.update?_eq_none
  refine ⟨fun answer => (rest answer).bind report, ?_, fun answer => ?_⟩
  · change apply messages id p = _
    rw [happly, hdisable]
    rfl
  · refine .bind ((haside answer).imp hnone) fun verified => ?_
    cases verified with
    | error fault => exact (hfailed fault).imp hnone
    | ok updated =>
        obtain ⟨rest, hreport, haside⟩ := hdone updated
        rw [hreport]
        exact ⟨rfl, fun _ => ⟨rfl, fun answer => (haside answer).imp hnone⟩⟩

/-- A request that posts no notification. -/
def Request.IsSilent : Request → Prop
  | .post .. => False
  | _ => True

/-- A check shows no notification. -/
theorem check_silent (captured : Option String) : (check messages id captured).All Request.IsSilent :=
  check_all messages id trivial (fun _ => trivial) trivial

/-- An update shows no notification. -/
theorem disable_silent (p : Profile) : (disable p).All Request.IsSilent := by
  refine .bind (.ask trivial) fun answer => ?_
  cases answer with
  | ok _ => exact .bind (.ask trivial) fun _ => .done _
  | error fault => exact .bind (.ask trivial) fun _ => .bind (.ask trivial) fun _ => .done _

/-- Only an offer posts a notification; a confirmation does not, whatever the choice is. -/
theorem conclude_silent (p : Profile) (choice : Dialog.Choice) :
    (conclude messages id p choice).All Request.IsSilent := by
  rw [conclude]
  split
  · refine .bind (disable_silent p) fun verified => ?_
    cases verified with
    | error fault => exact .bind (.ask trivial) fun _ => .bind (.ask trivial) fun _ => .done _
    | ok updated =>
        refine .bind (.ask trivial) fun _ => .bind (.ask trivial) fun answer => ?_
        cases answer with
        | ok _ => exact .bind (.ask trivial) fun _ => .bind (.ask trivial) fun _ => .done _
        | error fault =>
            exact .bind (.ask trivial) fun _ => .bind (.ask trivial) fun _ => .bind (.ask trivial)
              fun _ => .done _
  · exact .bind (.ask trivial) fun _ => .done _

variable {σ : Type} {carryOut : (r : Request) → StateM σ r.Answer}

/-- **The only update of a confirmation** is that of the profile that was checked, in the state
in which the choice is acted on; and it takes consent. -/
theorem update_of_mem_conclude {p q : Profile} {uid : Uid} {choice : Dialog.Choice} {s t : σ}
    (hm : (.update q uid, t) ∈ (conclude messages id p choice).requests carryOut s) :
    choice = .accepted ∧ q = p.withDeviceMac ∧ uid = systemUid ∧ t = s := by
  by_cases hchoice : choice = .accepted
  · subst hchoice
    obtain ⟨next, hnext, hrest⟩ := conclude_accepted messages id p
    rw [hnext] at hm
    rcases List.mem_cons.1 hm with heq | hm
    · cases heq
      exact ⟨rfl, rfl, rfl, rfl⟩
    · cases Plan.of_mem_requests (hrest _) hm
  · cases Plan.of_mem_requests (conclude_aside messages id p hchoice) hm

end MacConsent.Remedy
