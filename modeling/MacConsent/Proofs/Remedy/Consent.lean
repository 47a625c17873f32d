import MacConsent.Proofs.Remedy.Requests
import MacConsent.Proofs.Store.Roster

/-!
# MacConsent.Proofs.Remedy.Consent

Confirmations with the choices that their dialogs lead to.  A confirmation
changes neither ids nor identities, so what it comes to is decided by the
profiles that were there at the beginning (`Consent.outcome_consented`), and so
is the profile that it leaves (`Profile.consented`).  Of a list of confirmations
only the members count, neither their order nor how often they occur
(`Profile.consented_congr`).
-/

namespace MacConsent

open Remedy (Outcome)

/-- A confirmation, and the choice that its dialog leads to. -/
structure Consent where
  id : NetworkId
  identity : Option String
  choice : Dialog.Choice
deriving DecidableEq

/-- How a confirmation ends, going by the profiles that are stored. -/
def Consent.outcome (r : Store.Roster) (c : Consent) : Outcome :=
  match Remedy.validate c.id c.identity (r.find? c.id) with
  | .error fault => .invalidated fault
  | .ok _ => if c.choice = .accepted then .applied else .declined c.choice

/-- A profile for which a confirmation may have been accepted: then the network sees the device's
own address, and is joined unasked. -/
def Profile.consented (cs : List Consent) (p : Profile) : Profile :=
  if ⟨p.id, some p.identity, .accepted⟩ ∈ cs then
    { p with macPolicy := .disabled, enabled := true }
  else p

/-! ## profiles -/

namespace Profile

variable (c : Consent) (cs cs' : List Consent) (p : Profile)

theorem consented_id : (p.consented cs).id = p.id := by
  unfold consented
  split <;> rfl

theorem consented_ssid : (p.consented cs).ssid = p.ssid := by
  unfold consented
  split <;> rfl

theorem consented_identity : (p.consented cs).identity = p.identity := by
  unfold consented
  split <;> rfl

/-- The first confirmation can be taken by itself. -/
theorem consented_cons : p.consented (c :: cs) = (p.consented [c]).consented cs := by
  rw [consented, consented, consented_id, consented_identity]
  simp only [List.mem_cons]
  by_cases hc : (⟨p.id, some p.identity, .accepted⟩ : Consent) = c
  · have hfirst : p.consented [c] = { p with macPolicy := .disabled, enabled := true } :=
      if_pos (List.mem_singleton.2 hc)
    rw [if_pos (.inl hc), hfirst]
    split <;> rfl
  · have hfirst : p.consented [c] = p := if_neg fun h => hc (List.mem_singleton.1 h)
    rw [hfirst]
    simp only [hc, false_or]

variable {cs cs'} in
/-- Only the members of a list of confirmations count. -/
theorem consented_congr (h : ∀ c, c ∈ cs ↔ c ∈ cs') : consented cs = consented cs' := by
  funext p
  simp only [consented, h]

end Profile

/-- The roster after confirmations. -/
def Store.Roster.consented (r : Store.Roster) (cs : List Consent) : Store.Roster :=
  r.map (Profile.consented cs) (Profile.consented_id cs)

namespace Consent

variable {r : Store.Roster} {c : Consent} {cs cs' : List Consent} {p : Profile}

theorem outcome_of_invalid {fault : Remedy.Fault}
    (h : Remedy.validate c.id c.identity (r.find? c.id) = .error fault) :
    c.outcome r = .invalidated fault := by
  rw [outcome, h]

theorem outcome_of_valid (h : Remedy.validate c.id c.identity (r.find? c.id) = .ok p) :
    c.outcome r = if c.choice = .accepted then .applied else .declined c.choice := by
  rw [outcome, h]

/-- **Confirmations do not decide over each other**: none of them changes an identity. -/
theorem outcome_consented (cs : List Consent) (c : Consent) :
    c.outcome (r.consented cs) = c.outcome r := by
  rw [outcome, outcome, Store.Roster.consented, Store.Roster.find?_map]
  cases r.find? c.id with
  | none => rfl
  | some p =>
      simp only [Option.map_some, Remedy.validate, Profile.consented_identity]
      by_cases hcaptured : c.identity = some p.identity <;> simp only [hcaptured, if_true, if_false]

/-- A confirmation is applied to the profile of its id and its identity, with consent. -/
theorem outcome_eq_applied_iff : c.outcome r = .applied ↔
    ∃ p ∈ r.toList, c = ⟨p.id, some p.identity, .accepted⟩ := by
  obtain ⟨id, identity, choice⟩ := c
  constructor
  · intro h
    cases hvalid : Remedy.validate id identity (r.find? id) with
    | error fault => rw [outcome_of_invalid hvalid] at h; cases h
    | ok p =>
        obtain ⟨hfound, rfl⟩ := Remedy.validate_eq_ok hvalid
        rw [outcome_of_valid hvalid] at h
        split at h
        · next haccepted =>
            obtain rfl := Store.Roster.id_of_find? hfound
            obtain rfl : choice = .accepted := haccepted
            exact ⟨p, Store.Roster.mem_toList_iff.2 hfound, rfl⟩
        · cases h
  · rintro ⟨p, hp, heq⟩
    obtain ⟨rfl, rfl, rfl⟩ := Consent.mk.inj heq
    rw [outcome, Store.Roster.mem_toList_iff.1 hp, Remedy.validate, if_pos rfl]
    rfl

/-- Confirmations of which none is applied leave the profiles alone. -/
theorem consented_of_none_applied (h : ∀ c ∈ cs, c.outcome r ≠ .applied) : r.consented cs = r := by
  refine Store.Roster.ext_toList ((List.map_congr_left fun p hp => ?_).trans (List.map_id _))
  exact if_neg fun hmem => h _ hmem (outcome_eq_applied_iff.2 ⟨p, hp, rfl⟩)

theorem consented_cons : r.consented (c :: cs) = (r.consented [c]).consented cs := by
  refine Store.Roster.ext_toList ?_
  change r.toList.map (Profile.consented (c :: cs)) =
    (r.toList.map (Profile.consented [c])).map (Profile.consented cs)
  rw [List.map_map]
  exact List.map_congr_left fun p _ => p.consented_cons c cs

theorem consented_nil : r.consented [] = r :=
  consented_of_none_applied fun _ h => absurd h List.not_mem_nil

/-- The profile of a confirmation that is applied is the one that changes. -/
theorem consented_of_applied (hfound : r.find? p.id = some p) :
    r.consented [⟨p.id, some p.identity, .accepted⟩] =
      r.insert { p with macPolicy := .disabled, enabled := true } := by
  let changed : Profile := { p with macPolicy := .disabled, enabled := true }
  have hinsert := Store.Roster.toList_insert_of_find? (p := changed) hfound
  refine Store.Roster.ext_toList (Eq.trans (List.map_congr_left fun q hq => ?_) hinsert.symm)
  simp only [Profile.consented, List.mem_singleton]
  by_cases hid : q.id = p.id
  · obtain rfl : q = p := by
      have hsame : r.find? q.id = some q := Store.Roster.mem_toList_iff.1 hq
      rw [hid, hfound] at hsame
      exact (Option.some.inj hsame).symm
    rw [if_pos rfl, if_pos rfl]
  · rw [if_neg fun heq => hid (congrArg Consent.id heq), if_neg hid]

end Consent

end MacConsent
