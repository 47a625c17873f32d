import MacConsent.Remedy.Confirmation

/-!
# MacConsent.Proofs.Network.Identity

An identity tells a network's name and its security apart from all others, since
no label holds a slash: what stands behind the last slash is the label. So the
check of a confirmation, which compares identities, passes the profiles of the
captured network and calls all others stale (`Profile.identity_unambiguous`).
-/

namespace MacConsent

/-- A last mark cuts a list in one way only. -/
theorem append_mark_inj {α : Type} {mark : α} {a b l m : List α} (hl : mark ∉ l) (hm : mark ∉ m)
    (h : a ++ mark :: l = b ++ mark :: m) : a = b ∧ l = m := by
  -- of two cuts at different places, one leaves the mark behind itself
  have hcut {x rest rest' : List α} (hrest : mark ∉ rest)
      (hx : mark :: rest = x ++ mark :: rest') : x = [] ∧ rest = rest' := by
    cases x with
    | nil => exact ⟨rfl, (List.cons.inj hx).2⟩
    | cons c x =>
        refine absurd ?_ hrest
        rw [(List.cons.inj hx).2]
        simp
  rcases List.append_eq_append_iff.1 h with ⟨x, rfl, hx⟩ | ⟨x, rfl, hx⟩
  · obtain ⟨rfl, rfl⟩ := hcut hl hx
    exact ⟨(List.append_nil _).symm, rfl⟩
  · obtain ⟨rfl, rfl⟩ := hcut hm hx
    exact ⟨List.append_nil _, rfl⟩

theorem Security.slash_not_mem_label (s : Security) : '/' ∉ s.label.toList := by
  cases s <;> decide

/-- **Profiles have one identity exactly if they are of one network**: one name and one security,
whatever the name is. -/
theorem Profile.identity_eq_iff {p q : Profile} :
    p.identity = q.identity ↔ p.ssid = q.ssid ∧ p.security = q.security := by
  constructor
  · intro h
    have hlist : p.ssid.toList ++ '/' :: p.security.label.toList =
        q.ssid.toList ++ '/' :: q.security.label.toList := by
      simpa [identity, String.toList_append] using congrArg String.toList h
    obtain ⟨hssid, hlabel⟩ :=
      append_mark_inj p.security.slash_not_mem_label q.security.slash_not_mem_label hlist
    exact ⟨String.toList_injective hssid, Security.label_injective (String.toList_injective hlabel)⟩
  · rintro ⟨hssid, hsecurity⟩
    rw [identity, identity, hssid, hsecurity]

/-- **A captured identity is unambiguous.** Two profiles have one identity exactly if their names
and their security are the same, whatever slashes the names hold. So a check against the identity
of one profile passes another one exactly if both are of one network, and otherwise reports the
identity that it was given and the one it has found. -/
theorem Profile.identity_unambiguous (p q : Profile) :
    (p.identity = q.identity ↔ p.ssid = q.ssid ∧ p.security = q.security) ∧
      ∀ id, Remedy.validate id (some p.identity) (some q) =
        if p.ssid = q.ssid ∧ p.security = q.security then .ok q
        else .error (.stale id (some p.identity) q.identity) := by
  refine ⟨identity_eq_iff, fun id => ?_⟩
  by_cases hsame : p.ssid = q.ssid ∧ p.security = q.security
  · rw [if_pos hsame, Remedy.validate, if_pos (congrArg some (identity_eq_iff.2 hsame))]
  · have hne : some p.identity ≠ some q.identity :=
      fun h => hsame (identity_eq_iff.1 (Option.some.inj h))
    rw [if_neg hsame, Remedy.validate, if_neg hne]

-- an open network may carry the label of a protected one at the end of its name
example :
    Profile.identity { id := .first, ssid := "Home", security := .wpa2 } ≠
      Profile.identity { id := .first, ssid := "Home/WPA2", security := .unsecured } := by
  decide +kernel

end MacConsent
