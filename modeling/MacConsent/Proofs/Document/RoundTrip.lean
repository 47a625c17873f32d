import MacConsent.Proofs.Decimal
import MacConsent.Proofs.Document.Rows

/-!
# MacConsent.Proofs.Document.RoundTrip

Written profiles read back.  A document gives back every profile that was
written to it, in order, with each name and each passphrase trimmed and a
passphrase of blanks left out (`read_write`); it is the reader that trims, the
writer puts every value down as it is.  What a document gives back is its own
normal form: written again, it reads back unchanged (`kept_kept`).
-/

namespace MacConsent

/-! ## what a document keeps of a profile -/

namespace Profile

/-- A passphrase as a document keeps it: trimmed, and none at all if nothing is left. -/
def keptPassphrase : Option String → Option String
  | none => none
  | some passphrase =>
    if Text.trimmed passphrase = "" then none else some (Text.trimmed passphrase)

/-- A profile as a document keeps it. -/
def kept (p : Profile) : Profile :=
  { p with ssid := Text.trimmed p.ssid, passphrase := keptPassphrase p.passphrase }

/-- A passphrase that was kept is kept as it is. -/
theorem keptPassphrase_keptPassphrase (passphrase : Option String) :
    keptPassphrase (keptPassphrase passphrase) = keptPassphrase passphrase := by
  cases passphrase with
  | none => rfl
  | some k =>
      unfold keptPassphrase
      by_cases hk : Text.trimmed k = ""
      · simp [hk]
      · simp [hk, Text.trimmed_trimmed]

/-- A document keeps what a document has given back. -/
theorem kept_kept (p : Profile) : p.kept.kept = p.kept := by
  simp [kept, Text.trimmed_trimmed, keptPassphrase_keptPassphrase]

end Profile

namespace Document

open Markup

/-! ## values that trimming leaves alone -/

/-- A text without blanks is read as it stands. -/
theorem trimmed_eq_self {s : String} (h : ∀ c ∈ s.toList, Text.isBlank c = false) :
    Text.trimmed s = s := by
  rw [Text.trimmed, Text.trim_eq_self h, String.ofList_toList]

/-- An id is written without blanks. -/
theorem trimmed_id (a : NetworkId) : Text.trimmed a.text = a.text := by
  apply trimmed_eq_self
  intro c hc
  rw [NetworkId.text, String.toList_ofList] at hc
  exact Decimal.not_isBlank_of_mem_ofInt hc

theorem trimmed_flag (b : Bool) : Text.trimmed (flag b) = flag b := by
  cases b <;> exact trimmed_eq_self (by simp [flag, Text.isBlank])

theorem trimmed_mode (b : Bool) :
    Text.trimmed (if b then "auto" else "manual") = if b then "auto" else "manual" := by
  cases b <;> exact trimmed_eq_self (by simp [Text.isBlank])

/-- A security is written without blanks. -/
theorem trimmed_authentication (s : Security) :
    Text.trimmed s.authentication = s.authentication := by
  cases s <;> exact trimmed_eq_self (by simp [Security.authentication, Text.isBlank])

/-! ## fields -/

namespace Draft

variable (d : Draft)

/-- The id that is written is read. -/
theorem record_id (a : NetworkId) :
    d.record "WLANProfile" "networkId" a.text = .ok { d with id := some a } := by
  change d.set .id (Text.trimmed a.text) = _
  rw [trimmed_id, set, NetworkId.ofText?_text]

/-- The name is read without the blanks at its ends. -/
theorem record_name (ssid : String) :
    d.record "SSID" "name" ssid = .ok { d with ssid := some (Text.trimmed ssid) } := rfl

theorem record_hidden : d.record "SSIDConfig" "nonBroadcast" "true" = .ok { d with hidden := true } := by
  change d.set .hidden (Text.trimmed (flag true)) = _
  rw [trimmed_flag]
  rfl

/-- The mode says whether the profile is enabled. -/
theorem record_mode (enabled : Bool) :
    d.record "WLANProfile" "connectionMode" (if enabled then "auto" else "manual") =
      .ok { d with enabled } := by
  change d.set .mode (Text.trimmed (if enabled then "auto" else "manual")) = _
  rw [trimmed_mode]
  cases enabled <;> rfl

/-- The authentication that is written is read as its security. -/
theorem record_authentication (s : Security) :
    d.record "authEncryption" "authentication" s.authentication =
      .ok { d with security := some s } := by
  change d.set .authentication (Text.trimmed s.authentication) = _
  rw [trimmed_authentication, set, Security.ofAuthentication?_authentication]

/-- A passphrase of blanks is read as none. -/
theorem record_passphrase (passphrase : String) :
    d.record "sharedKey" "keyMaterial" passphrase =
      .ok (if Text.trimmed passphrase = "" then d
        else { d with passphrase := some (Text.trimmed passphrase) }) := rfl

/-- The randomization that is written is read as its policy. -/
theorem record_randomization (policy : MacPolicy) :
    d.record "MacRandomization" "enableRandomization" (flag (policy = .randomized)) =
      .ok { d with macPolicy := policy } := by
  change d.set .randomization (Text.trimmed (flag (policy = .randomized))) = _
  rw [trimmed_flag]
  cases policy <;> rfl

end Draft

/-! ## blocks of rows -/

/-- A start row opens its element. -/
theorem follow_start (opened : List String) (d : Draft) (depth : Nat) (name : String)
    (space : Option String) (rows : List (Nat × Row)) :
    follow (opened, d) ((depth, .start name space) :: rows) = follow (name :: opened, d) rows := rfl

/-- A field row is recorded by the element around it. -/
theorem follow_field {parent leaf value : String} {d d' : Draft}
    (h : d.record parent leaf value = .ok d') (outer : List String) (depth : Nat)
    (rows : List (Nat × Row)) :
    follow (parent :: outer, d) ((depth, .field leaf value) :: rows) =
      follow (parent :: outer, d') rows := by
  simp only [follow_cons, followRow, h, Option.bind_some]

/-- The end of an element that is no field only closes it. -/
theorem follow_finish {name parent : String} (h : Field.at? parent name = none)
    (outer : List String) (d : Draft) (depth : Nat) (rows : List (Nat × Row)) :
    follow (name :: parent :: outer, d) ((depth, .finish name) :: rows) =
      follow (parent :: outer, d) rows := by
  simp only [follow_cons, followRow, h, and_self, if_true, Option.bind_some]

variable (outer : List String) (d : Draft)

/-- The rows of the name give the draft the trimmed name. -/
theorem follow_ssidRows (p : Profile) :
    follow ("WLANProfile" :: outer, d) (ssidRows p) =
      some ("WLANProfile" :: outer,
        { d with ssid := some (Text.trimmed p.ssid), hidden := p.hidden || d.hidden }) := by
  simp only [ssidRows, List.cons_append, List.nil_append]
  rw [follow_start, follow_start, follow_field (Draft.record_name d p.ssid), follow_finish rfl]
  cases p.hidden with
  | false => exact follow_finish rfl outer _ 2 []
  | true =>
      simp only [if_true, List.cons_append, List.nil_append]
      rw [follow_field (Draft.record_hidden _), follow_finish rfl, follow_nil]
      rfl

/-- The rows of a passphrase give the draft what is kept of it. -/
theorem follow_keyRows (passphrase : Option String) (h : d.passphrase = none) :
    follow ("security" :: outer, d) (keyRows passphrase) =
      some ("security" :: outer, { d with passphrase := Profile.keptPassphrase passphrase }) := by
  cases passphrase with
  | none => simp only [keyRows, follow_nil, Profile.keptPassphrase, ← h]
  | some k =>
      rw [keyRows, follow_start, follow_field rfl, follow_field rfl,
        follow_field (Draft.record_passphrase d k), follow_finish rfl, follow_nil]
      by_cases hk : Text.trimmed k = ""
      · simp only [hk, if_true, Profile.keptPassphrase, ← h]
      · simp only [hk, if_false, Profile.keptPassphrase]

/-- The rows of the security give the draft the security and what is kept of the passphrase. -/
theorem follow_securityRows (p : Profile) (h : d.passphrase = none) :
    follow ("WLANProfile" :: outer, d) (securityRows p) =
      some ("WLANProfile" :: outer,
        { d with
          security := some p.security
          passphrase := Profile.keptPassphrase p.passphrase }) := by
  have hkey := follow_keyRows ("MSM" :: "WLANProfile" :: outer)
    { d with security := some p.security } p.passphrase h
  simp only [securityRows, List.cons_append, List.nil_append]
  rw [follow_start, follow_start, follow_start,
    follow_field (Draft.record_authentication d p.security), follow_field rfl, follow_field rfl,
    follow_finish rfl, follow_append, hkey, Option.bind_some, follow_finish rfl,
    follow_finish rfl, follow_nil]

/-- The rows of the address setting give the draft the policy. -/
theorem follow_macRows (policy : MacPolicy) :
    follow ("WLANProfile" :: outer, d) (macRows policy) =
      some ("WLANProfile" :: outer, { d with macPolicy := policy }) := by
  rw [macRows, follow_start, follow_field (Draft.record_randomization d policy),
    follow_finish rfl, follow_nil]

/-! ## one profile -/

/-- The rows between the tags of a profile. -/
def innerRows (p : Profile) : List (Nat × Row) :=
  [(2, .field "name" p.ssid), (2, .field "networkId" p.id.text)] ++
  ssidRows p ++
  [(2, .field "connectionType" "ESS"),
    (2, .field "connectionMode" (if p.enabled then "auto" else "manual"))] ++
  securityRows p ++
  macRows p.macPolicy

/-- The rows of a profile, with its own element around those within. -/
theorem profileRows_eq (p : Profile) :
    profileRows p = (1, .start "WLANProfile" (some profileSpace)) :: innerRows p ++
      [(1, .finish "WLANProfile")] := by
  simp only [profileRows, innerRows, List.append_assoc, List.cons_append, List.nil_append]

/-- The draft that holds what is kept of a profile. -/
def fullDraft (p : Profile) : Draft where
  id := some p.id
  ssid := some (Text.trimmed p.ssid)
  security := some p.security
  macPolicy := p.macPolicy
  passphrase := Profile.keptPassphrase p.passphrase
  hidden := p.hidden
  enabled := p.enabled

/-- **Followed from an empty draft, the rows of a profile fill every field.** -/
theorem follow_innerRows (p : Profile) :
    follow ("WLANProfile" :: outer, {}) (innerRows p) =
      some ("WLANProfile" :: outer, fullDraft p) := by
  have hssid := follow_ssidRows outer { id := some p.id } p
  simp only [innerRows, List.append_assoc, List.cons_append, List.nil_append]
  rw [follow_field rfl, follow_field (Draft.record_id _ p.id), follow_append, hssid,
    Option.bind_some, follow_field rfl, follow_field (Draft.record_mode _ p.enabled),
    follow_append, follow_securityRows _ _ _ rfl, Option.bind_some, follow_macRows, fullDraft,
    Bool.or_false]

theorem fits_ssidRows (p : Profile) : ∀ row ∈ ssidRows p, Fits row.2 := by
  cases h : p.hidden <;>
    simp [ssidRows, h, Fits, IsTagName, profileName, isSpaceName_none]

theorem fits_keyRows (passphrase : Option String) : ∀ row ∈ keyRows passphrase, Fits row.2 := by
  cases passphrase <;> simp [keyRows, Fits, IsTagName, profileName, isSpaceName_none]

theorem fits_securityRows (p : Profile) : ∀ row ∈ securityRows p, Fits row.2 := by
  simp only [securityRows, List.forall_mem_append]
  refine ⟨⟨?_, fits_keyRows p.passphrase⟩, ?_⟩ <;>
    simp [Fits, IsTagName, profileName, isSpaceName_none]

theorem fits_macRows (policy : MacPolicy) : ∀ row ∈ macRows policy, Fits row.2 := by
  have hspace : IsSpaceName (some macSpace) := isSpaceName_some (by simp [macSpace])
  simp [macRows, Fits, IsTagName, profileName, hspace]

/-- Every row of a profile is one the reader can follow. -/
theorem fits_innerRows (p : Profile) : ∀ row ∈ innerRows p, Fits row.2 := by
  simp only [innerRows, List.forall_mem_append]
  refine ⟨⟨⟨⟨?_, fits_ssidRows p⟩, ?_⟩, fits_securityRows p⟩, fits_macRows p.macPolicy⟩ <;>
    simp [Fits, IsTagName, profileName]

namespace Walk

/-- **A profile that is written is read**, as it is kept. -/
theorem readFrom_profile (p : Profile) (outer : List String) (done : List Profile)
    (rest : List Char) :
    (behind outer none done).readFrom ((profileRows p).flatMap (fun r => r.2.render r.1) ++ rest) =
      (behind outer none (p.kept :: done)).readFrom rest := by
  have hname : IsTagName "WLANProfile" := by simp [IsTagName]
  have hspace : IsSpaceName (some profileSpace) := isSpaceName_some (by simp [profileSpace])
  have hinner := readFrom_follow (fits_innerRows p) (follow_innerRows outer p) done
    ((Row.finish "WLANProfile").render 1 ++ rest)
  rw [profileRows_eq, List.cons_append, List.flatMap_cons, List.flatMap_append,
    List.append_assoc, List.append_assoc, readFrom_start hname hspace, List.flatMap_singleton]
  refine hinner.trans ?_
  rw [readFrom_render, Row.body, readFrom_endTag hname rfl]
  rfl

/-- Profiles that are written are read in their order. -/
theorem readFrom_profiles (ps : List Profile) (outer : List String) (done : List Profile)
    (rest : List Char) :
    (behind outer none done).readFrom
        ((ps.flatMap profileRows).flatMap (fun r => r.2.render r.1) ++ rest) =
      (behind outer none ((ps.map Profile.kept).reverse ++ done)).readFrom rest := by
  induction ps generalizing done with
  | nil => rfl
  | cons p ps ih =>
      rw [List.flatMap_cons, List.flatMap_append, List.append_assoc, readFrom_profile, ih]
      simp

end Walk

/-! ## documents -/

/-- **Written profiles read back**: each as a document keeps it, in order. -/
theorem read_write (ps : List Profile) : read (write ps) = .ok (ps.map Profile.kept) := by
  have hname : IsTagName "WLANProfiles" := by simp [IsTagName]
  have hhead : (write ps).toList.head? ≠ some '\ufeff' := by
    rw [write, String.toList_ofList, renderRows]
    obtain ⟨cs, hcs, _⟩ := Token.cut_declaration ((rows ps).flatMap fun r => r.2.render r.1)
    rw [hcs, List.head?_cons]
    decide
  rw [Walk.read_eq hhead, write, String.toList_ofList, renderRows, rows, List.flatMap_append,
    List.flatMap_append, List.flatMap_singleton, List.flatMap_singleton, List.append_assoc,
    Walk.readFrom_declaration]
  calc (Walk.behind [] none []).readFrom ((Row.start "WLANProfiles" none).render 0 ++
        ((ps.flatMap profileRows).flatMap (fun r => r.2.render r.1) ++
          (Row.finish "WLANProfiles").render 0))
    _ = (Walk.behind ["WLANProfiles"] none []).readFrom
          ((ps.flatMap profileRows).flatMap (fun r => r.2.render r.1) ++
            (Row.finish "WLANProfiles").render 0) :=
        Walk.readFrom_start hname isSpaceName_none 0 [] none [] _
    _ = (Walk.behind ["WLANProfiles"] none ((ps.map Profile.kept).reverse ++ [])).readFrom
          ((Row.finish "WLANProfiles").render 0) := Walk.readFrom_profiles ps _ [] _
    _ = .ok (ps.map Profile.kept) := by
        rw [← List.append_nil ((Row.finish "WLANProfiles").render 0), Walk.readFrom_render,
          Row.body, Walk.readFrom_endTag hname rfl]
        change (Walk.mk [] _).readFrom [] = _
        rw [Walk.readFrom]
        simp [Walk.behind, Walk.push, Reader.push]

/-- **The normal form of a document, field by field**: names are trimmed, so are passphrases,
those of blanks alone are left out, and all else reads back as it was written. -/
theorem read_write_fields (ps : List Profile) :
    read (write ps) = .ok (ps.map fun p =>
      { id := p.id
        ssid := Text.trimmed p.ssid
        security := p.security
        macPolicy := p.macPolicy
        passphrase := p.passphrase.bind fun k =>
          if Text.trimmed k = "" then none else some (Text.trimmed k)
        hidden := p.hidden
        enabled := p.enabled }) := by
  rw [read_write]
  refine congrArg Except.ok (List.map_congr_left fun p _ => ?_)
  rw [Profile.kept]
  cases p.passphrase <;> rfl

end Document

end MacConsent
