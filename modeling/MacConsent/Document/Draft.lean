import MacConsent.Network.Profile
import MacConsent.Text.Quoted

/-!
# MacConsent.Document.Draft

A profile in the making. A document names each field of a profile by an element
inside a certain parent; a draft takes the values as they come, a later one in
place of an earlier one, and turns into a profile once the id, the name and the
authentication are there. The other fields have a value when nothing is said.
-/

namespace MacConsent.Document

/-! ## Fields -/

/-- A field of a profile that a document can hold. -/
inductive Field
  | id
  | name
  | hidden
  | mode
  | authentication
  | passphrase
  | randomization
deriving DecidableEq, Repr

namespace Field

/-- The field that an element inside a parent element holds. -/
def at? (parent leaf : String) : Option Field :=
  match parent, leaf with
  | "WLANProfile", "networkId" => some .id
  | "SSID", "name" => some .name
  | "SSIDConfig", "nonBroadcast" => some .hidden
  | "WLANProfile", "connectionMode" => some .mode
  | "authEncryption", "authentication" => some .authentication
  | "sharedKey", "keyMaterial" => some .passphrase
  | "MacRandomization", "enableRandomization" => some .randomization
  | _, _ => none

/-- What a field is called when it is missing. -/
def label : Field → String
  | .id => "networkId"
  | .name => "SSID name"
  | .hidden => "nonBroadcast"
  | .mode => "connectionMode"
  | .authentication => "authentication"
  | .passphrase => "keyMaterial"
  | .randomization => "enableRandomization"

end Field

/-! ## Faults of content -/

/-- Why a well-formed document does not hold profiles. -/
inductive ContentFault
  | badId (text : String)
  | unknownAuthentication (text : String)
  | missing (field : Field)
  | unknownEntity (name : String)
  | unbalancedEnd
deriving DecidableEq, Repr

/-- The wording of a fault. -/
def ContentFault.message : ContentFault → String
  | .badId text => "bad networkId " ++ Text.quoted text
  | .unknownAuthentication text => "unknown authentication " ++ Text.quoted text
  | .missing field => "missing " ++ field.label
  | .unknownEntity name => "unknown entity &" ++ name ++ ";"
  | .unbalancedEnd => "unbalanced end tag"

/-! ## Drafts -/

/-- The fields of a profile that are known so far. -/
structure Draft where
  id : Option NetworkId := none
  ssid : Option String := none
  security : Option Security := none
  macPolicy : MacPolicy := .randomized
  passphrase : Option String := none
  hidden : Bool := false
  enabled : Bool := false
deriving DecidableEq

namespace Draft

/-- The draft with a field set from its text. An empty passphrase is none, and leaves the
draft as it is. -/
def set (d : Draft) (field : Field) (text : String) : Except ContentFault Draft :=
  match field with
  | .id =>
    match NetworkId.ofText? text with
    | some id => .ok { d with id := some id }
    | none => .error (.badId text)
  | .name => .ok { d with ssid := some text }
  | .hidden => .ok { d with hidden := text == "true" }
  | .mode => .ok { d with enabled := text == "auto" }
  | .authentication =>
    match Security.ofAuthentication? text with
    | some security => .ok { d with security := some security }
    | none => .error (.unknownAuthentication text)
  | .passphrase => .ok (if text = "" then d else { d with passphrase := some text })
  | .randomization =>
    .ok { d with macPolicy := if text = "false" then .disabled else .randomized }

/-- The profile of a draft. -/
def profile? (d : Draft) : Except ContentFault Profile :=
  match d.id, d.ssid, d.security with
  | none, _, _ => .error (.missing .id)
  | some _, none, _ => .error (.missing .name)
  | some _, some _, none => .error (.missing .authentication)
  | some id, some ssid, some security =>
    .ok ⟨id, ssid, security, d.macPolicy, d.passphrase, d.hidden, d.enabled⟩

end Draft

end MacConsent.Document
