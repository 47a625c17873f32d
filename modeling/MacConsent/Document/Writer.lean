import MacConsent.Markup.Row
import MacConsent.Network.Profile

/-!
# MacConsent.Document.Writer

Profiles written as a document: one element for each profile, inside one for
all. The name is written twice, once for the profile and once for the network.
A key stands only in the elements of networks that have one, and a hidden
network is marked as such.
-/

namespace MacConsent.Document

/-- The name space of profiles. -/
def profileSpace : String := "http://www.microsoft.com/networking/WLAN/profile/v1"

/-- The name space of address settings. -/
def macSpace : String := "http://www.microsoft.com/networking/WLAN/profile/v3"

/-- The spelling of a yes or no. -/
def flag (b : Bool) : String := if b then "true" else "false"

open Markup (Row)

/-- The rows of a network's name. -/
def ssidRows (p : Profile) : List (Nat × Row) :=
  [(2, .start "SSIDConfig" none),
    (3, .start "SSID" none),
    (4, .field "name" p.ssid),
    (3, .finish "SSID")] ++
  (if p.hidden then [(3, .field "nonBroadcast" "true")] else []) ++
  [(2, .finish "SSIDConfig")]

/-- The rows of a passphrase, if there is one. -/
def keyRows : Option String → List (Nat × Row)
  | none => []
  | some passphrase =>
    [(4, .start "sharedKey" none),
      (5, .field "keyType" "passPhrase"),
      (5, .field "protected" "false"),
      (5, .field "keyMaterial" passphrase),
      (4, .finish "sharedKey")]

/-- The rows of a network's security. -/
def securityRows (p : Profile) : List (Nat × Row) :=
  [(2, .start "MSM" none),
    (3, .start "security" none),
    (4, .start "authEncryption" none),
    (5, .field "authentication" p.security.authentication),
    (5, .field "encryption" p.security.encryption),
    (5, .field "useOneX" (flag (p.security = .enterprise))),
    (4, .finish "authEncryption")] ++
  keyRows p.passphrase ++
  [(3, .finish "security"),
    (2, .finish "MSM")]

/-- The rows of the address setting. -/
def macRows (policy : MacPolicy) : List (Nat × Row) :=
  [(2, .start "MacRandomization" (some macSpace)),
    (3, .field "enableRandomization" (flag (policy = .randomized))),
    (2, .finish "MacRandomization")]

/-- The rows of a profile. -/
def profileRows (p : Profile) : List (Nat × Row) :=
  [(1, .start "WLANProfile" (some profileSpace)),
    (2, .field "name" p.ssid),
    (2, .field "networkId" p.id.text)] ++
  ssidRows p ++
  [(2, .field "connectionType" "ESS"),
    (2, .field "connectionMode" (if p.enabled then "auto" else "manual"))] ++
  securityRows p ++
  macRows p.macPolicy ++
  [(1, .finish "WLANProfile")]

/-- The rows of a document. -/
def rows (profiles : List Profile) : List (Nat × Row) :=
  [(0, .start "WLANProfiles" none)] ++
  profiles.flatMap profileRows ++
  [(0, .finish "WLANProfiles")]

/-- The document that holds the profiles, in order. -/
def write (profiles : List Profile) : String :=
  String.ofList (Markup.renderRows (rows profiles))

end MacConsent.Document
