/-!
# MacConsent.Network.Security

The security type of a saved network. Each type has a label, which takes part
in a network's identity, and a pair of document values: the authentication and
the encryption that a saved profile is written with. Several authentication
values are read as one type, so reading undoes writing and not the reverse
(`ofAuthentication?_authentication`).
-/

namespace MacConsent

/-- How a network is secured. -/
inductive Security
  | unsecured
  | wep
  | wpa
  | wpa2
  | wpa3
  | enterprise
deriving DecidableEq, Repr

namespace Security

/-- The label that an identity ends with. -/
def label : Security → String
  | .unsecured => "OPEN"
  | .wep => "WEP"
  | .wpa => "WPA"
  | .wpa2 => "WPA2"
  | .wpa3 => "WPA3"
  | .enterprise => "EAP"

/-- The authentication value of a written profile. -/
def authentication : Security → String
  | .unsecured => "open"
  | .wep => "shared"
  | .wpa => "WPAPSK"
  | .wpa2 => "WPA2PSK"
  | .wpa3 => "WPA3SAE"
  | .enterprise => "WPA2"

/-- The encryption value of a written profile. -/
def encryption : Security → String
  | .unsecured => "none"
  | .wep => "WEP"
  | .wpa => "TKIP"
  | .wpa2 => "AES"
  | .wpa3 => "AES"
  | .enterprise => "AES"

/-- The type that an authentication value stands for; the values are case-sensitive. -/
def ofAuthentication? : String → Option Security
  | "open" => some .unsecured
  | "shared" => some .wep
  | "WPAPSK" => some .wpa
  | "WPA2PSK" => some .wpa2
  | "WPA3SAE" => some .wpa3
  | "WPA" => some .enterprise
  | "WPA2" => some .enterprise
  | "WPA3ENT" => some .enterprise
  | "WPA3ENT192" => some .enterprise
  | _ => none

/-- Reading the written authentication gives the type back. -/
theorem ofAuthentication?_authentication (s : Security) :
    ofAuthentication? s.authentication = some s := by
  cases s <;> rfl

/-- Labels tell the types apart. -/
theorem label_injective {s t : Security} (h : s.label = t.label) : s = t := by
  cases s <;> cases t <;> first | rfl | exact absurd h (by decide)

end Security

end MacConsent
