import MacConsent.Network.Id
import MacConsent.Network.Security

/-!
# MacConsent.Network.Profile

A saved network. Its identity is its name and its security label with a slash
between; since no label holds a slash, the identity determines both even when
the name holds slashes of its own.
-/

namespace MacConsent

/-- Whether a network sees a generated hardware address or the device's own. -/
inductive MacPolicy
  | randomized
  | disabled
deriving DecidableEq, Repr

/-- The name of a policy in listings. -/
def MacPolicy.name : MacPolicy → String
  | .randomized => "Randomized"
  | .disabled => "Disabled"

/-- A saved network. -/
structure Profile where
  id : NetworkId
  ssid : String
  security : Security
  macPolicy : MacPolicy := .randomized
  passphrase : Option String := none
  hidden : Bool := false
  enabled : Bool := true
deriving DecidableEq

namespace Profile

/-- Network name and security label; it tells that an id still names the same network. -/
def identity (p : Profile) : String := p.ssid ++ "/" ++ p.security.label

/-- The profile with the device's own address in use. -/
def withDeviceMac (p : Profile) : Profile := { p with macPolicy := .disabled }

end Profile

end MacConsent
