import MacConsent.Network.Id
import MacConsent.Text.Quoted

/-!
# MacConsent.Remedy.Fault

Why an offer to use the device's own address comes to nothing.
-/

namespace MacConsent.Remedy

/-- What stops a remedy. -/
inductive Fault
  | notFound (id : NetworkId)
  /-- The network is not the one that the notification was about. -/
  | stale (id : NetworkId) (expected : Option String) (found : String)
  /-- The store does not show the change that it was asked for. -/
  | unverified (id : NetworkId)
  | queueClosed
  | alreadyRegistered
deriving DecidableEq

/-- The wording of a fault. -/
def Fault.message : Fault → String
  | .notFound id => "Network " ++ id.text ++ " not found"
  | .stale id expected found =>
    "Network " ++ id.text ++ " changed since the notification was posted (expected " ++
      Text.quoted? expected ++ ", found " ++ Text.quoted found ++ ")"
  | .unverified id =>
    "Store did not apply the MAC randomization change for network " ++ id.text
  | .queueClosed => "Confirmation queue is closed"
  | .alreadyRegistered => "A confirmation handler is already registered"

end MacConsent.Remedy
