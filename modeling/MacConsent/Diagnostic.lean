import MacConsent.Dialog.Request
import MacConsent.Files.Path
import MacConsent.Notice
import MacConsent.Remedy.Fault
import MacConsent.Store.Fault

/-!
# MacConsent.Diagnostic

What the program tells an observer about its work. Each occurrence has a level,
a fixed message and named fields.
-/

namespace MacConsent

/-- Who asks for an operation, by number. -/
abbrev Uid := UInt32

/-- On whose account a scan is made. -/
structure WorkSource where
  uid : Uid
  tag : String
deriving DecidableEq, Repr

/-- How much an occurrence matters. -/
inductive Level
  | trace
  | debug
  | info
  | warn
  | error
deriving DecidableEq, Repr

/-- The name of a level. -/
def Level.name : Level → String
  | .trace => "TRACE"
  | .debug => "DEBUG"
  | .info => "INFO"
  | .warn => "WARN"
  | .error => "ERROR"

/-- An occurrence. -/
inductive Diagnostic
  | profilesLoaded (path : Files.Path) (count : Nat)
  | profileUpdated (id : NetworkId) (uid : Uid)
  | profileEnabled (id : NetworkId) (uid : Uid)
  | notSaved (id : NetworkId)
  | offered (offer : Offer)
  | noticeReplaced (number : UInt32)
  | detailsRequested (id : NetworkId)
  | eventIgnored (action : String)
  | confirmationDropped (id : NetworkId) (fault : Remedy.Fault)
  | notActedOn (id : NetworkId) (fault : Remedy.Fault)
  | declined (id : NetworkId) (choice : Dialog.Choice)
  | updateRefused (id : NetworkId) (fault : Store.Fault)
  | modifyFailed (id : NetworkId) (fault : Remedy.Fault)
  | enableFailed (id : NetworkId) (fault : Store.Fault)
  | randomizationDisabled (id : NetworkId)
  | scanRequested (source : WorkSource)
  | queueDrained (queue : String)
deriving DecidableEq

namespace Diagnostic

/-- How much an occurrence matters. -/
def level : Diagnostic → Level
  | .eventIgnored .. => .trace
  | .profilesLoaded .. | .profileUpdated .. | .profileEnabled .. | .notSaved .. => .debug
  | .noticeReplaced .. | .detailsRequested .. | .declined .. | .queueDrained .. => .debug
  | .offered .. | .randomizationDisabled .. | .scanRequested .. => .info
  | .notActedOn .. | .updateRefused .. | .enableFailed .. => .warn
  | .confirmationDropped .. | .modifyFailed .. => .error

/-- What has happened. -/
def message : Diagnostic → String
  | .profilesLoaded .. => "loaded profiles"
  | .profileUpdated .. => "profile updated"
  | .profileEnabled .. => "profile enabled"
  | .notSaved .. => "no saved profile, skipping notification"
  | .offered .. => "posted randomization notification"
  | .noticeReplaced .. => "replaced live notification"
  | .detailsRequested .. => "randomization details requested"
  | .eventIgnored .. => "ignoring unrelated event"
  | .confirmationDropped .. => "dropping confirmation"
  | .notActedOn .. => "not acting on notification"
  | .declined .. => "user declined"
  | .updateRefused .. => "store refused profile update"
  | .modifyFailed .. => "Failed to modify MAC randomization setting"
  | .enableFailed .. => "failed to enable network"
  | .randomizationDisabled .. => "MAC randomization disabled"
  | .scanRequested .. => "connectivity scan requested"
  | .queueDrained .. => "serial queue drained"

/-- A number in decimal digits. -/
def number (n : Nat) : String := String.ofList (Nat.toDigits 10 n)

/-- The fields, each with its text. -/
def fields : Diagnostic → List (String × String)
  | .profilesLoaded path count => [("path", path.text), ("count", number count)]
  | .profileUpdated id uid => [("network_id", id.text), ("uid", number uid.toNat)]
  | .profileEnabled id uid => [("network_id", id.text), ("uid", number uid.toNat)]
  | .notSaved id => [("network_id", id.text)]
  | .offered offer => [("network_id", offer.networkId.text), ("identity", offer.identity)]
  | .noticeReplaced n => [("notification_id", number n.toNat)]
  | .detailsRequested id => [("network_id", id.text)]
  | .eventIgnored action => [("action", action)]
  | .confirmationDropped id fault => [("network_id", id.text), ("error", fault.message)]
  | .notActedOn id fault => [("network_id", id.text), ("error", fault.message)]
  | .declined id choice => [("network_id", id.text), ("outcome", choice.name)]
  | .updateRefused id fault => [("network_id", id.text), ("error", fault.message)]
  | .modifyFailed id fault => [("network_id", id.text), ("error", fault.message)]
  | .enableFailed id fault => [("network_id", id.text), ("error", fault.message)]
  | .randomizationDisabled id => [("network_id", id.text)]
  | .scanRequested source => [("uid", number source.uid.toNat), ("tag", source.tag)]
  | .queueDrained queue => [("queue", queue)]

end Diagnostic

end MacConsent
