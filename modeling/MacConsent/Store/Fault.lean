import MacConsent.Document.Reader
import MacConsent.Files.Fault

/-!
# MacConsent.Store.Fault

Why a store of profiles does not do what it is asked.
-/

namespace MacConsent.Store

/-- Why a store refuses a profile. -/
inductive Refusal
  | emptyName
  | noFreeId
  | readOnly
  | locked
deriving DecidableEq, Repr

/-- The wording of a refusal. -/
def Refusal.message : Refusal → String
  | .emptyName => "empty SSID"
  | .noFreeId => "no free network id"
  | .readOnly => "read-only"
  | .locked => "locked"

/-- Why an operation of a store fails. -/
inductive Fault
  | unknownProfile (id : NetworkId)
  | rejected (id : NetworkId) (reason : Refusal)
  | document (fault : Document.Fault)
  | files (fault : Files.Fault)
deriving DecidableEq

/-- The wording of a fault. -/
def Fault.message : Fault → String
  | .unknownProfile id => "Profile " ++ id.text ++ " does not exist"
  | .rejected id reason => "Profile " ++ id.text ++ " was rejected: " ++ reason.message
  | .document (.content fault) => "Invalid profile XML: " ++ fault.message
  | .document (.markup fault) => "XML error: " ++ fault.message
  | .files fault => "I/O error: " ++ fault.message

end MacConsent.Store
