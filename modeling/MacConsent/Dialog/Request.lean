/-!
# MacConsent.Dialog.Request

What a dialog asks, and what can come of it.
-/

namespace MacConsent.Dialog

/-- How a dialog ends. -/
inductive Choice
  | accepted
  | rejected
  | cancelled
  | dismissed
deriving DecidableEq, Repr

/-- The name of a choice. -/
def Choice.name : Choice → String
  | .accepted => "Accepted"
  | .rejected => "Rejected"
  | .cancelled => "Cancelled"
  | .dismissed => "Dismissed"

/-- A question and the labels of its answers. The neutral answer is there only if it has a
label. -/
structure Request where
  title : String
  message : String
  acceptText : String
  declineText : String
  neutralText : Option String := none
deriving DecidableEq, Repr

end MacConsent.Dialog
