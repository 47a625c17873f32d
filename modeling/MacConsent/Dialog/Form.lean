import MacConsent.Dialog.Icons
import MacConsent.Dialog.Request

/-!
# MacConsent.Dialog.Form

A dialog on the screen: its request and the button that is selected. Moving the
selection goes around: after the last button comes the first. A selected button
that is not shown counts as the first one when the selection moves.
-/

namespace MacConsent.Dialog

/-- A button of a dialog. -/
inductive Button
  | accept
  | neutral
  | decline
deriving DecidableEq, Repr

namespace Button

/-- What pressing a button decides; the neutral button decides nothing. -/
def choice : Button → Choice
  | .accept => .accepted
  | .neutral => .dismissed
  | .decline => .rejected

/-- The name of a button. -/
def name : Button → String
  | .accept => "Accept"
  | .neutral => "Neutral"
  | .decline => "Decline"

end Button

/-- A dialog on the screen. -/
structure Form where
  request : Request
  icons : IconSet
  selected : Button := .accept
deriving DecidableEq, Repr

namespace Form

/-- The buttons from left to right. -/
def buttons (f : Form) : List Button :=
  .accept :: (if f.request.neutralText.isSome then [.neutral] else []) ++ [.decline]

/-- The label of a button. -/
def label (f : Form) : Button → String
  | .accept => f.request.acceptText
  | .neutral => f.request.neutralText.getD ""
  | .decline => f.request.declineText

/-- The position of the selected button among those shown, or the first. -/
def position (f : Form) : Nat := (f.buttons.idxOf? f.selected).getD 0

/-- Selects the button `steps` places to the right, going around. -/
def move (f : Form) (steps : Nat) : Form :=
  { f with selected := f.buttons.getD ((f.position + steps) % f.buttons.length) .accept }

/-- Selects the next button. -/
def next (f : Form) : Form := f.move 1

/-- Selects the button before. -/
def previous (f : Form) : Form := f.move (f.buttons.length - 1)

end Form

end MacConsent.Dialog
