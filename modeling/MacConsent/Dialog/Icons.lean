/-!
# MacConsent.Dialog.Icons

The signs beside the keys and around the selected button, for fonts with icons
and for fonts without.
-/

namespace MacConsent.Dialog

/-- Which signs a font can show. -/
inductive IconSet
  | nerd
  | ascii
deriving DecidableEq, Repr

namespace IconSet

/-- The key that selects. -/
def enter : IconSet → String
  | .nerd => "󰌑"
  | .ascii => "Enter"

/-- The keys that go to the next button. -/
def tabNext : IconSet → String
  | .nerd => "⇥ / →"
  | .ascii => "Tab/Right"

/-- The left end of the selected button. -/
def buttonLeft : IconSet → String
  | .nerd => ""
  | .ascii => "["

/-- The right end of the selected button. -/
def buttonRight : IconSet → String
  | .nerd => ""
  | .ascii => "]"

end IconSet

end MacConsent.Dialog
