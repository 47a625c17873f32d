/-!
# MacConsent.Screen.Color

The colours of a dialog, and styles made of them.
-/

namespace MacConsent.Screen

/-- A colour; `unset` is the one that a screen has by itself. -/
inductive Color
  | unset
  | background
  | foreground
  | red
  | green
  | yellow
  | cyan
  | dimmed
deriving DecidableEq, Repr

/-- The code of a colour: red, green and blue in two hexadecimal digits each. -/
def Color.code : Color → String
  | .unset => "Reset"
  | .background => "#181715"
  | .foreground => "#A8A39F"
  | .red => "#98290F"
  | .green => "#479A43"
  | .yellow => "#7F7111"
  | .cyan => "#387F58"
  | .dimmed => "#555445"

/-- The colours that a style gives; without one, what is there stays. -/
structure Style where
  fg : Option Color := none
  bg : Option Color := none
deriving DecidableEq, Repr

/-- A style of the foreground alone. -/
def Style.ink (c : Color) : Style := ⟨some c, none⟩

end MacConsent.Screen
