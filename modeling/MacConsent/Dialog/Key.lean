import MacConsent.Dialog.Form

/-!
# MacConsent.Dialog.Key

What keys do in a dialog. Some decide at once, some move the selection, one pair
presses the selected button. A key that decides leaves the selection alone.
-/

namespace MacConsent.Dialog

/-- A key of a keyboard; `other` stands for those that no dialog knows. -/
inductive Key
  | char (c : Char)
  | enter
  | escape
  | tab
  | backTab
  | left
  | right
  | other
deriving DecidableEq, Repr

/-- A key and whether the control key is down with it. -/
structure KeyPress where
  key : Key
  control : Bool := false
deriving DecidableEq, Repr

/-- The key press that a terminal reports for a character that is typed. Control characters
stand for their keys, or for a letter with the control key. -/
def KeyPress.ofTyped (c : Char) : KeyPress :=
  if c = '\r' then ⟨.enter, false⟩
  else if c = '\t' then ⟨.tab, false⟩
  else if c = '\x1b' then ⟨.escape, false⟩
  else if c = '\x7f' then ⟨.other, false⟩
  else if c = '\x00' then ⟨.char ' ', true⟩
  else if c.toNat ≤ 26 then ⟨.char (Char.ofNat (c.toNat + 96)), true⟩
  else if c.toNat < 32 then ⟨.char (Char.ofNat (c.toNat + 24)), true⟩
  else ⟨.char c, false⟩

/-- What a key means to a dialog. -/
inductive Command
  | decide (choice : Choice)
  | press
  | next
  | previous
  | nothing
deriving DecidableEq, Repr

namespace KeyPress

/-- The meaning of a key. -/
def command (k : KeyPress) : Command :=
  match k.key with
  | .char c =>
    if k.control = true ∧ (c = 'c' ∨ c = '[') then .decide .cancelled
    else if c = 'q' then .decide .cancelled
    else if c = 'l' then .next
    else if c = 'h' then .previous
    else if c = 'y' then .decide .accepted
    else if c = 'n' then .decide .rejected
    else if c = ' ' then .press
    else .nothing
  | .escape => .decide .cancelled
  | .tab | .right => .next
  | .backTab | .left => .previous
  | .enter => .press
  | .other => .nothing

end KeyPress

namespace Form

/-- The form after a key, and the choice if the key has made one. -/
def press (f : Form) (k : KeyPress) : Form × Option Choice :=
  match k.command with
  | .decide choice => (f, some choice)
  | .press => (f, some f.selected.choice)
  | .next => (f.next, none)
  | .previous => (f.previous, none)
  | .nothing => (f, none)

/-- The form after keys, up to the first that makes a choice, and that choice. -/
def pressAll (f : Form) : List KeyPress → Form × Option Choice
  | [] => (f, none)
  | k :: ks =>
    match f.press k with
    | (f, some choice) => (f, some choice)
    | (f, none) => f.pressAll ks

/-- The first choice that keys make. -/
def answer? (f : Form) (ks : List KeyPress) : Option Choice := (f.pressAll ks).2

/-- The choice of a user who types some keys and then gives up; without a keyboard the dialog
is dismissed. -/
def resolve (f : Form) : Option (List KeyPress) → Choice
  | none => .dismissed
  | some ks => (f.answer? ks).getD .cancelled

end Form

end MacConsent.Dialog
