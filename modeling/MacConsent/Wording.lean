/-!
# MacConsent.Wording

The texts that a user sees. Some are templates: wherever a template holds the
placeholder, the name of the network stands instead. Filling goes through a
template once, so a name that holds the placeholder itself is not filled again.
-/

namespace MacConsent

/-! ## Templates -/

namespace Template

/-- The characters that stand for the network's name. -/
def placeholder : List Char := ['\x7b', 's', 's', 'i', 'd', '\x7d']

/-- Goes through a template with the filled part so far, last character first. -/
def fillFrom (name : List Char) (filled : List Char) : List Char → List Char
  | '\x7b' :: 's' :: 's' :: 'i' :: 'd' :: '\x7d' :: rest =>
    fillFrom name (name.reverseAux filled) rest
  | c :: rest => fillFrom name (c :: filled) rest
  | [] => filled.reverse

/-- A template with the name in place of each placeholder. -/
def fill (template name : String) : String :=
  String.ofList (fillFrom name.toList [] template.toList)

end Template

/-! ## Messages -/

/-- The texts of notifications, of the dialog and of the short messages after it. -/
structure Messages where
  notificationTitle : String := "Can't connect to \x7bssid\x7d"
  notificationBody : String :=
    "This network doesn't support randomized MAC addresses. Tap to change the privacy setting."
  dialogTitle : String := "Use device MAC for this network?"
  dialogMessage : String :=
    "\x7bssid\x7d rejects randomized MAC addresses. This device will send its hardware MAC address when connecting to \x7bssid\x7d."
  dialogConfirm : String := "Use device MAC"
  dialogCancel : String := "Cancel"
  networkNotFound : String := "Network not found or changed"
  success : String := "Setting updated. Try connecting again."
  failure : String := "Can't change the privacy setting"
deriving DecidableEq, Repr

end MacConsent
