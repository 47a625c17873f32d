import MacConsent.Remedy.Plan
import MacConsent.Wording

/-!
# MacConsent.Remedy.Confirmation

The remedy for a network that refuses generated addresses. First a notification
offers it. When the user takes the offer up, the network has to be the one that
was offered, by its identity; then a dialog asks; and only an accepted dialog
leads to a change. Whether the change has been made is read off the store, not
off its answer.
-/

namespace MacConsent.Remedy

/-- The uid that changes are made under. -/
def systemUid : Uid := 1000

/-- On whose account the scan after a change is made. -/
def wifiSource : WorkSource := ⟨systemUid, "wifi"⟩

/-- How a confirmation has ended. -/
inductive Outcome
  | invalidated (fault : Fault)
  | declined (choice : Dialog.Choice)
  | applied
  | unverified
deriving DecidableEq

/-! ## The offer -/

/-- The notification of an offer for a profile. -/
def notice (messages : Messages) (p : Profile) (offer : Offer) : Notification where
  title := Template.fill messages.notificationTitle p.ssid
  body := Template.fill messages.notificationBody p.ssid
  tapAction := offer.tapEvent

/-- Offers the remedy for a network, if it is saved. -/
def offer (messages : Messages) (id : NetworkId) : Plan (Option Offer) := do
  match ← Plan.ask (.look id) with
  | none =>
    Plan.ask (.trace (.notSaved id))
    return none
  | some p =>
    let offer : Offer := ⟨id, p.identity⟩
    Plan.ask (.post noticeNumber (notice messages p offer))
    Plan.ask (.trace (.offered offer))
    return some offer

/-! ## The check -/

/-- The profile that was found, if it is the one that is meant. -/
def validate (id : NetworkId) (captured : Option String) : Option Profile → Except Fault Profile
  | none => .error (.notFound id)
  | some p =>
    if captured = some p.identity then .ok p else .error (.stale id captured p.identity)

/-- Looks up a network and tells the user if it is not the one that is meant. -/
def check (messages : Messages) (id : NetworkId) (captured : Option String) :
    Plan (Except Fault Profile) := do
  match validate id captured (← Plan.ask (.look id)) with
  | .ok p => return .ok p
  | .error fault =>
    Plan.ask (.trace (.notActedOn id fault))
    Plan.ask (.toast messages.networkNotFound)
    return .error fault

/-- What the dialog asks. -/
def question (messages : Messages) (p : Profile) : Dialog.Request where
  title := messages.dialogTitle
  message := Template.fill messages.dialogMessage p.ssid
  acceptText := messages.dialogConfirm
  declineText := messages.dialogCancel

/-! ## The change -/

/-- The profile that the store shows after a change, if it shows the change. -/
def verify (id : NetworkId) : Option Profile → Except Fault Profile
  | none => .error (.unverified id)
  | some p => if p.macPolicy = .disabled then .ok p else .error (.unverified id)

/-- Turns randomization off for a profile, and trusts what the store shows then. -/
def disable (p : Profile) : Plan (Except Fault Profile) := do
  match ← Plan.ask (.update p.withDeviceMac systemUid) with
  | .ok () => pure ()
  | .error fault => Plan.ask (.trace (.updateRefused p.id fault))
  return verify p.id (← Plan.ask (.look p.id))

/-- Makes the change to a profile that was checked, and reports it. -/
def apply (messages : Messages) (id : NetworkId) (p : Profile) : Plan Outcome := do
  match ← disable p with
  | .ok updated =>
    Plan.ask (.toast messages.success)
    match ← Plan.ask (.enable updated.id systemUid) with
    | .ok () => pure ()
    | .error fault => Plan.ask (.trace (.enableFailed id fault))
    Plan.ask (.scan wifiSource)
    Plan.ask (.trace (.randomizationDisabled id))
    return .applied
  | .error fault =>
    Plan.ask (.toast messages.failure)
    Plan.ask (.trace (.modifyFailed id fault))
    return .unverified

/-- Acts on the choice that the dialog for a checked profile has led to. -/
def conclude (messages : Messages) (id : NetworkId) (p : Profile) (choice : Dialog.Choice) :
    Plan Outcome := do
  if choice = .accepted then apply messages id p
  else
    Plan.ask (.trace (.declined id choice))
    return .declined choice

end MacConsent.Remedy
