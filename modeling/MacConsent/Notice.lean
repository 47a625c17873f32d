import MacConsent.Network.Profile

/-!
# MacConsent.Notice

Notifications and what a tap on one brings back. A notification carries its tap
event with it, and a tap event names the network by its id and by the identity
that it had when the notification was posted. A board shows at most one
notification for each number: a later post takes the place of an earlier one.
-/

namespace MacConsent

/-- Something that happened outside, for example a tap on a notification. -/
structure TapEvent where
  action : String
  networkId : Option NetworkId
  identity : Option String
deriving DecidableEq

/-- What a notification offers to remedy: a network, as it was at that time. -/
structure Offer where
  networkId : NetworkId
  identity : String
deriving DecidableEq

/-- A notification on display. -/
structure Notification where
  title : String
  body : String
  tapAction : TapEvent
deriving DecidableEq

/-- The action of a tap on a notification of this program. -/
def showDetailsAction : String := "wifi_remedy.action.SHOW_SET_RANDOMIZATION_DETAILS"

/-- The number that all notifications of this program are posted under. -/
def noticeNumber : UInt32 := 56

/-- The event that a tap on the offer's notification raises. -/
def Offer.tapEvent (offer : Offer) : TapEvent :=
  ⟨showDetailsAction, some offer.networkId, some offer.identity⟩

/-- The network that an event asks about; events of other actions ask about none.
An event without an id asks about the invalid one. -/
def TapEvent.target? (event : TapEvent) : Option (NetworkId × Option String) :=
  if event.action = showDetailsAction then
    some (event.networkId.getD .invalid, event.identity)
  else none

/-- The event of an offer asks about the offer's network. -/
theorem target?_tapEvent (offer : Offer) :
    offer.tapEvent.target? = some (offer.networkId, some offer.identity) := by
  simp [Offer.tapEvent, TapEvent.target?]

/-! ## The board -/

/-- The notifications on display, each under its number. -/
structure NoticeBoard where
  live : List (UInt32 × Notification) := []
deriving DecidableEq

namespace NoticeBoard

/-- The notification under a number. -/
def find? (b : NoticeBoard) (number : UInt32) : Option Notification := b.live.lookup number

/-- Takes down the notification under a number, if there is one. -/
def remove (b : NoticeBoard) (number : UInt32) : NoticeBoard :=
  ⟨b.live.filter fun entry => entry.1 != number⟩

/-- Puts up a notification in place of the one under the same number. -/
def post (b : NoticeBoard) (number : UInt32) (n : Notification) : NoticeBoard :=
  ⟨(b.remove number).live ++ [(number, n)]⟩

/-- What was posted last under a number is on display. -/
theorem find?_post (b : NoticeBoard) (number : UInt32) (n : Notification) :
    (b.post number n).find? number = some n := by
  have hnone : (b.remove number).live.lookup number = none := by
    refine List.lookup_eq_none_iff.2 fun entry hentry => ?_
    have hne : entry.1 ≠ number := bne_iff_ne.1 (List.mem_filter.1 hentry).2
    exact bne_iff_ne.2 hne.symm
  rw [find?, post, List.lookup_append, hnone]
  simp

end NoticeBoard

end MacConsent
