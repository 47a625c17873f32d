import MacConsent.Diagnostic

/-!
# MacConsent.Router

Where taps go. Registering a handler opens a channel and starts its listener. A
channel has two holders: the router itself and whoever took a sender. Its
listener runs as long as one of them holds it, so an event that is sent always
finds a listener; only the router's own hold keeps a second handler out.
-/

namespace MacConsent

/-- The channels of a router, by number. -/
structure Router where
  /-- The channel that the router holds. -/
  own : Option Nat := none
  /-- The channel of the sender that was taken last. -/
  sender : Option Nat := none
  /-- How many channels were opened. -/
  opened : Nat := 0
deriving DecidableEq, Repr

/-- What becomes of an event that is sent. -/
inductive Delivery
  | sent
  | closed
  | noSender
deriving DecidableEq, Repr

namespace Router

/-- Opens a channel for a handler. -/
def register (r : Router) : Except Remedy.Fault Router :=
  if r.own.isSome then .error .alreadyRegistered
  else .ok { r with own := some r.opened, opened := r.opened + 1 }

/-- Takes a sender, in place of the one before; without a handler there is none. -/
def takeSender (r : Router) : Router := { r with sender := r.own }

/-- Lets go of the sender. -/
def dropSender (r : Router) : Router := { r with sender := none }

/-- Lets go of the router's own hold. -/
def close (r : Router) : Router := { r with own := none }

/-- Whether the listener of a channel runs. -/
def isHeld (r : Router) (channel : Nat) : Bool := r.own == some channel || r.sender == some channel

/-- Whether the listener that was started last runs. -/
def listening (r : Router) : Bool :=
  match r.opened with
  | 0 => false
  | n + 1 => r.isHeld n

/-- What becomes of an event that is sent now. -/
def delivery (r : Router) : Delivery :=
  match r.sender with
  | none => .noSender
  | some channel => if r.isHeld channel then .sent else .closed

/-- The events among those sent that a listener takes. -/
def heard (r : Router) (events : List TapEvent) : List TapEvent :=
  if r.delivery = .sent then events else []

/-- What a listener makes of an event: what it tells, and the confirmation it asks for. -/
def hear (event : TapEvent) : Diagnostic × Option (NetworkId × Option String) :=
  match event.target? with
  | none => (.eventIgnored event.action, none)
  | some (id, identity) => (.detailsRequested id, some (id, identity))

/-! ## Steps -/

/-- Something that is asked of a router. -/
inductive Step
  | register
  | takeSender
  | dropSender
  | close
  | send (events : List TapEvent)

/-- What a step gives back. -/
inductive Answer
  | done
  | refused (fault : Remedy.Fault)
  /-- Whether there was a sender to take. -/
  | taken (sender : Bool)
  | deliveries (ds : List Delivery)

/-- A step: what it gives back, the router after it and the events that a listener takes. -/
def step (r : Router) : Step → Answer × Router × List TapEvent
  | .register =>
    match r.register with
    | .ok r => (.done, r, [])
    | .error fault => (.refused fault, r, [])
  | .takeSender => (.taken r.own.isSome, r.takeSender, [])
  | .dropSender => (.done, r.dropSender, [])
  | .close => (.done, r.close, [])
  | .send events => (.deliveries (events.map fun _ => r.delivery), r, r.heard events)

end Router

end MacConsent
