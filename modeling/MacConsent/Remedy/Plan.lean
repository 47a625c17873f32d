import MacConsent.Diagnostic

/-!
# MacConsent.Remedy.Plan

What a remedy asks of the world around it: the store, the notices, the short
messages, the scanner and the observer. A plan is a program over such requests;
what carries them out is left open, so a plan can be followed for any answers.
-/

namespace MacConsent.Remedy

/-- A request to the world around. -/
inductive Request
  /-- The profile that the store holds now. -/
  | look (id : NetworkId)
  | update (p : Profile) (uid : Uid)
  | enable (id : NetworkId) (uid : Uid)
  | post (number : UInt32) (notification : Notification)
  /-- A short message to the user. -/
  | toast (message : String)
  | scan (source : WorkSource)
  | trace (d : Diagnostic)
deriving DecidableEq

/-- The kind of answer to a request. -/
abbrev Request.Answer : Request → Type
  | .look _ => Option Profile
  | .update .. => Except Store.Fault Unit
  | .enable .. => Except Store.Fault Unit
  | .post .. => Unit
  | .toast _ => Unit
  | .scan _ => Unit
  | .trace _ => Unit

/-- A program over requests. -/
inductive Plan (α : Type) : Type
  | done (a : α)
  | call (r : Request) (next : r.Answer → Plan α)

namespace Plan

/-- One plan after another. -/
def bind {α β : Type} : Plan α → (α → Plan β) → Plan β
  | .done a, f => f a
  | .call r next, f => .call r fun answer => (next answer).bind f

instance : Monad Plan where
  pure := .done
  bind := Plan.bind

/-- Makes a request. -/
def ask (r : Request) : Plan r.Answer := .call r .done

/-- Follows a plan, with each request carried out by `carryOut`. -/
def run {m : Type → Type} [Monad m] (carryOut : (r : Request) → m r.Answer) {α : Type} :
    Plan α → m α
  | .done a => pure a
  | .call r next => do (next (← carryOut r)).run carryOut

end Plan

end MacConsent.Remedy
