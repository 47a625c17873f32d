import MacConsent.Store.Durable
import MacConsent.Store.Memory

/-!
# MacConsent.Store.Backend

A store of either kind behind one set of operations. Files and the observer are
those of a bench; a store in memory leaves both alone.
-/

namespace MacConsent.Store

/-- A store in memory or in a document. -/
inductive Backend
  | memory (s : Memory)
  | durable (s : Durable)
deriving DecidableEq

namespace Backend

/-- The profiles of a store. -/
def roster : Backend → Roster
  | .memory s => s.roster
  | .durable s => s.roster

/-- The profile of an id. -/
def find? (s : Backend) (id : NetworkId) : Option Profile := s.roster.find? id

/-- What an operation on a document leads to: its success, and the store afterwards. -/
def after (s : Durable) : Except Fault Durable → Except Fault Unit × Backend
  | .ok s => (.ok (), .durable s)
  | .error fault => (.error fault, .durable s)

/-- Asks for a profile in place of the one of the same id. -/
def update (s : Backend) (p : Profile) (uid : Uid) :
    StateM Bench (Except Fault Unit × Backend) := do
  match s with
  | .memory s =>
    let (result, s) := s.update p
    return (result, .memory s)
  | .durable s => return after s (← s.update Backing.bench p uid)

/-- Asks to let the network of an id be joined unasked. -/
def enable (s : Backend) (id : NetworkId) (uid : Uid) :
    StateM Bench (Except Fault Unit × Backend) := do
  match s with
  | .memory s =>
    let (result, s) := s.enable id
    return (result, .memory s)
  | .durable s => return after s (← s.enable Backing.bench id uid)

/-- How often updates were asked for, where that is counted. -/
def updates? : Backend → Option Nat
  | .memory s => some s.updates
  | .durable _ => none

/-- How often networks were to be enabled, where that is counted. -/
def enables? : Backend → Option Nat
  | .memory s => some s.enables
  | .durable _ => none

end Backend

end MacConsent.Store
