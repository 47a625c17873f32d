import MacConsent.Document.Writer
import MacConsent.Store.Backing
import MacConsent.Store.Roster

/-!
# MacConsent.Store.Durable

A store that keeps its profiles in a document. A change is written to a file
beside the document, which is then renamed over the document; only when both
have succeeded is the change part of the store. So a failure leaves the store
and its document as they were.
-/

namespace MacConsent.Store

/-- The path of the document, and the profiles in it. -/
structure Durable where
  path : Files.Path
  roster : Roster
deriving DecidableEq

namespace Durable

variable {m : Type → Type} [Monad m] (b : Backing m)

/-- The document that a store uses unless told otherwise. -/
def defaultPath : Files.Path := ⟨"profiles.xml"⟩

/-- The file that a new document is written to first. -/
def draftPath (path : Files.Path) : Files.Path := path.withExtension "xml.tmp"

/-- The profiles of a document that was read; a missing document holds none. -/
def rosterOf : Except Files.Fault String → Except Fault Roster
  | .error .missing => .ok .empty
  | .error fault => .error (.files fault)
  | .ok text =>
    match Document.read text with
    | .error fault => .error (.document fault)
    | .ok profiles => .ok (.ofList profiles)

/-- The store of the document at a path. -/
def load (path : Files.Path) : m (Except Fault Durable) := do
  match rosterOf (← b.read path) with
  | .error fault => return .error fault
  | .ok roster =>
    b.trace (.profilesLoaded path roster.size)
    return .ok ⟨path, roster⟩

/-- The store with other profiles, once they are in the document. -/
def commit (s : Durable) (next : Roster) : m (Except Fault Durable) := do
  match ← b.write (draftPath s.path) (Document.write next.toList) with
  | .error fault => return .error (.files fault)
  | .ok () =>
    match ← b.rename (draftPath s.path) s.path with
    | .error fault => return .error (.files fault)
    | .ok () => return .ok { s with roster := next }

/-- Saves a profile under the next free id, whatever its own id. -/
def add (s : Durable) (p : Profile) : m (Except Fault (NetworkId × Durable)) := do
  match s.roster.freeId with
  | .error last => return .error (.rejected last .noFreeId)
  | .ok id =>
    match ← commit b s (s.roster.insert { p with id }) with
    | .error fault => return .error fault
    | .ok s => return .ok (id, s)

/-- Replaces the profile of the same id. A profile without a name is refused. -/
def update (s : Durable) (p : Profile) (uid : Uid) : m (Except Fault Durable) := do
  if p.ssid = "" then return .error (.rejected p.id .emptyName)
  else
    match s.roster.find? p.id with
    | none => return .error (.unknownProfile p.id)
    | some _ =>
      match ← commit b s (s.roster.insert p) with
      | .error fault => return .error fault
      | .ok s =>
        b.trace (.profileUpdated p.id uid)
        return .ok s

/-- Lets the network of an id be joined unasked. -/
def enable (s : Durable) (id : NetworkId) (uid : Uid) : m (Except Fault Durable) := do
  match s.roster.find? id with
  | none => return .error (.unknownProfile id)
  | some p =>
    match ← commit b s (s.roster.insert { p with enabled := true }) with
    | .error fault => return .error fault
    | .ok s =>
      b.trace (.profileEnabled id uid)
      return .ok s

end Durable

end MacConsent.Store
