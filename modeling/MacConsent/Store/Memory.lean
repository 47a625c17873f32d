import MacConsent.Store.Fault
import MacConsent.Store.Roster

/-!
# MacConsent.Store.Memory

A store without a document. It counts the requests for changes and can be told
to misbehave: to take an update and keep the old profile, to lose the profile,
to refuse updates, or to refuse to enable networks.
-/

namespace MacConsent.Store

/-- What a store in memory does with updates. -/
inductive UpdateMode
  | apply
  | ignore
  | reject
  | remove
deriving DecidableEq, Repr

/-- Profiles in memory, and how the store answers. -/
structure Memory where
  roster : Roster := .empty
  mode : UpdateMode := .apply
  failEnable : Bool := false
  updates : Nat := 0
  enables : Nat := 0
deriving DecidableEq

namespace Memory

/-- Adds a profile, or replaces the one of the same id; this counts as no update. -/
def insert (s : Memory) (p : Profile) : Memory := { s with roster := s.roster.insert p }

/-- Asks for a profile in place of the one of the same id. -/
def update (s : Memory) (p : Profile) : Except Fault Unit × Memory :=
  let s := { s with updates := s.updates + 1 }
  match s.mode with
  | .apply => (.ok (), s.insert p)
  | .ignore => (.ok (), s)
  | .remove => (.ok (), { s with roster := s.roster.erase p.id })
  | .reject => (.error (.rejected p.id .readOnly), s)

/-- Asks to let the network of an id be joined unasked. -/
def enable (s : Memory) (id : NetworkId) : Except Fault Unit × Memory :=
  let s := { s with enables := s.enables + 1 }
  if s.failEnable then (.error (.rejected id .locked), s)
  else
    match s.roster.find? id with
    | none => (.error (.unknownProfile id), s)
    | some p => (.ok (), s.insert { p with enabled := true })

end Memory

end MacConsent.Store
