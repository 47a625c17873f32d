import MacConsent.Proofs.Session.Protocol
import MacConsent.Proofs.Store.Atomic

/-!
# MacConsent.Proofs.Session.Mishaps

Requests whose files have mishaps.  A store in a document that is asked for a
change may find that a write or a rename fails, and the desk goes on with what
that has left (`Desk.carryOutAmid`).  Without mishaps the requests are carried
out as ever (`Desk.carryOutAmid_nil`), and with them the log still tells of
every call.
-/

namespace MacConsent.Session

open Remedy (Request)
open Store (Mishap)

namespace Desk

/-- Changes a store in a document amid mishaps. -/
def changed (d : Desk) (mishaps : List (Option Mishap)) (s : Store.Durable) (c : Store.Change) :
    Except Store.Fault Unit × Desk :=
  let (result, trial) := (c.run Store.Backing.trial s).run ⟨⟨d.tree, []⟩, mishaps⟩
  let (answer, store) := Store.Backend.after s result
  (answer, { d with
    store, tree := trial.tree, log := d.log ++ trial.bench.notes.map .traced })

/-- Carries out a request amid mishaps. -/
def carryOutAmid (mishaps : List (Option Mishap)) (r : Request) : StateM Desk r.Answer := fun d =>
  match r, d.store with
  | .update p uid, .durable s =>
    let (result, d) := d.changed mishaps s (.update p uid)
    (result, d.called (.update p uid result))
  | .enable id uid, .durable s =>
    let (result, d) := d.changed mishaps s (.enable id uid)
    (result, d.called (.enable id uid result))
  | r, _ => (carryOut r).run d

variable (d : Desk) (mishaps : List (Option Mishap)) (s : Store.Durable) (c : Store.Change)

/-- Without mishaps a store is changed as on a bench. -/
theorem changed_nil :
    d.changed [] s c =
      let ((answer, store), d) :=
        d.withFiles (do return Store.Backend.after s (← c.run Store.Backing.bench s))
      (answer, { d with store }) := by
  rw [changed, Store.agrees_change s c ⟨d.tree, []⟩]
  rfl

/-- **Without mishaps requests are carried out as ever.** -/
theorem carryOutAmid_nil (r : Request) : carryOutAmid [] r = carryOut r := by
  funext d
  obtain ⟨store, messages, tree, board, posts, answers, unanswered, log, resolved⟩ := d
  cases r with
  | update p uid =>
      cases store with
      | memory m => rfl
      | durable s =>
          simp only [carryOutAmid, changed_nil]
          rfl
  | enable id uid =>
      cases store with
      | memory m => rfl
      | durable s =>
          simp only [carryOutAmid, changed_nil]
          rfl
  | look id => rfl
  | post number notification => rfl
  | toast message => rfl
  | scan source => rfl
  | trace e => rfl

theorem carryOutAmid_update {d : Desk} {s : Store.Durable} (h : d.store = .durable s)
    (p : Profile) (uid : Uid) :
    (carryOutAmid mishaps (.update p uid)).run d =
      let (result, d) := d.changed mishaps s (.update p uid)
      (result, d.called (.update p uid result)) := by
  simp only [carryOutAmid, StateT.run, h]

theorem carryOutAmid_enable {d : Desk} {s : Store.Durable} (h : d.store = .durable s)
    (id : NetworkId) (uid : Uid) :
    (carryOutAmid mishaps (.enable id uid)).run d =
      let (result, d) := d.changed mishaps s (.enable id uid)
      (result, d.called (.enable id uid result)) := by
  simp only [carryOutAmid, StateT.run, h]

theorem changed_calls : (d.changed mishaps s c).2.calls = d.calls :=
  calls_of_notes d.log _

/-- **The log tells of every call**, whatever befalls the files. -/
theorem carryOutAmid_records : Records (carryOutAmid mishaps) calls := by
  intro r d
  cases hstore : d.store with
  | memory m =>
      have hsame : (carryOutAmid mishaps r).run d = (carryOut r).run d := by
        cases r <;> simp only [carryOutAmid, StateT.run, hstore]
      rw [hsame]
      exact d.carryOut_calls r
  | durable s =>
      cases r with
      | update p uid =>
          rw [carryOutAmid_update mishaps hstore, called_calls, changed_calls]
          rfl
      | enable id uid =>
          rw [carryOutAmid_enable mishaps hstore, called_calls, changed_calls]
          rfl
      | _ => exact d.carryOut_calls _

theorem carryOutAmid_unanswered (r : Request) :
    ((carryOutAmid mishaps r).run d).2.unanswered = d.unanswered := by
  cases hstore : d.store <;> cases r <;> simp only [carryOutAmid, StateT.run, hstore] <;> rfl

end Desk

end MacConsent.Session
