import MacConsent.Proofs.Session.Change

/-!
# MacConsent.Proofs.Session.Granted

Requests for changes at a desk whose document can be written.  A change that the
profiles allow is made, and the desk is known to the last line of its log
(`onStore_granted`): the document, the store, the line of the observer and the
call.
-/

namespace MacConsent.Session.Desk

open Store (Change)
open Store.Durable (Writable)

variable {d : Desk} {path : Files.Path} {r : Store.Roster} {p q : Profile} {id : NetworkId}

/-- A desk whose store is in a document that can be written. -/
structure Holds (d : Desk) (path : Files.Path) (r : Store.Roster) : Prop where
  store : d.store = .durable ⟨path, r⟩
  files : Writable d.tree path

/-- A change that the profiles allow is made. -/
theorem onStore_granted (h : d.Holds path r) {c : Change} (hp : c.profile? r = .ok p)
    (op : Store.Backend → StateM Store.Bench (Except Store.Fault Unit × Store.Backend))
    (hop : op (.durable ⟨path, r⟩) = do
      return Store.Backend.after ⟨path, r⟩ (← c.run Store.Backing.bench ⟨path, r⟩)) :
    ∃ tree, d.onStore op = (.ok (), { d with
        store := .durable ⟨path, r.insert p⟩, tree, log := d.log ++ c.notes.map .traced }) ∧
      Writable tree path ∧ tree.read path = .ok (Document.write (r.insert p).toList) := by
  obtain ⟨tree, hrun, hsaved⟩ :=
    Store.Durable.change_granted (s := ⟨path, r⟩) (b := ⟨d.tree, []⟩) h.files hp
  refine ⟨tree, ?_, hsaved⟩
  have hfiles : (op d.store).run ⟨d.tree, []⟩ =
      ((.ok (), .durable ⟨path, r.insert p⟩), ⟨tree, c.notes⟩) := by
    rw [h.store, hop, StateT.run_bind, hrun]
    rfl
  rw [onStore, withFiles, hfiles]

/-- A change that the profiles do not allow leaves all as it is. -/
theorem onStore_refused (h : d.store = .durable ⟨path, r⟩) {c : Change} {fault : Store.Fault}
    (hp : c.profile? r = .error fault)
    (op : Store.Backend → StateM Store.Bench (Except Store.Fault Unit × Store.Backend))
    (hop : op (.durable ⟨path, r⟩) = do
      return Store.Backend.after ⟨path, r⟩ (← c.run Store.Backing.bench ⟨path, r⟩)) :
    d.onStore op = (.error fault, d) := by
  have hrun : (c.run Store.Backing.bench ⟨path, r⟩).run ⟨d.tree, []⟩ =
      (.error fault, ⟨d.tree, []⟩) := Change.run_refused (s := ⟨path, r⟩) hp _
  have hfiles : (op d.store).run ⟨d.tree, []⟩ =
      ((.error fault, .durable ⟨path, r⟩), ⟨d.tree, []⟩) := by
    rw [h, hop, StateT.run_bind, hrun]
    rfl
  rw [onStore, withFiles, hfiles, ← h]
  simp

theorem update_of_onStore {uid : Uid} {result : Except Store.Fault Unit} {d' : Desk}
    (h : d.onStore (fun s => s.update p uid) = (result, d')) :
    (carryOut (.update p uid)).run d = (result, d'.called (.update p uid result)) := by
  let done := d.onStore fun s => s.update p uid
  change (done.1, done.2.called (.update p uid done.1)) = _
  simp only [done, h]

theorem enable_of_onStore {uid : Uid} {result : Except Store.Fault Unit} {d' : Desk}
    (h : d.onStore (fun s => s.enable id uid) = (result, d')) :
    (carryOut (.enable id uid)).run d = (result, d'.called (.enable id uid result)) := by
  let done := d.onStore fun s => s.enable id uid
  change (done.1, done.2.called (.enable id uid done.1)) = _
  simp only [done, h]

/-- A profile with a name replaces the one of its id. -/
theorem update_granted (h : d.Holds path r) (hname : p.ssid ≠ "") (hfound : r.find? p.id = some q)
    (uid : Uid) :
    ∃ tree, (carryOut (.update p uid)).run d = (.ok (), { d with
        store := .durable ⟨path, r.insert p⟩, tree
        log := d.log ++ [.traced (.profileUpdated p.id uid), .called (.update p uid (.ok ()))] }) ∧
      Writable tree path ∧ tree.read path = .ok (Document.write (r.insert p).toList) := by
  have hp : (Change.update p uid).profile? r = .ok p :=
    (Change.profile?_update_eq_ok uid).2 ⟨hname, ⟨q, hfound⟩, rfl⟩
  obtain ⟨tree, hstore, hsaved⟩ := onStore_granted h hp (fun s => s.update p uid) rfl
  refine ⟨tree, ?_, hsaved⟩
  rw [update_of_onStore hstore]
  simp only [called, Change.notes, List.map_cons, List.map_nil, List.append_assoc,
    List.singleton_append]

/-- A network that is saved is enabled. -/
theorem enable_granted (h : d.Holds path r) (hfound : r.find? id = some p) (uid : Uid) :
    ∃ tree, (carryOut (.enable id uid)).run d = (.ok (), { d with
        store := .durable ⟨path, r.insert { p with enabled := true }⟩, tree
        log := d.log ++ [.traced (.profileEnabled id uid), .called (.enable id uid (.ok ()))] }) ∧
      Writable tree path ∧
      tree.read path = .ok (Document.write (r.insert { p with enabled := true }).toList) := by
  have hp : (Change.enable id uid).profile? r = .ok { p with enabled := true } :=
    (Change.profile?_enable_eq_ok uid).2 ⟨p, hfound, rfl⟩
  obtain ⟨tree, hstore, hsaved⟩ := onStore_granted h hp (fun s => s.enable id uid) rfl
  refine ⟨tree, ?_, hsaved⟩
  rw [enable_of_onStore hstore]
  simp only [called, Change.notes, List.map_cons, List.map_nil, List.append_assoc,
    List.singleton_append]

/-- A network that is not saved is not enabled. -/
theorem enable_refused (h : d.Holds path r) (hfound : r.find? id = none) (uid : Uid) :
    (carryOut (.enable id uid)).run d = (.error (.unknownProfile id),
      d.called (.enable id uid (.error (.unknownProfile id)))) := by
  have hp : (Change.enable id uid).profile? r = .error (.unknownProfile id) := by
    rw [Change.profile?, hfound]
  exact enable_of_onStore (onStore_refused h.store hp (fun s => s.enable id uid) rfl)

end MacConsent.Session.Desk
