import MacConsent.Proofs.Session.Frame
import MacConsent.Proofs.Store.Commit
import MacConsent.Proofs.Store.Roster

/-!
# MacConsent.Proofs.Session.Change

What an accepted confirmation does to the store.  It asks for an update, looks
at the store, and enables the network if the store shows the change; whatever
else it asks for leaves the store alone (`apply_of_verified`,
`apply_of_unverified`).  In a store whose document can be written, the update
is refused for want of a name only.
-/

namespace MacConsent.Session.Desk

open Remedy (systemUid)

variable {d : Desk} {p : Profile} (messages : Messages) (id : NetworkId)

/-! ## any store -/

/-- The change is judged by the profile that the store holds after the update. -/
theorem disable_run (d : Desk) (p : Profile) :
    ∃ d', ((Remedy.disable p).run carryOut).run d =
        (Remedy.verify p.id
          (((carryOut (.update p.withDeviceMac systemUid)).run d).2.store.find? p.id), d') ∧
      Untouched ((carryOut (.update p.withDeviceMac systemUid)).run d).2 d' := by
  obtain ⟨rest, hrest, haside⟩ := Remedy.disable_eq p
  refine ⟨_, Prod.ext ?_ rfl, ?_⟩
  · change (((Remedy.Plan.call (.update p.withDeviceMac systemUid) _).run carryOut).run d).1 = _
    rw [Remedy.Plan.run_call]
    obtain ⟨_ | fault, d₁⟩ := (carryOut (.update p.withDeviceMac systemUid)).run d <;> rfl
  · rw [hrest, Remedy.Plan.run_call]
    exact untouched_of_aside (haside _) _

/-- A change that the store does not show is given up. -/
theorem apply_of_unverified {fault : Remedy.Fault}
    (h : Remedy.verify p.id
      (((carryOut (.update p.withDeviceMac systemUid)).run d).2.store.find? p.id) = .error fault) :
    Untouched ((carryOut (.update p.withDeviceMac systemUid)).run d).2
      (((Remedy.apply messages id p).run carryOut).run d).2 := by
  obtain ⟨d', hrun, hsame⟩ := disable_run d p
  obtain ⟨report, happly, hfailed, -⟩ := Remedy.apply_eq messages id p
  rw [happly, Remedy.Plan.run_bind, hrun, h]
  exact hsame.trans (untouched_of_aside (hfailed fault) d')

/-- A change that the store shows is followed by the enabling, and by nothing that touches the
store. -/
theorem apply_of_verified {updated : Profile}
    (h : Remedy.verify p.id
      (((carryOut (.update p.withDeviceMac systemUid)).run d).2.store.find? p.id) = .ok updated) :
    ∃ d', Untouched ((carryOut (.update p.withDeviceMac systemUid)).run d).2 d' ∧
      Untouched ((carryOut (.enable updated.id systemUid)).run d').2
        (((Remedy.apply messages id p).run carryOut).run d).2 := by
  obtain ⟨d₁, hrun, hsame⟩ := disable_run d p
  obtain ⟨report, happly, -, hdone⟩ := Remedy.apply_eq messages id p
  obtain ⟨rest, hreport, haside⟩ := hdone updated
  have htoast : (Remedy.Plan.ask (.toast messages.success)).All Remedy.Request.IsAside :=
    .ask trivial
  refine ⟨_, hsame.trans (untouched_of_aside htoast d₁), ?_⟩
  rw [happly, Remedy.Plan.run_bind, hrun, h]
  dsimp only
  rw [hreport, Remedy.Plan.run_call, Remedy.Plan.run_call]
  exact untouched_of_aside (haside _) _

/-! ## a store in a document -/

variable {store : Store.Durable} {q : Profile} {uid : Uid}

theorem onStore_durable
    (op : Store.Backend → StateM Store.Bench (Except Store.Fault Unit × Store.Backend))
    {use : StateM Store.Bench (Except Store.Fault Store.Durable)}
    {outcome : Except Store.Fault Store.Durable} {b : Store.Bench}
    (hop : op d.store = do return Store.Backend.after store (← use))
    (hrun : use.run ⟨d.tree, []⟩ = (outcome, b)) :
    (d.onStore op).2.store = (Store.Backend.after store outcome).2 ∧
      (d.onStore op).2.tree = b.tree := by
  have hfiles : (op d.store).run ⟨d.tree, []⟩ = (Store.Backend.after store outcome, b) := by
    rw [hop, StateT.run_bind, hrun]
    rfl
  change ((op d.store).run ⟨d.tree, []⟩).1.2 = _ ∧ ((op d.store).run ⟨d.tree, []⟩).2.tree = _
  rw [hfiles]
  exact ⟨rfl, rfl⟩

theorem carryOut_update_durable {outcome : Except Store.Fault Store.Durable} {b : Store.Bench}
    (hstore : d.store = .durable store)
    (hrun : (store.update Store.Backing.bench p uid).run ⟨d.tree, []⟩ = (outcome, b)) :
    ((carryOut (.update p uid)).run d).2.store = (Store.Backend.after store outcome).2 ∧
      ((carryOut (.update p uid)).run d).2.tree = b.tree :=
  onStore_durable (fun s => s.update p uid) (congrArg (·.update p uid) hstore) hrun

theorem carryOut_enable_durable {outcome : Except Store.Fault Store.Durable} {b : Store.Bench}
    (hstore : d.store = .durable store)
    (hrun : (store.enable Store.Backing.bench id uid).run ⟨d.tree, []⟩ = (outcome, b)) :
    ((carryOut (.enable id uid)).run d).2.store = (Store.Backend.after store outcome).2 ∧
      ((carryOut (.enable id uid)).run d).2.tree = b.tree :=
  onStore_durable (fun s => s.enable id uid) (congrArg (·.enable id uid) hstore) hrun

/-- A network that the store shows with its own address is enabled. -/
theorem apply_of_shown (hafter : ((carryOut (.update p.withDeviceMac systemUid)).run d).2.store =
      .durable store)
    (hfiles : Store.Durable.Writable
      ((carryOut (.update p.withDeviceMac systemUid)).run d).2.tree store.path)
    (hfound : store.roster.find? p.id = some q) (hshown : q.macPolicy = .disabled) :
    (((Remedy.apply messages id p).run carryOut).run d).2.store.find? p.id =
      some { q with enabled := true } := by
  have hid : q.id = p.id := Store.Roster.id_of_find? hfound
  have hverify : Remedy.verify p.id
      (((carryOut (.update p.withDeviceMac systemUid)).run d).2.store.find? p.id) = .ok q := by
    have hfind : Store.Backend.find? (.durable store) p.id = some q := hfound
    rw [hafter, hfind, Remedy.verify, if_pos hshown]
  obtain ⟨d', hsame, hrest⟩ := apply_of_verified messages id hverify
  obtain ⟨b, hrun, -⟩ := Store.Durable.change_ok (b := ⟨d'.tree, []⟩) (hsame.tree ▸ hfiles)
    ((Store.Change.profile?_enable_eq_ok systemUid).2 ⟨q, hid ▸ hfound, rfl⟩)
  have henable := carryOut_enable_durable q.id (hsame.store.trans hafter) hrun
  rw [Store.Backend.find?, hrest.store, henable.1, ← hid]
  exact store.roster.find?_insert_self { q with enabled := true }

/-- **A profile that was checked replaces the one that is stored**, whatever that has become. -/
theorem apply_named (hstore : d.store = .durable store)
    (hfiles : Store.Durable.Writable d.tree store.path) (hname : p.ssid ≠ "")
    (hfound : store.roster.find? p.id = some q) :
    (((Remedy.apply messages id p).run carryOut).run d).2.store.find? p.id =
      some { p with macPolicy := .disabled, enabled := true } := by
  have hallowed : (Store.Change.update p.withDeviceMac systemUid).profile? store.roster =
      .ok p.withDeviceMac :=
    (Store.Change.profile?_update_eq_ok systemUid).2 ⟨hname, ⟨q, hfound⟩, rfl⟩
  obtain ⟨b, hrun, hwritable, -⟩ :=
    Store.Durable.change_ok (b := ⟨d.tree, []⟩) hfiles hallowed
  obtain ⟨hafter, htree⟩ := carryOut_update_durable hstore hrun
  exact apply_of_shown messages id hafter (htree ▸ hwritable)
    (store.roster.find?_insert_self p.withDeviceMac) rfl

/-- **A profile without a name replaces nothing**; the stored one is enabled if it has its own
address in use by itself. -/
theorem apply_nameless (hstore : d.store = .durable store)
    (hfiles : Store.Durable.Writable d.tree store.path) (hname : p.ssid = "")
    (hfound : store.roster.find? p.id = some q) :
    (((Remedy.apply messages id p).run carryOut).run d).2.store.find? p.id =
      some (if q.macPolicy = .disabled then { q with enabled := true } else q) := by
  have hrun : (store.update Store.Backing.bench p.withDeviceMac systemUid).run ⟨d.tree, []⟩ =
      (.error (.rejected p.id .emptyName), ⟨d.tree, []⟩) := by
    have hempty : p.withDeviceMac.ssid = "" := hname
    rw [Store.Durable.update, if_pos hempty]
    rfl
  obtain ⟨hafter, htree⟩ := carryOut_update_durable hstore hrun
  by_cases hshown : q.macPolicy = .disabled
  · rw [if_pos hshown]
    exact apply_of_shown messages id hafter (htree ▸ hfiles) hfound hshown
  · have hfind : ((carryOut (.update p.withDeviceMac systemUid)).run d).2.store.find? p.id =
        some q := by
      rw [hafter]
      exact hfound
    have hverify : Remedy.verify p.id
        (((carryOut (.update p.withDeviceMac systemUid)).run d).2.store.find? p.id) =
          .error (.unverified p.id) := by
      rw [hfind, Remedy.verify, if_neg hshown]
    rw [if_neg hshown, Store.Backend.find?, (apply_of_unverified messages id hverify).store]
    exact hfind

end MacConsent.Session.Desk
