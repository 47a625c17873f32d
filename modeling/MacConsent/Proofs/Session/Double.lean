import MacConsent.Proofs.Session.Granted

/-!
# MacConsent.Proofs.Session.Double

A store in memory in place of a document.  The two stores differ in what they
refuse: the one takes a profile without a name, and a profile under a new id.
But a confirmation updates only what it has found, so neither happens as long
as all profiles have names, and the double answers as the document does
(`Doubles.carryOut`).  From requests this goes on to plans, to confirmations
and to the worker that takes them in turn (`Doubles.consume`).
-/

namespace MacConsent

/-- Whether an occurrence is one that only stores in documents tell of. -/
def Diagnostic.ofDocument : Diagnostic → Bool
  | .profilesLoaded .. => true
  | .profileUpdated .. => true
  | .profileEnabled .. => true
  | _ => false

namespace Session

open Desk (Asked Pending)
open Remedy (Request Plan)

/-- Whether a line of the log has nothing to do with the kind of the store. -/
def Entry.isShared : Entry → Bool
  | .traced e => !e.ofDocument
  | .called _ => true

namespace Desk

/-! ## desks -/

/-- The desk with a store in memory in place of its document. -/
def inMemory (d : Desk) (store : Store.Memory) (tree : Files.Tree) : Desk :=
  { d with store := .memory store, tree, log := d.log.filter Entry.isShared }

/-- A store in memory that does what it is asked, in place of a document that can be written; both
have the same profiles, which have names, under the ids that are known. -/
structure Doubles (path : Files.Path) (known : NetworkId → Bool) (store : Store.Memory) (d : Desk) :
    Prop where
  mode : store.mode = .apply
  enabling : store.failEnable = false
  holds : d.Holds path store.roster
  named : ∀ p ∈ store.roster.toList, p.ssid ≠ ""
  known : ∀ id, (store.roster.find? id).isSome = known id

variable {path : Files.Path} {known : NetworkId → Bool} {store : Store.Memory} {d d' : Desk}
variable {tree : Files.Tree}

/-- What the observer is told does not depend on where the profiles are. -/
theorem inMemory_traced {e : Diagnostic} (he : e.ofDocument = false) :
    (d.inMemory store tree).traced e = (d.traced e).inMemory store tree := by
  simp [inMemory, traced, Entry.isShared, he]

/-- A call is noted wherever the profiles are. -/
theorem inMemory_called (c : Call) :
    (d.inMemory store tree).called c = (d.called c).inMemory store tree := by
  rw [called, called, inMemory, inMemory, List.filter_append]
  rfl

/-- What a document tells of is left out. -/
theorem filter_told {e : Diagnostic} (he : e.ofDocument = true) (log more : List Entry) :
    (log ++ .traced e :: more).filter Entry.isShared = (log ++ more).filter Entry.isShared := by
  have htold : Entry.isShared (.traced e) = false := by rw [Entry.isShared, he, Bool.not_true]
  rw [List.filter_append, List.filter_append, List.filter_cons, htold, if_neg Bool.false_ne_true]

/-- Tickets are resolved wherever the profiles are. -/
theorem inMemory_resolve (ticket : Option Nat) (r : Resolution) :
    (d.inMemory store tree).resolve ticket r = (d.resolve ticket r).inMemory store tree := by
  cases ticket <;> rfl

/-- What a document has to tell is no call. -/
theorem inMemory_calls (d : Desk) (store : Store.Memory) (tree : Files.Tree) :
    (d.inMemory store tree).calls = d.calls := by
  rw [calls, calls, inMemory, List.filterMap_filter]
  congr
  funext entry
  cases entry with
  | called c => rfl
  | traced e => exact ite_self none

namespace Doubles

variable {p : Profile} {id : NetworkId}

/-- What leaves the document alone leaves its double in place. -/
theorem of_eq (h : Doubles path known store d) (hstore : d'.store = d.store)
    (htree : d'.tree = d.tree) : Doubles path known store d' :=
  { h with holds := ⟨hstore.trans h.holds.store, htree ▸ h.holds.files⟩ }

/-- A double of an untouched desk remains one. -/
theorem untouched (h : Doubles path known store d) (hsame : Untouched d d') :
    Doubles path known store d' :=
  h.of_eq hsame.store hsame.tree

/-- A double finds the same profiles. -/
theorem find? (h : Doubles path known store d) (id : NetworkId) :
    d.store.find? id = store.roster.find? id := by
  rw [h.holds.store]
  rfl

/-- A profile that is found has a name and a known id. -/
theorem found (h : Doubles path known store d) (hfound : store.roster.find? id = some p) :
    p.ssid ≠ "" ∧ known p.id = true := by
  refine ⟨h.named p (List.mem_of_find?_eq_some hfound), ?_⟩
  rw [Store.Roster.id_of_find? hfound, ← h.known, hfound]
  rfl

/-- A profile with a name may take the place of one that is there. -/
theorem insert (h : Doubles path known store d) (hp : p.ssid ≠ "" ∧ known p.id = true)
    {store' : Store.Memory} (hstore : store' = { store with
      roster := store.roster.insert p, updates := store'.updates, enables := store'.enables })
    (hholds : d'.Holds path (store.roster.insert p)) : Doubles path known store' d' := by
  rw [hstore]
  exact {
    mode := h.mode
    enabling := h.enabling
    holds := hholds
    named := fun q hq => by
      rcases Store.mem_insertProfile hq with rfl | hq
      · exact hp.1
      · exact h.named q hq
    known := fun id => by
      rw [Store.Roster.find?_insert]
      split
      · next hid => exact hid ▸ hp.2.symm
      · exact h.known id }

end Doubles

/-! ## requests -/

/-- A request that finds its like over a document: it updates known networks only, under their
names, and it tells nothing that a document has to tell. -/
def Fits (known : NetworkId → Bool) : Request → Prop
  | .update p _ => p.ssid ≠ "" ∧ known p.id = true
  | .trace e => e.ofDocument = false
  | _ => True

/-- What a request comes to over a store in memory. -/
theorem onStore_memory
    (op : Store.Backend → StateM Store.Bench (Except Store.Fault Unit × Store.Backend))
    {result : Except Store.Fault Unit} {store' : Store.Memory}
    (hop : op (.memory store) = pure (result, .memory store')) :
    (d.inMemory store tree).onStore op = (result, d.inMemory store' tree) := by
  have hfiles : (op (d.inMemory store tree).store).run ⟨tree, []⟩ =
      ((result, .memory store'), ⟨tree, []⟩) := by
    change (op (.memory store)).run _ = _
    rw [hop]
    rfl
  have hnotes : (d.inMemory store tree).tree = tree := rfl
  rw [onStore, withFiles, hnotes, hfiles]
  simp [inMemory]

/-- An update of the store in memory. -/
theorem update_memory (h : store.mode = .apply) (p : Profile) (uid : Uid) :
    (carryOut (.update p uid)).run (d.inMemory store tree) = (.ok (),
      (d.inMemory ({ store with updates := store.updates + 1 }.insert p) tree).called
        (.update p uid (.ok ()))) := by
  have hop : Store.Backend.update (.memory store) p uid =
      pure (.ok (), .memory ({ store with updates := store.updates + 1 }.insert p)) := by
    rw [Store.Backend.update, Store.Memory.update]
    simp only [h]
  exact update_of_onStore (onStore_memory (fun s => s.update p uid) hop)

/-- Enabling a profile of the store in memory. -/
theorem enable_memory (h : store.failEnable = false) (id : NetworkId) (uid : Uid) :
    (carryOut (.enable id uid)).run (d.inMemory store tree) =
      match store.roster.find? id with
      | none => (.error (.unknownProfile id),
        (d.inMemory { store with enables := store.enables + 1 } tree).called
          (.enable id uid (.error (.unknownProfile id))))
      | some p => (.ok (),
        (d.inMemory ({ store with enables := store.enables + 1 }.insert { p with enabled := true })
          tree).called (.enable id uid (.ok ()))) := by
  cases hfound : store.roster.find? id with
  | none =>
      have hop : Store.Backend.enable (.memory store) id uid =
          pure (.error (.unknownProfile id),
            .memory { store with enables := store.enables + 1 }) := by
        rw [Store.Backend.enable, Store.Memory.enable]
        simp only [h, hfound]
        rfl
      exact enable_of_onStore (onStore_memory (fun s => s.enable id uid) hop)
  | some p =>
      have hop : Store.Backend.enable (.memory store) id uid = pure (.ok (), .memory
          ({ store with enables := store.enables + 1 }.insert { p with enabled := true })) := by
        rw [Store.Backend.enable, Store.Memory.enable]
        simp only [h, hfound]
        rfl
      exact enable_of_onStore (onStore_memory (fun s => s.enable id uid) hop)

/-- The update of a known network is made in both stores. -/
theorem Doubles.update (h : Doubles path known store d) (tree : Files.Tree) {p : Profile}
    (hp : p.ssid ≠ "" ∧ known p.id = true) (uid : Uid) :
    ∃ store', (Desk.carryOut (.update p uid)).run (d.inMemory store tree) =
        (((Desk.carryOut (.update p uid)).run d).1,
          ((Desk.carryOut (.update p uid)).run d).2.inMemory store' tree) ∧
      Doubles path known store' ((Desk.carryOut (.update p uid)).run d).2 := by
  have hthere : (store.roster.find? p.id).isSome = true := (h.known p.id).trans hp.2
  obtain ⟨q, hq⟩ := Option.isSome_iff_exists.1 hthere
  obtain ⟨tree', hrun, hfiles, -⟩ := update_granted h.holds hp.1 hq uid
  rw [hrun, update_memory h.mode, inMemory_called]
  refine ⟨{ store with updates := store.updates + 1 }.insert p, ?_, h.insert hp rfl ⟨rfl, hfiles⟩⟩
  simp only [inMemory, called, filter_told (e := .profileUpdated p.id uid) rfl]

/-- The enabling of a network is made, or refused, in both stores. -/
theorem Doubles.enable (h : Doubles path known store d) (tree : Files.Tree) (id : NetworkId)
    (uid : Uid) :
    ∃ store', (Desk.carryOut (.enable id uid)).run (d.inMemory store tree) =
        (((Desk.carryOut (.enable id uid)).run d).1,
          ((Desk.carryOut (.enable id uid)).run d).2.inMemory store' tree) ∧
      Doubles path known store' ((Desk.carryOut (.enable id uid)).run d).2 := by
  rw [enable_memory h.enabling]
  cases hfound : store.roster.find? id with
  | none =>
      rw [enable_refused h.holds hfound]
      exact ⟨{ store with enables := store.enables + 1 }, Prod.ext rfl (inMemory_called _),
        h.mode, h.enabling, ⟨h.holds.store, h.holds.files⟩, h.named, h.known⟩
  | some p =>
      let joined : Profile := { p with enabled := true }
      obtain ⟨hname, hknown⟩ := h.found hfound
      obtain ⟨tree', hrun, hfiles, -⟩ := enable_granted h.holds hfound uid
      dsimp only
      rw [hrun, inMemory_called]
      refine ⟨{ store with enables := store.enables + 1 }.insert joined, ?_,
        h.insert (p := joined) ⟨hname, hknown⟩ rfl ⟨rfl, hfiles⟩⟩
      simp only [inMemory, called, filter_told (e := .profileEnabled id uid) rfl, joined]

/-- **A request gets the same answer of both stores**, and they stay alike. -/
theorem Doubles.carryOut (h : Doubles path known store d) (tree : Files.Tree) {r : Request}
    (hr : Fits known r) :
    ∃ store', (Desk.carryOut r).run (d.inMemory store tree) =
        (((Desk.carryOut r).run d).1, ((Desk.carryOut r).run d).2.inMemory store' tree) ∧
      Doubles path known store' ((Desk.carryOut r).run d).2 := by
  cases r with
  | look id =>
      refine ⟨store, ?_, h.of_eq rfl rfl⟩
      have hlook : (Desk.carryOut (.look id)).run (d.inMemory store tree) = (store.roster.find? id,
          (d.inMemory store tree).called (.get id (store.roster.find? id))) := rfl
      rw [hlook, ← h.find? id, inMemory_called]
      rfl
  | update p uid => exact h.update tree hr uid
  | enable id uid => exact h.enable tree id uid
  | post number notification =>
      exact ⟨store, Prod.ext rfl (inMemory_called (d := { d with board := _, posts := _ }) _),
        h.of_eq rfl rfl⟩
  | toast message => exact ⟨store, Prod.ext rfl (inMemory_called _), h.of_eq rfl rfl⟩
  | scan source =>
      refine ⟨store, Prod.ext rfl ?_, h.of_eq rfl rfl⟩
      change ((d.inMemory store tree).called (.scan source)).traced (.scanRequested source) = _
      rw [inMemory_called, inMemory_traced rfl]
      rfl
  | trace e => exact ⟨store, Prod.ext rfl (inMemory_traced hr), h.of_eq rfl rfl⟩

/-- A plan of such requests comes to the same over both stores. -/
theorem Doubles.run {α : Type} {plan : Plan α} (h : Doubles path known store d)
    (tree : Files.Tree) (hplan : plan.All (Fits known)) :
    ∃ store', (plan.run Desk.carryOut).run (d.inMemory store tree) =
        (((plan.run Desk.carryOut).run d).1,
          ((plan.run Desk.carryOut).run d).2.inMemory store' tree) ∧
      Doubles path known store' ((plan.run Desk.carryOut).run d).2 := by
  induction plan generalizing store d with
  | done a => exact ⟨store, rfl, h⟩
  | call r next ih =>
      obtain ⟨store₁, hrun, h₁⟩ := h.carryOut tree hplan.1
      rw [Plan.run_call, hrun, Plan.run_call]
      exact ih _ h₁ (hplan.2 _)

/-! ## plans -/

section Plans

variable (messages : Messages) (id : NetworkId) {p : Profile}

/-- An offer makes requests that any store can answer. -/
theorem offer_fits : (Remedy.offer messages id).All (Fits known) := by
  refine .bind (.ask trivial) fun found => ?_
  cases found with
  | none => exact .bind (.ask rfl) fun _ => .done _
  | some p => exact .bind (.ask trivial) fun _ => .bind (.ask rfl) fun _ => .done _

/-- A check makes requests that any store can answer. -/
theorem check_fits (captured : Option String) :
    (Remedy.check messages id captured).All (Fits known) := by
  refine .bind (.ask trivial) fun found => ?_
  cases Remedy.validate id captured found with
  | ok p => exact .done _
  | error fault => exact .bind (.ask rfl) fun _ => .bind (.ask trivial) fun _ => .done _

/-- The update of a known profile with a name suits either store. -/
theorem disable_fits (hp : p.ssid ≠ "" ∧ known p.id = true) :
    (Remedy.disable p).All (Fits known) := by
  refine .bind (.ask hp) fun answer => ?_
  cases answer with
  | ok _ => exact .bind (.ask trivial) fun _ => .done _
  | error fault => exact .bind (.ask rfl) fun _ => .bind (.ask trivial) fun _ => .done _

/-- What follows a choice suits either store. -/
theorem conclude_fits (hp : p.ssid ≠ "" ∧ known p.id = true) (choice : Dialog.Choice) :
    (Remedy.conclude messages id p choice).All (Fits known) := by
  rw [Remedy.conclude]
  split
  · refine .bind (disable_fits hp) fun changed => ?_
    cases changed with
    | error fault => exact .bind (.ask trivial) fun _ => .bind (.ask rfl) fun _ => .done _
    | ok updated =>
        refine .bind (.ask trivial) fun _ => .bind (.ask trivial) fun answer => ?_
        cases answer with
        | ok _ => exact .bind (.ask trivial) fun _ => .bind (.ask rfl) fun _ => .done _
        | error fault =>
            exact .bind (.ask rfl) fun _ => .bind (.ask trivial) fun _ => .bind (.ask rfl)
              fun _ => .done _
  · exact .bind (.ask rfl) fun _ => .done _

end Plans

/-! ## confirmations -/

/-- The profile that was checked for a confirmation that waits has a name and a known id. -/
def Pending.Fits (known : NetworkId → Bool) (pending : Pending) : Prop :=
  pending.profile.ssid ≠ "" ∧ known pending.profile.id = true

/-- **A choice is concluded alike** on both desks. -/
theorem Doubles.conclude (h : Doubles path known store d) (tree : Files.Tree) {pending : Pending}
    (hpending : pending.Fits known) (choice : Dialog.Choice) :
    ∃ store', (d.inMemory store tree).conclude pending choice =
        (d.conclude pending choice).inMemory store' tree ∧
      Doubles path known store' (d.conclude pending choice) := by
  obtain ⟨store', hrun, h'⟩ := h.run tree
    (conclude_fits d.messages pending.asked.id hpending choice)
  refine ⟨store', ?_, h'.untouched (resolve_untouched _ _ _)⟩
  have hmessages : (d.inMemory store tree).messages = d.messages := rfl
  rw [Desk.conclude, hmessages, hrun]
  exact inMemory_resolve _ _

/-- A confirmation that is checked gets to its dialog. -/
theorem start_of_checked {asked : Asked} {p : Profile}
    (h : ((Remedy.check d.messages asked.id asked.identity).run carryOut).run d = (.ok p, d')) :
    d.start asked =
      let d₂ := d'.called (.dialog (Remedy.question d'.messages p))
      match d'.answers with
      | choice :: answers => ({ d₂ with answers }.conclude ⟨asked, p⟩ choice, none)
      | [] => ({ d₂ with unanswered := true }, some ⟨asked, p⟩) := by
  rw [start, h]
  rfl

/-- **A confirmation starts alike** on both desks. -/
theorem Doubles.start (h : Doubles path known store d) (tree : Files.Tree) (asked : Asked) :
    ∃ store', (d.inMemory store tree).start asked =
        ((d.start asked).1.inMemory store' tree, (d.start asked).2) ∧
      Doubles path known store' (d.start asked).1 ∧
      ∀ pending, (d.start asked).2 = some pending → pending.Fits known := by
  obtain ⟨store₁, hrun, h₁⟩ :=
    h.run tree (check_fits d.messages asked.id asked.identity)
  obtain ⟨d₁, hcheck, -⟩ := check_run d d.messages asked.id asked.identity
  rw [hcheck] at hrun h₁
  cases hvalid : Remedy.validate asked.id asked.identity (d.store.find? asked.id) with
  | error fault =>
      have hmessages : (d.inMemory store tree).messages = d.messages := rfl
      rw [Desk.start, hmessages, hrun, Desk.start, hcheck, hvalid]
      exact ⟨store₁, Prod.ext (inMemory_resolve _ _) rfl, h₁.untouched (resolve_untouched _ _ _),
        fun _ hnone => by cases hnone⟩
  | ok p =>
      rw [hvalid] at hcheck hrun
      have hfound := (Remedy.validate_eq_ok hvalid).1
      rw [h.find?] at hfound
      have hp : p.ssid ≠ "" ∧ known p.id = true := h.found hfound
      let d₂ := d₁.called (.dialog (Remedy.question d₁.messages p))
      have hasked : (d₁.inMemory store₁ tree).called (.dialog (Remedy.question d₁.messages p)) =
          d₂.inMemory store₁ tree := inMemory_called _
      have hmessages : (d₁.inMemory store₁ tree).messages = d₁.messages := rfl
      have hanswers : (d₁.inMemory store₁ tree).answers = d₁.answers := rfl
      rw [start_of_checked hrun, start_of_checked hcheck, hmessages, hasked, hanswers]
      cases d₁.answers with
      | nil =>
          refine ⟨store₁, rfl, h₁.of_eq rfl rfl, fun pending hpending => ?_⟩
          cases hpending
          exact hp
      | cons choice answers =>
          have h₂ : Doubles path known store₁ { d₂ with answers } := h₁.of_eq rfl rfl
          have hpending : Pending.Fits known ⟨asked, p⟩ := hp
          obtain ⟨store', hconclude, h'⟩ := h₂.conclude tree hpending choice
          exact ⟨store', Prod.ext hconclude rfl, h', fun _ hnone => by cases hnone⟩

/-- The worker does the same over both stores. -/
theorem Doubles.consume (h : Doubles path known store d) (tree : Files.Tree)
    (items : List (Queue.Item Asked)) :
    ∃ store', Queue.Serial.consume work (d.inMemory store tree) items =
        ((Queue.Serial.consume work d items).1.inMemory store' tree,
          (Queue.Serial.consume work d items).2) ∧
      Doubles path known store' (Queue.Serial.consume work d items).1 ∧
      ∀ pending, (Queue.Serial.consume work d items).2.1 = some pending → pending.Fits known := by
  induction items generalizing d store with
  | nil => exact ⟨store, rfl, h, fun _ hnone => by cases hnone⟩
  | cons item items ih =>
      cases item with
      | barrier ticket =>
          exact ih (h.untouched (resolve_untouched d (some ticket) (.flushed (.ok ()))))
      | job asked =>
          obtain ⟨store₁, hstart, h₁, hfits⟩ := h.start tree asked
          have hwork (d : Desk) : work.start asked d = d.start asked := rfl
          rw [Queue.Serial.consume, Queue.Serial.consume, hwork, hwork, hstart]
          generalize d.start asked = started at h₁ hfits ⊢
          obtain ⟨d₁, waits⟩ := started
          cases waits with
          | none => exact ih h₁
          | some pending => exact ⟨store₁, rfl, h₁, hfits⟩

end Desk

end Session

end MacConsent
