import MacConsent.Proofs.Remedy.Bare
import MacConsent.Proofs.Session.Granted
import MacConsent.Proofs.Session.Mishaps

/-!
# MacConsent.Proofs.Session.Bare

Desks that differ in passphrases only: in those of the profiles in the store and
of the profiles that calls in the log have shown or handed on, and in what files
hold of them (`Desk.Alike`).  Whatever is requested at both, amid mishaps at the
same points, gets the same answer, but for the passphrase of a profile that is
looked up, and leaves the desks alike (`Alike.call`, `Alike.run`).
-/

namespace MacConsent.Session

open Remedy (Request Plan)
open Store (Mishap MishapsAlike ContentAlike)

/-- The call without the passphrases of profiles that it has shown or handed on. -/
def Call.bare : Call → Call
  | .get id found => .get id (found.map Profile.bare)
  | .update p uid result => .update p.bare uid result
  | c => c

/-- The line of the log without passphrases. -/
def Entry.bare : Entry → Entry
  | .traced e => .traced e
  | .called c => .called c.bare

namespace Desk

/-- The desk without passphrases, and without its files. -/
def bare (d : Desk) : Desk :=
  { d with store := d.store.bare, tree := {}, log := d.log.map Entry.bare }

/-- Desks that differ in passphrases only, and in texts from outside as far as they may (`G`). -/
structure Alike (G : String → String → Prop) (d d' : Desk) : Prop where
  same : d.bare = d'.bare
  tree : d.tree.Alike (ContentAlike G) d'.tree

theorem bare_traced (d : Desk) (e : Diagnostic) : (d.traced e).bare = d.bare.traced e := by
  simp [bare, traced, Entry.bare]

theorem bare_called (d : Desk) (c : Call) : (d.called c).bare = d.bare.called c.bare := by
  simp [bare, called, Entry.bare]

theorem bare_resolve (d : Desk) (ticket : Option Nat) (r : Resolution) :
    (d.resolve ticket r).bare = d.bare.resolve ticket r := by
  cases ticket <;> rfl

/-- The calls without passphrases. -/
theorem calls_bare (d : Desk) : d.bare.calls = d.calls.map Call.bare := by
  rw [calls, calls, bare, List.filterMap_map, List.map_filterMap]
  congr
  funext entry
  cases entry <;> rfl

/-! ## requests over a store in memory -/

section Memory

variable {d : Desk} {s : Store.Memory} (h : d.store = .memory s)

include h

/-- What a store in memory does leaves the files and the log alone. -/
theorem onStore_of_memory
    {op : Store.Backend → StateM Store.Bench (Except Store.Fault Unit × Store.Backend)}
    {result : Except Store.Fault Unit} {after : Store.Memory}
    (hop : op (.memory s) = pure (result, .memory after)) :
    d.onStore op = (result, { d with store := .memory after }) := by
  have hfiles : (op d.store).run ⟨d.tree, []⟩ = ((result, .memory after), ⟨d.tree, []⟩) := by
    rw [h, hop]
    rfl
  rw [onStore, withFiles, hfiles]
  simp

/-- An update of a store in memory. -/
theorem carryOut_update_of_memory (p : Profile) (uid : Uid) :
    (carryOut (.update p uid)).run d =
      ((s.update p).1, called { d with store := .memory (s.update p).2 }
        (.update p uid (s.update p).1)) :=
  update_of_onStore (onStore_of_memory h rfl)

/-- Enabling a profile of a store in memory. -/
theorem carryOut_enable_of_memory (id : NetworkId) (uid : Uid) :
    (carryOut (.enable id uid)).run d =
      ((s.enable id).1, called { d with store := .memory (s.enable id).2 }
        (.enable id uid (s.enable id).1)) :=
  enable_of_onStore (onStore_of_memory h rfl)

/-- A store in memory has no mishaps. -/
theorem carryOutAmid_of_memory (mishaps : List (Option Mishap)) (r : Request) :
    (carryOutAmid mishaps r).run d = (carryOut r).run d := by
  cases r <;> simp only [carryOutAmid, StateT.run, h]

end Memory

namespace Alike

variable {G : String → String → Prop} {d d' : Desk} (h : d.Alike G d')

include h

/-! ## what is told -/

/-- The same line for the observer keeps desks alike. -/
theorem traced (e : Diagnostic) : (d.traced e).Alike G (d'.traced e) where
  same := by rw [bare_traced, bare_traced, h.same]
  tree := h.tree

/-- Calls that differ in passphrases keep desks alike. -/
theorem called {c c' : Call} (hc : c.bare = c'.bare) : (d.called c).Alike G (d'.called c') where
  same := by rw [bare_called, bare_called, h.same, hc]
  tree := h.tree

/-- A resolved ticket keeps desks alike. -/
theorem resolve (ticket : Option Nat) (r : Resolution) :
    (d.resolve ticket r).Alike G (d'.resolve ticket r) where
  same := by rw [bare_resolve, bare_resolve, h.same]
  tree := by cases ticket <;> exact h.tree

/-- The store, the files and what more is told of them may change on the way. -/
theorem changed {store store' : Store.Backend} (hstore : store.bare = store'.bare)
    {tree tree' : Files.Tree} (htree : tree.Alike (ContentAlike G) tree')
    (notes : List Diagnostic) :
    Alike G { d with store, tree, log := d.log ++ notes.map .traced }
      { d' with store := store', tree := tree', log := d'.log ++ notes.map .traced } where
  same := by
    have hbare : ∀ (d : Desk) (store : Store.Backend) (tree : Files.Tree),
        bare { d with store, tree, log := d.log ++ notes.map .traced } =
          { d.bare with store := store.bare, log := d.bare.log ++ notes.map .traced } := by
      intro d store tree
      simp [bare, Function.comp_def, Entry.bare]
    rw [hbare, hbare, h.same, hstore]
  tree := htree

/-- Alike desks find the same profiles, but for passphrases. -/
theorem find? (id : NetworkId) :
    (d.store.find? id).map Profile.bare = (d'.store.find? id).map Profile.bare := by
  have hstore : d.store.bare = d'.store.bare := congrArg Desk.store h.same
  rw [← d.store.find?_bare, ← d'.store.find?_bare, hstore]

/-- Both stores are of the same kind. -/
theorem store_cases :
    (∃ s s' : Store.Memory, d.store = .memory s ∧ d'.store = .memory s' ∧ s.bare = s'.bare) ∨
      ∃ s s' : Store.Durable, d.store = .durable s ∧ d'.store = .durable s' ∧ s.bare = s'.bare := by
  have hstore : d.store.bare = d'.store.bare := congrArg Desk.store h.same
  generalize d.store = store, d'.store = store' at hstore
  cases store with
  | memory s =>
      cases store' with
      | memory s' => exact .inl ⟨s, s', rfl, rfl, Store.Backend.memory.inj hstore⟩
      | durable s' => cases hstore
  | durable s =>
      cases store' with
      | memory s' => cases hstore
      | durable s' => exact .inr ⟨s, s', rfl, rfl, Store.Backend.durable.inj hstore⟩

/-! ## changes of the store -/

variable {mishaps mishaps' : List (Option Mishap)} (hm : MishapsAlike G mishaps mishaps')

include hm

/-- Alike changes of alike documents come to the same, whatever goes wrong. -/
theorem ask {s s' : Store.Durable} (hs : s.bare = s'.bare) {c c' : Store.Change}
    (hc : c.bare = c'.bare) :
    ∃ answer live live' t t',
      (c.ask Store.Backing.trial s).run ⟨⟨d.tree, []⟩, mishaps⟩ = ((answer, live), t) ∧
      (c'.ask Store.Backing.trial s').run ⟨⟨d'.tree, []⟩, mishaps'⟩ = ((answer, live'), t') ∧
      live.bare = live'.bare ∧ t.Alike G t' := by
  obtain ⟨⟨hanswer, hlive⟩, ht⟩ :=
    Store.twins_ask hs hc ⟨⟨d.tree, []⟩, mishaps⟩ ⟨⟨d'.tree, []⟩, mishaps'⟩ ⟨h.tree, rfl, hm⟩
  generalize (c.ask Store.Backing.trial s).run ⟨⟨d.tree, []⟩, mishaps⟩ = after,
    (c'.ask Store.Backing.trial s').run ⟨⟨d'.tree, []⟩, mishaps'⟩ = after' at hanswer hlive ht
  obtain ⟨⟨answer, live⟩, t⟩ := after
  obtain ⟨⟨answer', live'⟩, t'⟩ := after'
  obtain rfl : answer = answer' := hanswer
  exact ⟨answer, live, live', t, t', rfl, rfl, hlive, ht⟩

/-- **A change of a store in a document gives back the same**, amid the same mishaps. -/
theorem change {s s' : Store.Durable} (hs : s.bare = s'.bare) {c c' : Store.Change}
    (hc : c.bare = c'.bare) :
    (d.changed mishaps s c).1 = (d'.changed mishaps' s' c').1 ∧
      (d.changed mishaps s c).2.Alike G (d'.changed mishaps' s' c').2 := by
  obtain ⟨answer, live, live', t, t', hask, hask', hlive, ht⟩ := h.ask hm hs hc
  have hrun : (c.run Store.Backing.trial s).run ⟨⟨d.tree, []⟩, mishaps⟩ =
      (answer.map fun _ => live, t) := by
    rw [Store.Change.run_eq_ask, StateT.run_map, hask]
    rfl
  have hrun' : (c'.run Store.Backing.trial s').run ⟨⟨d'.tree, []⟩, mishaps'⟩ =
      (answer.map fun _ => live', t') := by
    rw [Store.Change.run_eq_ask, StateT.run_map, hask']
    rfl
  have hbackend : Store.Backend.bare (.durable live) = Store.Backend.bare (.durable live') :=
    congrArg Store.Backend.durable hlive
  have hkept : Store.Backend.bare (.durable s) = Store.Backend.bare (.durable s') :=
    congrArg Store.Backend.durable hs
  rw [Desk.changed, Desk.changed, hrun, hrun']
  dsimp only
  rw [ht.notes]
  cases answer with
  | error fault => exact ⟨rfl, h.changed hkept ht.tree _⟩
  | ok given => exact ⟨rfl, h.changed hbackend ht.tree _⟩

/-! ## requests -/

omit hm in
/-- A store in memory may be replaced by alike ones. -/
theorem stored {s s' : Store.Memory} (hs : s.bare = s'.bare) :
    Alike G { d with store := .memory s } { d' with store := .memory s' } where
  same := by
    have hbare : ∀ (d : Desk) (s : Store.Memory), bare { d with store := .memory s } =
        { d.bare with store := .memory s.bare } := fun _ _ => rfl
    rw [hbare, hbare, h.same, hs]
  tree := h.tree

omit hm in
/-- A profile that is looked up is the same but for its passphrase. -/
theorem look (mishaps mishaps' : List (Option Mishap)) (id : NetworkId) :
    ((carryOutAmid mishaps (.look id)).run d).1.map Profile.bare =
        ((carryOutAmid mishaps' (.look id)).run d').1.map Profile.bare ∧
      ((carryOutAmid mishaps (.look id)).run d).2.Alike G
        ((carryOutAmid mishaps' (.look id)).run d').2 :=
  ⟨h.find? id, h.called (congrArg (Call.get id) (h.find? id))⟩

/-- Updates that differ in a passphrase are answered alike. -/
theorem update {p p' : Profile} (hp : p.bare = p'.bare) (uid : Uid) :
    ((carryOutAmid mishaps (.update p uid)).run d).1 =
        ((carryOutAmid mishaps' (.update p' uid)).run d').1 ∧
      ((carryOutAmid mishaps (.update p uid)).run d).2.Alike G
        ((carryOutAmid mishaps' (.update p' uid)).run d').2 := by
  have hcall : ∀ result, (Call.update p uid result).bare = (Call.update p' uid result).bare :=
    fun result => congrArg (fun p => Call.update p uid result) hp
  obtain ⟨s, s', hstore, hstore', hs⟩ | ⟨s, s', hstore, hstore', hs⟩ := h.store_cases
  · have hupdate := s.update_bare p
    rw [hs, hp, s'.update_bare] at hupdate
    obtain ⟨hresult, hlive⟩ := Prod.mk.inj hupdate
    rw [carryOutAmid_of_memory hstore, carryOutAmid_of_memory hstore',
      carryOut_update_of_memory hstore, carryOut_update_of_memory hstore', hresult]
    exact ⟨rfl, (h.stored hlive.symm).called (hcall _)⟩
  · have hchange : Store.Change.bare (.update p uid) = Store.Change.bare (.update p' uid) :=
      congrArg (fun p => Store.Change.update p uid) hp
    obtain ⟨hresult, hlive⟩ := h.change hm hs hchange
    rw [carryOutAmid_update mishaps hstore, carryOutAmid_update mishaps' hstore']
    dsimp only
    rw [hresult]
    exact ⟨rfl, hlive.called (hcall _)⟩

/-- Enabling a profile is answered alike. -/
theorem enable (id : NetworkId) (uid : Uid) :
    ((carryOutAmid mishaps (.enable id uid)).run d).1 =
        ((carryOutAmid mishaps' (.enable id uid)).run d').1 ∧
      ((carryOutAmid mishaps (.enable id uid)).run d).2.Alike G
        ((carryOutAmid mishaps' (.enable id uid)).run d').2 := by
  obtain ⟨s, s', hstore, hstore', hs⟩ | ⟨s, s', hstore, hstore', hs⟩ := h.store_cases
  · have henable := s.enable_bare id
    rw [hs, s'.enable_bare] at henable
    obtain ⟨hresult, hlive⟩ := Prod.mk.inj henable
    rw [carryOutAmid_of_memory hstore, carryOutAmid_of_memory hstore',
      carryOut_enable_of_memory hstore, carryOut_enable_of_memory hstore', hresult]
    exact ⟨rfl, (h.stored hlive.symm).called rfl⟩
  · have hchange : Store.Change.bare (.enable id uid) = Store.Change.bare (.enable id uid) := rfl
    obtain ⟨hresult, hlive⟩ := h.change hm hs hchange
    rw [carryOutAmid_enable mishaps hstore, carryOutAmid_enable mishaps' hstore']
    dsimp only
    rw [hresult]
    exact ⟨rfl, hlive.called rfl⟩

/-- **A request that shows no profile gets the same answer.** -/
theorem aside {r : Request} (hr : r.IsBlind) :
    ((carryOutAmid mishaps r).run d).1 = ((carryOutAmid mishaps' r).run d').1 ∧
      ((carryOutAmid mishaps r).run d).2.Alike G ((carryOutAmid mishaps' r).run d').2 := by
  cases r with
  | look id => exact hr.elim
  | update p uid => exact hr.elim
  | enable id uid => exact h.enable hm id uid
  | post number notification =>
      have hposted : Alike G
          { d with board := d.board.post number notification, posts := d.posts + 1 }
          { d' with board := d'.board.post number notification, posts := d'.posts + 1 } := {
        same := congrArg (fun b : Desk => { b with
          board := b.board.post number notification, posts := b.posts + 1 }) h.same
        tree := h.tree }
      exact ⟨rfl, hposted.called rfl⟩
  | toast message => exact ⟨rfl, h.called rfl⟩
  | scan source => exact ⟨rfl, (h.called rfl).traced _⟩
  | trace e => exact ⟨rfl, h.traced e⟩

/-- Plans that differ in passphrases only make the same request, and go on alike. -/
theorem call {α : Type} {A : α → α → Prop} {r r' : Request} {next : r.Answer → Plan α}
    {next' : r'.Answer → Plan α} (hplan : (Plan.call r next).Alike A (.call r' next')) :
    (next ((carryOutAmid mishaps r).run d).1).Alike A
        (next' ((carryOutAmid mishaps' r').run d').1) ∧
      ((carryOutAmid mishaps r).run d).2.Alike G ((carryOutAmid mishaps' r').run d').2 := by
  cases hplan with
  | look id hnext =>
      obtain ⟨hfound, hd⟩ := h.look mishaps mishaps' id
      exact ⟨hnext _ _ hfound, hd⟩
  | update hp uid hnext =>
      obtain ⟨hresult, hd⟩ := h.update hm hp uid
      rw [hresult]
      exact ⟨hnext _, hd⟩
  | aside r hr hnext =>
      obtain ⟨hanswer, hd⟩ := h.aside hm hr
      rw [hanswer]
      exact ⟨hnext _, hd⟩

omit h hm in
/-- **So they come to the same in the end.** -/
theorem run {α : Type} {A : α → α → Prop} {x x' : Plan α} (hx : x.Alike A x') {d d' : Desk}
    (h : d.Alike G d') :
    A ((x.run carryOut).run d).1 ((x'.run carryOut).run d').1 ∧
      ((x.run carryOut).run d).2.Alike G ((x'.run carryOut).run d').2 := by
  have hcalm : carryOut = carryOutAmid [] := funext fun r => (carryOutAmid_nil r).symm
  rw [hcalm]
  induction x generalizing x' d d' with
  | done a =>
      cases hx with
      | done ha => exact ⟨ha, h⟩
  | call r next ih =>
      obtain ⟨r', next', rfl⟩ := hx.exists_call
      obtain ⟨hgoes, hd⟩ := h.call .nil hx
      exact ih _ hgoes hd

end Alike

end Desk

/-- **Stores that are read from documents with the same profiles, but for passphrases, make desks
that are alike**, whoever has written the documents. -/
theorem durable?_alike {G : String → String → Prop} {path : Files.Path} {tree tree' : Files.Tree}
    (htree : tree.Alike (ContentAlike G) tree')
    (hread : ResultsAlike (fun r r' : Store.Roster => r.bare = r'.bare)
      (Store.Durable.rosterOf (tree.read path)) (Store.Durable.rosterOf (tree'.read path)))
    (messages : Messages) (answers : List Dialog.Choice) :
    ResultsAlike (fun s s' : Session => s.desk.Alike G s'.desk)
      (durable? path tree messages answers) (durable? path tree' messages answers) := by
  have hopen : ∀ tree, durable? path tree messages answers =
      (Store.Durable.rosterOf (tree.read path)).map fun roster =>
        { desk := { store := .durable ⟨path, roster⟩, tree, messages, answers } } := by
    intro tree
    cases hroster : Store.Durable.rosterOf (tree.read path) with
    | error fault =>
        rw [durable?, Store.Durable.load, StateT.run_bind, Store.Backing.bench_read]
        dsimp only [bind, Id.run]
        rw [hroster]
        rfl
    | ok roster =>
        have hload := Store.Durable.load_run (b := ⟨tree, []⟩) hroster
        rw [durable?, hload]
        rfl
  rw [hopen, hopen]
  generalize Store.Durable.rosterOf (tree.read path) = roster?,
    Store.Durable.rosterOf (tree'.read path) = roster?' at hread
  cases hread with
  | error fault => exact .error fault
  | @ok r r' hroster =>
      have hstore : Store.Backend.bare (.durable ⟨path, r⟩) =
          Store.Backend.bare (.durable ⟨path, r'⟩) :=
        congrArg (fun roster => Store.Backend.durable ⟨path, roster⟩) hroster
      have hsame := congrArg (fun store => ({ store, messages, answers } : Desk)) hstore
      exact .ok ⟨hsame, htree⟩

end MacConsent.Session
