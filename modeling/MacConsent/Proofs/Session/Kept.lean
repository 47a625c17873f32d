import MacConsent.Proofs.Remedy.Effects
import MacConsent.Proofs.Session.Mishaps
import MacConsent.Proofs.Store.Backed

/-!
# MacConsent.Proofs.Session.Kept

Desks whose store keeps its profiles in a document (`Desk.Keeps`).  Whatever a
remedy requests and whatever befalls the files, the desk goes on with such a
store, and the request has turned the profile under an id into what its answer
says (`Desk.carryOutAmid_keeps`).  A session over a document starts with one
(`keeps_of_durable?`).
-/

namespace MacConsent.Session

open Remedy (Request)
open Store (Mishap)

namespace Desk

/-- The store of a desk is one in a document, in which its profiles are. -/
structure Keeps (d : Desk) (live : Store.Durable) : Prop where
  store : d.store = .durable live
  backed : live.Backed d.tree

variable {d : Desk} {live : Store.Durable}

theorem Keeps.find? (h : d.Keeps live) (id : NetworkId) :
    d.store.find? id = live.roster.find? id := by
  rw [h.store]
  rfl

/-- **A change amid mishaps is made, or nothing has changed**; either way the desk goes on with a
store whose profiles are in the document. -/
theorem changed_keeps (h : d.Keeps live) (mishaps : List (Option Mishap)) (c : Store.Change) :
    ∃ live', (d.changed mishaps live c).2.Keeps live' ∧ live'.path = live.path ∧
      ((∃ p, c.profile? live.roster = .ok p ∧ (d.changed mishaps live c).1 = .ok () ∧
          live'.roster = live.roster.insert p) ∨
        ∃ fault, (d.changed mishaps live c).1 = .error fault ∧ live' = live) := by
  have hbacked : live.Backed (Store.Trial.mk ⟨d.tree, []⟩ mishaps).tree := h.backed
  obtain ⟨result, t, hrun, hcases⟩ := Store.Durable.change_backed hbacked c
  rw [changed, hrun]
  rcases hcases with ⟨p, hp, rfl, hbacked'⟩ | ⟨fault, rfl, hbacked'⟩
  · exact ⟨_, ⟨rfl, hbacked'⟩, rfl, .inl ⟨p, hp, rfl, rfl⟩⟩
  · exact ⟨live, ⟨rfl, hbacked'⟩, rfl, .inr ⟨fault, rfl, rfl⟩⟩

/-- A call in the log makes no difference to a store and its document. -/
theorem Keeps.called (h : d.Keeps live) (c : Call) : (d.called c).Keeps live :=
  ⟨h.store, h.backed⟩

/-- **A request turns the profile under an id into what its answer says**, whatever befalls the
files. -/
theorem carryOutAmid_keeps (h : d.Keeps live) (mishaps : List (Option Mishap)) (r : Request)
    (id : NetworkId) :
    ∃ live', ((carryOutAmid mishaps r).run d).2.Keeps live' ∧ live'.path = live.path ∧
      r.Turns id ((carryOutAmid mishaps r).run d).1 (live.roster.find? id)
        (live'.roster.find? id) := by
  cases r with
  | update p uid =>
      obtain ⟨live', hkeeps, hpath, hcases⟩ := changed_keeps h mishaps (.update p uid)
      rw [carryOutAmid_update mishaps h.store]
      refine ⟨live', hkeeps.called _, hpath, ?_⟩
      rcases hcases with ⟨q, hq, hresult, hroster⟩ | ⟨fault, hresult, rfl⟩
      · obtain ⟨-, -, rfl⟩ := (Store.Change.profile?_update_eq_ok uid).1 hq
        rw [hresult, hroster, Store.Roster.find?_insert]
        rfl
      · rw [hresult]
        rfl
  | enable i uid =>
      obtain ⟨live', hkeeps, hpath, hcases⟩ := changed_keeps h mishaps (.enable i uid)
      rw [carryOutAmid_enable mishaps h.store]
      refine ⟨live', hkeeps.called _, hpath, ?_⟩
      rcases hcases with ⟨q, hq, hresult, hroster⟩ | ⟨fault, hresult, rfl⟩
      · obtain ⟨p, hfound, rfl⟩ := (Store.Change.profile?_enable_eq_ok uid).1 hq
        obtain rfl : p.id = i := Store.Roster.id_of_find? hfound
        rw [hresult, hroster, Store.Roster.find?_insert]
        by_cases hid : p.id = id
        · subst hid
          rw [hfound]
          rfl
        · simp only [Request.Turns, if_neg hid]
      · rw [hresult]
        rfl
  | look i =>
      have hlook : ((carryOutAmid mishaps (.look i)).run d).1 = live.roster.find? i := h.find? i
      rw [hlook]
      exact ⟨live, h.called _, rfl, rfl, fun p hp => Store.Roster.id_of_find? hp, fun hi => by rw [hi]⟩
  | _ => exact ⟨live, ⟨h.store, h.backed⟩, rfl, rfl⟩

end Desk

/-! ## sessions over a document -/

variable {s : Session} {live : Store.Durable}

/-- A session over a document starts with a store that keeps its profiles there. -/
theorem keeps_of_durable? {path : Files.Path} {tree : Files.Tree} {messages : Messages}
    {answers : List Dialog.Choice} (hsound : tree.Sound)
    (h : durable? path tree messages answers = .ok s) :
    ∃ live, live.path = path ∧ s.desk.Keeps live := by
  unfold durable? at h
  split at h
  · cases h
  · next store bench hload =>
      cases h
      have hpath := (Store.Durable.load_cases hload).1
      exact ⟨store, hpath, rfl, Store.Durable.backed_of_load hsound hload⟩

/-- Steps that are for stores in memory do nothing to a document's. -/
theorem onMemory_of_keeps (h : s.desk.Keeps live) (f : Store.Memory → Store.Memory) :
    (s.onMemory f).2 = s := by
  rw [onMemory, h.store]

/-- Files may be changed around the document of a store. -/
theorem onFiles_keeps (h : s.desk.Keeps live)
    {f : Files.Tree → Except Files.Fault Files.Tree}
    (hsound : ∀ t t' : Files.Tree, t.Sound → f t = .ok t' → t'.Sound)
    (hread : (s.onFiles f).2.desk.tree.read live.path = s.desk.tree.read live.path) :
    (s.onFiles f).2.desk.Keeps live := by
  refine ⟨(s.onFiles_frame f).2.trans h.store, h.backed.of_read ?_ hread⟩
  unfold onFiles
  split
  · next htree => exact hsound _ _ h.backed.sound htree
  · exact h.backed.sound

end MacConsent.Session
