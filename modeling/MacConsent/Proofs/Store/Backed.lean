import MacConsent.Proofs.Store.Atomic
import MacConsent.Proofs.Store.Reload

/-!
# MacConsent.Proofs.Store.Backed

Stores whose profiles are in their documents (`Backed`).  A store is backed when
it is opened, whatever document it is opened on (`backed_of_load`), and every
change leaves it backed, whatever befalls the files on the way
(`change_backed`): what is not in the document has not become part of the store.
So a store that is opened on the same files holds each profile of a backed one,
as a document keeps it (`Backed.reopened`).
-/

namespace MacConsent.Store

open Files (Tree)

/-! ## rosters -/

namespace Roster

variable {r : Roster} {id : NetworkId}

/-- What a document keeps of a roster is found under the same ids. -/
theorem find?_kept (r : Roster) (id : NetworkId) :
    r.kept.find? id = (r.find? id).map Profile.kept :=
  List.find?_map

/-- Under an id that is free nothing is found. -/
theorem find?_of_freeId (h : r.freeId = .ok id) : r.find? id = none := by
  rw [find?, List.find?_eq_none]
  intro p hp
  have hlt := lt_of_freeId h hp
  rw [beq_iff_eq]
  rintro rfl
  rw [NetworkId.lt_def] at hlt
  omega

end Roster

namespace Durable

variable {s : Durable} {tree : Tree} {c : Change}

/-! ## documents -/

/-- The profiles of a store are in its document, unless it has none. -/
structure Backed (tree : Tree) (s : Durable) : Prop where
  sound : tree.Sound
  saved : s.roster = .empty ∨
    ∃ text, tree.read s.path = .ok text ∧ rosterOf (.ok text) = .ok s.roster.kept

theorem rosterOf_ok_iff {text : String} {r : Roster} :
    rosterOf (.ok text) = .ok r ↔ ∃ ps, Document.read text = .ok ps ∧ r = .ofList ps := by
  rw [rosterOf]
  cases hread : Document.read text with
  | error fault => simp
  | ok ps => simp [eq_comm]

/-- What is read from a document is all that a document keeps. -/
theorem kept_of_rosterOf {text : String} {r : Roster} (h : rosterOf (.ok text) = .ok r) :
    r.kept = r := by
  obtain ⟨ps, hread, rfl⟩ := rosterOf_ok_iff.1 h
  exact Roster.ext_toList ((Roster.toList_kept_eq_iff _).2 fun p hp =>
    Document.tidy_of_read hread p (mem_of_mem_ofList hp))

/-- A store is opened exactly on what is read from its document. -/
theorem load_cases {path : Files.Path} {b b' : Bench}
    (h : (load Backing.bench path).run b = (.ok s, b')) :
    s.path = path ∧ rosterOf (b.tree.read path) = .ok s.roster ∧ b'.tree = b.tree := by
  cases hroster : rosterOf (b.tree.read path) with
  | error fault =>
      rw [load, StateT.run_bind, Backing.bench_read] at h
      dsimp only [bind, Id.run] at h
      rw [hroster] at h
      cases h
  | ok r =>
      rw [load_run hroster] at h
      cases h
      exact ⟨rfl, rfl, rfl⟩

/-- **A store is backed when it is opened.** -/
theorem backed_of_load {path : Files.Path} {b b' : Bench} (hsound : b.tree.Sound)
    (h : (load Backing.bench path).run b = (.ok s, b')) : Backed b'.tree s := by
  obtain ⟨rfl, hroster, htree⟩ := load_cases h
  refine ⟨htree ▸ hsound, ?_⟩
  cases hread : b.tree.read s.path with
  | ok text =>
      rw [hread] at hroster
      exact .inr ⟨text, htree ▸ hread, (kept_of_rosterOf hroster).symm ▸ hroster⟩
  | error fault =>
      rw [hread] at hroster
      cases fault with
      | missing => exact .inl (Except.ok.inj hroster).symm
      | _ => cases hroster

/-- **A store that is opened on the files of a backed one holds its profiles.** -/
theorem Backed.reopened (h : Backed tree s) {id : NetworkId} {p : Profile}
    (hfound : s.roster.find? id = some p) :
    ∃ opened b, (load Backing.bench s.path).run ⟨tree, []⟩ = (.ok opened, b) ∧
      opened.roster.find? id = some p.kept := by
  rcases h.saved with hempty | ⟨text, hread, hroster⟩
  · rw [hempty] at hfound
    cases hfound
  · refine ⟨_, _, load_run (b := ⟨tree, []⟩) (hread ▸ hroster), ?_⟩
    rw [Roster.find?_kept, hfound]
    rfl

/-- A store is backed as long as its document is what it was. -/
theorem Backed.of_read {tree' : Tree} (h : Backed tree s) (hsound : tree'.Sound)
    (hread : tree'.read s.path = tree.read s.path) : Backed tree' s :=
  ⟨hsound, hread ▸ h.saved⟩

/-- **Every change leaves a store backed**: it puts in one profile, or it fails and the store is
what it was. -/
theorem change_backed {t : Trial} (h : Backed t.tree s) (c : Change) :
    ∃ result t', (c.run Backing.trial s).run t = (result, t') ∧
      ((∃ p, c.profile? s.roster = .ok p ∧ result = .ok { s with roster := s.roster.insert p } ∧
          Backed t'.tree { s with roster := s.roster.insert p }) ∨
        ∃ fault, result = .error fault ∧ Backed t'.tree s) := by
  cases hp : c.profile? s.roster with
  | error fault => exact ⟨_, t, Change.run_refused hp t, .inr ⟨fault, rfl, h⟩⟩
  | ok p =>
      obtain ⟨result, t', hrun, hsound, hcases⟩ := change_trial h.sound hp
      refine ⟨result, t', hrun, ?_⟩
      rcases hcases with ⟨hresult, hsaved⟩ | ⟨fault, hresult, hsame⟩
      · exact .inl ⟨p, rfl, hresult, hsound, .inr ⟨_, hsaved.document, rosterOf_write _⟩⟩
      · refine .inr ⟨fault, hresult, hsound, h.saved.imp_right ?_⟩
        exact fun ⟨text, hread, hroster⟩ => ⟨text, (read_document_iff hsame text).2 hread, hroster⟩

end Durable

end MacConsent.Store
