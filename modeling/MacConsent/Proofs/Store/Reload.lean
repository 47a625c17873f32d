import MacConsent.Proofs.Document.Tidy
import MacConsent.Proofs.Store.Durability

/-!
# MacConsent.Proofs.Store.Reload

A document that a store has read and written back.  It need not look like the
document before: that one may have come from elsewhere, with profiles in any
order, several of one id, values between blanks, and elements that nothing is
read from.  But the store lists the same profiles from it, since those are tidy
and in ascending order (`rosterOf_resaved`), so from the first time on writing
it back changes nothing at all (`resaved_resaved`).
-/

namespace MacConsent.Store.Durable

/-- A document as it is written back: the last profile of each id, in ascending order. -/
def resaved (text : String) : Except Document.Fault String :=
  (Document.read text).map fun ps => Document.write (Roster.ofList ps).toList

/-- A document that was written back any number of times. -/
def resavedTimes : Nat → String → Except Document.Fault String
  | 0, text => .ok text
  | n + 1, text =>
    match resaved text with
    | .error fault => .error fault
    | .ok text => resavedTimes n text

variable {text : String} {ps : List Profile}

/-- The profiles that a store lists are some of those that were read. -/
theorem mem_of_mem_ofList {p : Profile} (h : p ∈ (Roster.ofList ps).toList) : p ∈ ps := by
  rw [Roster.mem_toList_iff, Roster.find?_ofList] at h
  exact List.mem_reverse.1 (List.mem_of_find?_eq_some h)

/-- A store lists an id exactly if a profile of that id was read. -/
theorem mem_ids_ofList (id : NetworkId) :
    id ∈ (Roster.ofList ps).toList.map Profile.id ↔ id ∈ ps.map Profile.id := by
  simp only [List.mem_map]
  constructor
  · rintro ⟨p, hp, rfl⟩
    exact ⟨p, mem_of_mem_ofList hp, rfl⟩
  · rintro ⟨p, hp, rfl⟩
    cases hlast : ps.reverse.find? fun q => q.id == p.id with
    | none =>
        exact absurd (beq_self_eq_true p.id)
          (List.find?_eq_none.1 hlast p (List.mem_reverse.2 hp))
    | some q =>
        have hfound : (Roster.ofList ps).find? p.id = some q := by rw [Roster.find?_ofList, hlast]
        have hid : q.id = p.id := Roster.id_of_find? hfound
        exact ⟨q, Roster.mem_toList_iff.2 (hid ▸ hfound), hid⟩

/-- What a store lists of a document reads back from the document that it writes. -/
theorem read_write_ofList (h : Document.read text = .ok ps) :
    Document.read (Document.write (Roster.ofList ps).toList) = .ok (Roster.ofList ps).toList :=
  Document.read_write_of_tidy fun p hp => Document.tidy_of_read h p (mem_of_mem_ofList hp)

theorem resaved_eq (h : Document.read text = .ok ps) :
    resaved text = .ok (Document.write (Roster.ofList ps).toList) := by
  rw [resaved, h]
  rfl

/-- **A document that was written back is written back as it is.** -/
theorem resaved_resaved (h : Document.read text = .ok ps) :
    resaved (Document.write (Roster.ofList ps).toList) =
      .ok (Document.write (Roster.ofList ps).toList) := by
  rw [resaved_eq (read_write_ofList h), Roster.ofList_toList]

/-- From the first time on, each time gives the same document. -/
theorem resavedTimes_succ (h : Document.read text = .ok ps) (n : Nat) :
    resavedTimes (n + 1) text = .ok (Document.write (Roster.ofList ps).toList) := by
  rw [resavedTimes, resaved_eq h]
  induction n with
  | zero => rfl
  | succ n ih =>
      simp only [resavedTimes, resaved_resaved h]
      exact ih

/-- A store reads the same profiles from a document that was written back any number of times. -/
theorem rosterOf_resaved (h : Document.read text = .ok ps) {n : Nat} {text' : String}
    (hresaved : resavedTimes n text = .ok text') :
    rosterOf (.ok text') = .ok (Roster.ofList ps) := by
  cases n with
  | zero =>
      cases hresaved
      rw [rosterOf, h]
  | succ n =>
      rw [resavedTimes_succ h] at hresaved
      cases hresaved
      rw [rosterOf, read_write_ofList h]
      simp only [Roster.ofList_toList]

/-- **Opening, saving and opening again changes nothing.**  Whatever document a store is opened
on, if profiles are read from it, then the store lists them in ascending order of their ids, the
last profile of each id that was read; what is written from this list reads back as the list; and
however often the document is written back, it stays the same from the first time on, and a store
that is opened on it is the same store. -/
theorem load_resaved (tree : Files.Tree) (path : Files.Path) {text : String} {ps : List Profile}
    (htext : tree.read path = .ok text) (hread : Document.read text = .ok ps) :
    ∃ s b, (load Backing.bench path).run ⟨tree, []⟩ = (.ok s, b) ∧ s.path = path ∧
      s.roster.toList.Pairwise (fun p q => p.id < q.id) ∧
      (∀ id, id ∈ s.roster.toList.map Profile.id ↔ id ∈ ps.map Profile.id) ∧
      (∀ p ∈ s.roster.toList, ps.reverse.find? (fun q => q.id == p.id) = some p) ∧
      Document.read (Document.write s.roster.toList) = .ok s.roster.toList ∧
      ∀ n, ∃ text', resavedTimes n text = .ok text' ∧
        (n = 0 ∨ text' = Document.write s.roster.toList) ∧
        ∀ tree', tree'.read path = .ok text' →
          ∃ b', (load Backing.bench path).run ⟨tree', []⟩ = (.ok s, b') := by
  have hload : ∀ {n text'}, resavedTimes n text = .ok text' → ∀ tree' : Files.Tree,
      tree'.read path = .ok text' →
      (load Backing.bench path).run ⟨tree', []⟩ =
        (.ok ⟨path, .ofList ps⟩, ⟨tree', [.profilesLoaded path (Roster.ofList ps).size]⟩) :=
    fun hresaved tree' htext' => load_run (htext' ▸ rosterOf_resaved hread hresaved)
  refine ⟨⟨path, .ofList ps⟩, _, hload (n := 0) rfl tree htext, rfl, (Roster.ofList ps).ascending,
    mem_ids_ofList, fun p hp => ?_, read_write_ofList hread, fun n => ?_⟩
  · rw [← Roster.find?_ofList]
    exact Roster.mem_toList_iff.1 hp
  · cases n with
    | zero => exact ⟨text, rfl, .inl rfl, fun tree' htext' => ⟨_, hload (n := 0) rfl tree' htext'⟩⟩
    | succ n =>
        have hresaved := resavedTimes_succ hread n
        exact ⟨_, hresaved, .inr rfl, fun tree' htext' => ⟨_, hload hresaved tree' htext'⟩⟩

/-- Profiles with ids in no order, one of them twice, and with blanks around values. -/
def unsorted : List Profile :=
  [{ id := ⟨9, by decide, by decide⟩, ssid := "Bar", security := .unsecured },
    { id := ⟨2, by decide, by decide⟩, ssid := "B&B", security := .wpa2,
      passphrase := some " key " },
    { id := ⟨9, by decide, by decide⟩, ssid := " Cafe ", security := .unsecured,
      passphrase := some " " }]

/-- Of three profiles in a document two are listed, and the document changes once at most. -/
theorem load_resaved_unsorted :
    let tree : Files.Tree := ⟨[(["profiles.xml"], .file (some (Document.write unsorted)))]⟩
    tree.read ⟨"profiles.xml"⟩ = .ok (Document.write unsorted) ∧
    Document.read (Document.write unsorted) = .ok (unsorted.map Profile.kept) ∧
    ∃ s b, (load Backing.bench ⟨"profiles.xml"⟩).run ⟨tree, []⟩ = (.ok s, b) ∧
      s.roster.toList = [unsorted[1].kept, unsorted[2].kept] ∧
      Document.read (Document.write s.roster.toList) = .ok s.roster.toList ∧
      resavedTimes 5 (Document.write unsorted) = .ok (Document.write s.roster.toList) := by
  intro tree
  have hfile : ∀ text : String,
      (Files.Tree.mk [(["profiles.xml"], .file (some text))]).read ⟨"profiles.xml"⟩ = .ok text :=
    fun _ => rfl
  have htext := hfile (Document.write unsorted)
  have hread := Document.read_write unsorted
  obtain ⟨s, b, hload, -, -, -, -, hlist, hstable⟩ :=
    load_resaved tree ⟨"profiles.xml"⟩ htext hread
  obtain ⟨text', hresaved, hzero | rfl, -⟩ := hstable 5
  · cases hzero
  have hs : s.roster = .ofList (unsorted.map Profile.kept) := by
    have hroster : rosterOf (tree.read ⟨"profiles.xml"⟩) =
        .ok (.ofList (unsorted.map Profile.kept)) :=
      htext ▸ rosterOf_resaved hread (n := 0) rfl
    have hsame := hload.symm.trans (load_run (b := ⟨tree, []⟩) hroster)
    rw [Except.ok.inj (Prod.mk.inj hsame).1]
  exact ⟨htext, hread, s, b, hload, hs ▸ rfl, hlist, hresaved⟩

end MacConsent.Store.Durable
