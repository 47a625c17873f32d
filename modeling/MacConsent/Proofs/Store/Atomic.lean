import MacConsent.Proofs.Files.Sound
import MacConsent.Proofs.Store.Change
import MacConsent.Store.Backend

/-!
# MacConsent.Proofs.Store.Atomic

A change of a store is made as a whole or not at all, whatever the files are and
whatever befalls them.  The files of a trial have mishaps: a write or a rename
may fail at any time and for any reason, and a write that fails may leave
something at its path; without mishaps they are the files of a bench
(`agrees_change`).  In a commit the document is drafted beside the old one, and
the draft is renamed.  So if a change succeeds, then the document holds the new
profiles and the draft is gone, and if it fails, then nothing has changed but
what stands at the path of the draft (`change_atomic`).
-/

namespace MacConsent.Store

open Files (Tree)

/-! ## mishaps -/

/-- What can befall a write or a rename. -/
structure Mishap where
  fault : Files.Fault
  /-- What a write has left at its path, if it got that far. -/
  leftover : Option (Option String) := none

/-- A bench, and what befalls the writes and renames to come, in turn. -/
structure Trial where
  bench : Bench
  mishaps : List (Option Mishap) := []

namespace Trial

/-- The files of a trial. -/
def tree (t : Trial) : Tree := t.bench.tree

/-- Uses the files: as on a bench, unless there is a mishap, which leaves the tree `spoilt`. -/
def use (change : Tree → Except Files.Fault Tree) (spoilt : Mishap → Tree → Tree) :
    StateM Trial (Except Files.Fault Unit) := fun t =>
  match t.mishaps.head?.join with
  | some mishap =>
    (.error mishap.fault, ⟨{ t.bench with tree := spoilt mishap t.tree }, t.mishaps.tail⟩)
  | none =>
    let (result, bench) := (Backing.change change).run t.bench
    (result, ⟨bench, t.mishaps.tail⟩)

end Trial

/-- The tree after a mishap of a write: what is left of the file stands at the path, if a file can
stand there. -/
def Mishap.spoil (path : Files.Path) (mishap : Mishap) (t : Tree) : Tree :=
  match mishap.leftover with
  | none => t
  | some content => (t.write path content).toOption.getD t

/-- The operations on files that have mishaps. -/
def Backing.trial : Backing (StateM Trial) where
  read path := fun t => (t.tree.read path, t)
  write path text := Trial.use (fun t => t.write path (some text)) (Mishap.spoil path)
  rename source target := Trial.use (fun t => t.rename source target) fun _ t => t
  trace d := fun t => ((), ⟨{ t.bench with notes := t.bench.notes ++ [d] }, t.mishaps⟩)

namespace Trial

/-- Using the files changes them, or fails and leaves them alone, or it ends in a mishap. -/
theorem use_cases (change : Tree → Except Files.Fault Tree) (spoilt : Mishap → Tree → Tree)
    (t : Trial) :
    ∃ result t', (use change spoilt).run t = (result, t') ∧
      ((result = .ok () ∧ change t.tree = .ok t'.tree) ∨
        ∃ fault, result = .error fault ∧
          (t'.tree = t.tree ∨ ∃ mishap, t'.tree = spoilt mishap t.tree)) := by
  cases hnext : t.mishaps.head?.join with
  | some mishap =>
      refine ⟨.error mishap.fault, ⟨{ t.bench with tree := spoilt mishap t.tree }, t.mishaps.tail⟩,
        ?_, .inr ⟨_, rfl, .inr ⟨mishap, rfl⟩⟩⟩
      simp only [use, StateT.run, hnext]
  | none =>
      cases hchange : change t.tree with
      | error fault =>
          refine ⟨.error fault, ⟨t.bench, t.mishaps.tail⟩, ?_, .inr ⟨fault, rfl, .inl rfl⟩⟩
          rw [tree] at hchange
          simp only [use, Backing.change, StateT.run, hnext, hchange]
      | ok tree =>
          refine ⟨.ok (), ⟨{ t.bench with tree }, t.mishaps.tail⟩, ?_, .inl ⟨rfl, rfl⟩⟩
          rw [Trial.tree] at hchange
          simp only [use, Backing.change, StateT.run, hnext, hchange]

/-- A write may fail, and it may do something even then. -/
theorem write_cases (t : Trial) (path : Files.Path) (text : String) :
    ∃ result t', (Backing.trial.write path text).run t = (result, t') ∧
      ((result = .ok () ∧ t.tree.write path (some text) = .ok t'.tree) ∨
        ∃ fault, result = .error fault ∧
          (t'.tree = t.tree ∨ ∃ content, t.tree.write path content = .ok t'.tree)) := by
  obtain ⟨result, t', hrun, hcases⟩ :=
    use_cases (fun t => t.write path (some text)) (Mishap.spoil path) t
  refine ⟨result, t', hrun, hcases.imp_right fun ⟨fault, hfault, htree⟩ => ⟨fault, hfault, ?_⟩⟩
  rcases htree with hsame | ⟨mishap, hspoilt⟩
  · exact .inl hsame
  · rw [Mishap.spoil] at hspoilt
    split at hspoilt
    · exact .inl hspoilt
    · next content _ =>
        cases hwrite : t.tree.write path content with
        | error fault => exact .inl (by rw [hspoilt, hwrite]; rfl)
        | ok tree => exact .inr ⟨content, by rw [hspoilt, hwrite]; rfl⟩

/-- A rename that fails does nothing. -/
theorem rename_cases (t : Trial) (source target : Files.Path) :
    ∃ result t', (Backing.trial.rename source target).run t = (result, t') ∧
      ((result = .ok () ∧ t.tree.rename source target = .ok t'.tree) ∨
        ∃ fault, result = .error fault ∧ t'.tree = t.tree) := by
  obtain ⟨result, t', hrun, hcases⟩ :=
    use_cases (fun t => t.rename source target) (fun _ t => t) t
  refine ⟨result, t', hrun, hcases.imp_right fun ⟨fault, hfault, htree⟩ => ⟨fault, hfault, ?_⟩⟩
  rcases htree with hsame | ⟨-, hsame⟩ <;> exact hsame

end Trial

/-! ## no mishaps -/

/-- The program does on a trial without mishaps what it does on the bench of the trial. -/
def Agrees {α : Type} (onTrial : StateM Trial α) (onBench : StateM Bench α) : Prop :=
  ∀ b, onTrial.run ⟨b, []⟩ = ((onBench.run b).1, ⟨(onBench.run b).2, []⟩)

/-- What agrees goes on agreeing. -/
theorem Agrees.bind {α β : Type} {onTrial : StateM Trial α} {onBench : StateM Bench α}
    {k : α → StateM Trial β} {k' : α → StateM Bench β} (h : Agrees onTrial onBench)
    (hk : ∀ a, Agrees (k a) (k' a)) : Agrees (onTrial >>= k) (onBench >>= k') := by
  intro b
  rw [StateT.run_bind, StateT.run_bind, h b]
  exact hk (onBench.run b).1 (onBench.run b).2

theorem agrees_pure {α : Type} (a : α) : Agrees (pure a) (pure a) := fun _ => rfl

/-- A write without mishaps is a write on the bench. -/
theorem agrees_write (path : Files.Path) (text : String) :
    Agrees (Backing.trial.write path text) (Backing.bench.write path text) := fun _ => rfl

/-- A rename without mishaps is a rename on the bench. -/
theorem agrees_rename (source target : Files.Path) :
    Agrees (Backing.trial.rename source target) (Backing.bench.rename source target) :=
  fun _ => rfl

/-- **A commit without mishaps is a commit on the bench.** -/
theorem agrees_commit (s : Durable) (next : Roster) :
    Agrees (s.commit Backing.trial next) (s.commit Backing.bench next) := by
  refine (agrees_write _ _).bind fun result => ?_
  cases result with
  | error fault => exact agrees_pure _
  | ok _ =>
      refine (agrees_rename _ _).bind fun result => ?_
      cases result <;> exact agrees_pure _

/-- The observer is told the same. -/
theorem agrees_trace (notes : List Diagnostic) :
    Agrees (notes.forM Backing.trial.trace) (notes.forM Backing.bench.trace) := by
  induction notes with
  | nil => exact agrees_pure ()
  | cons d notes ih =>
      have hfirst : Agrees (Backing.trial.trace d) (Backing.bench.trace d) := fun _ => rfl
      exact hfirst.bind fun _ => ih

/-- **Without mishaps a trial is a bench.** -/
theorem agrees_change (s : Durable) (c : Change) :
    Agrees (c.run Backing.trial s) (c.run Backing.bench s) := by
  rw [Change.run_eq, Change.run_eq]
  cases c.profile? s.roster with
  | error fault => exact agrees_pure _
  | ok p =>
      refine Agrees.bind (agrees_commit s _) fun result => ?_
      cases result with
      | error fault => exact agrees_pure _
      | ok s => exact (agrees_trace c.notes).bind fun _ => agrees_pure _

/-! ## a commit -/

/-- No directory has changed, and nothing else but what stands where the paths lead. -/
structure SameApartFrom (before after : Tree) (paths : List Files.Path) : Prop where
  directories : Tree.SameDirectories before after
  entries : ∀ place, (∀ path ∈ paths, ¬ before.At path place) →
    after.find? place = before.find? place

theorem SameApartFrom.refl (t : Tree) (paths : List Files.Path) : SameApartFrom t t paths :=
  ⟨.refl t, fun _ _ => rfl⟩

/-- A write changes nothing but what stands where its path leads. -/
theorem sameApartFrom_write {t t' : Tree} {path : Files.Path} {content : Option String}
    (h : t.write path content = .ok t') : SameApartFrom t t' [path] := by
  obtain ⟨place, hlocate, -, hdirs, -, hfind⟩ := Tree.write_effect h
  refine ⟨hdirs, fun q hq => ?_⟩
  rw [hfind, if_neg]
  rintro rfl
  exact hq path List.mem_cons_self ⟨false, hlocate⟩

namespace Durable

variable {s : Durable} {t : Trial}

/-- **The draft of a document has another name.** -/
theorem name?_draftPath_ne {path : Files.Path} {name : String} (h : path.name? = some name) :
    (draftPath path).name? ≠ some name :=
  Files.Path.name?_withExtension_ne h (by decide) (by decide)

/-- A draft never stands in the place of the document. -/
theorem draft_not_at {tree : Tree} {path : Files.Path} {place : Files.Place}
    (h : tree.At path place) : ¬ tree.At (draftPath path) place := by
  rintro ⟨_, hdraft⟩
  obtain ⟨_, hpath⟩ := h
  obtain ⟨-, name, hname, hlast⟩ := Tree.locate_named hpath
  obtain ⟨-, name', hname', hlast'⟩ := Tree.locate_named hdraft
  refine name?_draftPath_ne hname ?_
  rw [hname', ← hlast', hlast]

/-- What a commit has done to the files if it succeeds. -/
structure Saved (before after : Tree) (path : Files.Path) (next : Roster) : Prop where
  document : after.read path = .ok (Document.write next.toList)
  draft : after.read (draftPath path) = .error .missing
  others : SameApartFrom before after [path, draftPath path]

/-- **A draft that is written and moved over the document is the new document.** -/
theorem saved_of_write_rename {path : Files.Path} {next : Roster} {before written after : Tree}
    (hsound : before.Sound)
    (hwrite : before.write (draftPath path) (some (Document.write next.toList)) = .ok written)
    (hrename : written.rename (draftPath path) path = .ok after) :
    after.Sound ∧ Saved before after path next := by
  obtain ⟨place, hplace, -, hdirs, hwritten, hfind⟩ := Tree.write_effect hwrite
  obtain ⟨source, content, goal, hsource, hcontent, hgoal, hdirs', hafter, hfind'⟩ :=
    Tree.rename_effect (hwritten hsound) hrename
  obtain rfl : source = place := Tree.At.unique ⟨_, hdirs.locate_iff.1 hsource⟩ ⟨_, hplace⟩
  obtain rfl : content = some (Document.write next.toList) := by
    rw [hfind, if_pos rfl] at hcontent
    cases hcontent
    rfl
  have hgoal' : before.locate path = .ok (.named goal false) := hdirs.locate_iff.1 hgoal
  have hne : source ≠ goal := by
    rintro rfl
    exact draft_not_at ⟨_, hgoal'⟩ ⟨_, hplace⟩
  refine ⟨hafter, ?_, ?_, hdirs.trans hdirs', fun q hq => ?_⟩
  · refine Tree.read_of_file (hdirs'.locate_iff.2 hgoal) ?_
    rw [hfind', if_pos rfl]
  · refine Tree.read_of_nothing (hdirs'.locate_iff.2 hsource) ?_
    rw [hfind', if_neg hne, if_pos rfl]
  · have hgoalq : q ≠ goal := by
      rintro rfl
      exact hq path (by simp) ⟨_, hgoal'⟩
    have hsourceq : q ≠ source := by
      rintro rfl
      exact hq (draftPath path) (by simp) ⟨_, hplace⟩
    rw [hfind', if_neg hgoalq, if_neg hsourceq, hfind, if_neg hsourceq]

/-- **A commit is made as a whole or not at all.** -/
theorem commit_trial (s : Durable) (next : Roster) (t : Trial) (hsound : t.tree.Sound) :
    ∃ result t', (s.commit Backing.trial next).run t = (result, t') ∧ t'.tree.Sound ∧
      ((result = .ok { s with roster := next } ∧ Saved t.tree t'.tree s.path next) ∨
        ∃ fault, result = .error fault ∧ SameApartFrom t.tree t'.tree [draftPath s.path]) := by
  obtain ⟨written, t₁, hwrite, hwritten⟩ :=
    t.write_cases (draftPath s.path) (Document.write next.toList)
  rw [commit, StateT.run_bind, hwrite]
  rcases hwritten with ⟨rfl, htree⟩ | ⟨fault, rfl, hsame | ⟨content, htree⟩⟩
  · obtain ⟨renamed, t₂, hrename, hrenamed⟩ := t₁.rename_cases (draftPath s.path) s.path
    change ∃ result t', StateT.run (Backing.trial.rename (draftPath s.path) s.path >>= _) t₁ =
      (result, t') ∧ _
    rw [StateT.run_bind, hrename]
    rcases hrenamed with ⟨rfl, htree'⟩ | ⟨fault, rfl, hsame⟩
    · obtain ⟨hafter, hsaved⟩ := saved_of_write_rename hsound htree htree'
      exact ⟨_, t₂, rfl, hafter, .inl ⟨rfl, hsaved⟩⟩
    · obtain ⟨place, -, -, -, hsound', -⟩ := Tree.write_effect htree
      exact ⟨_, t₂, rfl, hsame ▸ hsound' hsound, .inr ⟨_, rfl, hsame ▸ sameApartFrom_write htree⟩⟩
  · exact ⟨_, t₁, rfl, hsame ▸ hsound, .inr ⟨_, rfl, hsame ▸ .refl _ _⟩⟩
  · obtain ⟨place, -, -, -, hsound', -⟩ := Tree.write_effect htree
    exact ⟨_, t₁, rfl, hsound' hsound, .inr ⟨_, rfl, sameApartFrom_write htree⟩⟩

/-- A change that the profiles allow is a commit of the profile that it puts in. -/
theorem change_trial {c : Change} {p : Profile} (hsound : t.tree.Sound)
    (hp : c.profile? s.roster = .ok p) :
    ∃ result t', (c.run Backing.trial s).run t = (result, t') ∧ t'.tree.Sound ∧
      ((result = .ok { s with roster := s.roster.insert p } ∧
          Saved t.tree t'.tree s.path (s.roster.insert p)) ∨
        ∃ fault, result = .error fault ∧ SameApartFrom t.tree t'.tree [draftPath s.path]) := by
  obtain ⟨result, t₁, hcommit, hafter, hcases⟩ := s.commit_trial (s.roster.insert p) t hsound
  obtain ⟨t₂, hrun, htree⟩ :=
    Change.run_of_commit Trial.tree (fun _ _ => rfl) hp hcommit
  rw [← htree] at hafter hcases
  exact ⟨result, t₂, hrun, hafter, hcases⟩

/-- Where only the draft has changed, the document has not. -/
theorem find?_document {before after : Tree} {path : Files.Path}
    (h : SameApartFrom before after [draftPath path]) {place : Files.Place}
    (hplace : before.At path place) : after.find? place = before.find? place := by
  refine h.entries place fun q hq => ?_
  rw [List.mem_singleton.1 hq]
  exact draft_not_at hplace

/-- A change of the draft is none of the document. -/
theorem read_document_iff {before after : Tree} {path : Files.Path}
    (h : SameApartFrom before after [draftPath path]) (text : String) :
    after.read path = .ok text ↔ before.read path = .ok text := by
  rw [Tree.read_eq_ok_iff, Tree.read_eq_ok_iff]
  refine exists_congr fun place => ?_
  rw [h.directories.locate_iff]
  refine and_congr_right fun hlocate => ?_
  rw [find?_document h ⟨_, hlocate⟩]

/-- **A change is made as a whole or not at all**, whatever the files are and whatever befalls
them.  If it succeeds, then the document holds exactly the profiles that the store then lists, the
draft is gone, and all else is as before.  If it fails, then the store lists what it listed before,
and all is as before but what stands at the path of the draft, which is never the place of the
document; if it is the profiles that do not allow it, then nothing at all has changed. -/
theorem change_atomic (s : Durable) (c : Change) (t : Trial) (hsound : t.tree.Sound) :
    (∀ name, s.path.name? = some name → (draftPath s.path).name? ≠ some name) ∧
    ∃ result t', (c.run Backing.trial s).run t = (result, t') ∧ t'.tree.Sound ∧
      (∀ fault, c.profile? s.roster = .error fault → result = .error fault ∧ t' = t) ∧
      match Backend.after s result with
      | (.ok (), live) =>
        (∃ p, c.profile? s.roster = .ok p ∧
          live = .durable { s with roster := s.roster.insert p }) ∧
        t'.tree.read s.path = .ok (Document.write live.roster.toList) ∧
        t'.tree.read (draftPath s.path) = .error .missing ∧
        SameApartFrom t.tree t'.tree [s.path, draftPath s.path]
      | (.error _, live) =>
        live.roster.toList = s.roster.toList ∧
        SameApartFrom t.tree t'.tree [draftPath s.path] ∧
        (∀ place, t.tree.At s.path place → t'.tree.find? place = t.tree.find? place) ∧
        ∀ text, t'.tree.read s.path = .ok text ↔ t.tree.read s.path = .ok text := by
  refine ⟨fun name => name?_draftPath_ne, ?_⟩
  cases hp : c.profile? s.roster with
  | error fault =>
      exact ⟨_, t, Change.run_refused hp t, hsound, fun _ h => ⟨by cases h; rfl, rfl⟩, rfl, .refl _ _,
        fun _ _ => rfl, fun _ => Iff.rfl⟩
  | ok p =>
      obtain ⟨result, t', hrun, hafter, hcases⟩ := change_trial hsound hp
      refine ⟨result, t', hrun, hafter, fun _ h => (nomatch h), ?_⟩
      rcases hcases with ⟨rfl, hsaved⟩ | ⟨fault, rfl, hsame⟩
      · exact ⟨⟨p, rfl, rfl⟩, hsaved.document, hsaved.draft, hsaved.others⟩
      · exact ⟨rfl, hsame, fun _ => find?_document hsame, read_document_iff hsame⟩

/-- A store of one network in a directory. -/
def homeStore : Durable :=
  ⟨⟨"sub/profiles.xml"⟩,
    .ofList [{ id := .first, ssid := "Home", security := .wpa2, enabled := false }]⟩

/-- The disk of that store. -/
def homeDisk : Trial where
  bench := ⟨⟨[(["sub"], .directory), (["sub", "profiles.xml"], .file (some "old"))]⟩, []⟩

/-- The same disk, full when the draft is to be renamed. -/
def fullDisk : Trial := { homeDisk with mishaps := [none, some { fault := .refused 28 }] }

/-- A change that succeeds replaces the document, and a rename that fails leaves the old one. -/
theorem change_atomic_fullDisk :
    fullDisk.tree.Sound ∧
    (∃ live t', ((Change.enable .first 1000).run Backing.trial homeStore).run homeDisk =
        (.ok live, t') ∧
      (∃ p, live.roster.find? .first = some p ∧ p.enabled = true) ∧
      t'.tree.read homeStore.path = .ok (Document.write live.roster.toList) ∧
      t'.tree.read (draftPath homeStore.path) = .error .missing) ∧
    ∃ t', ((Change.enable .first 1000).run Backing.trial homeStore).run fullDisk =
        (.error (.files (.refused 28)), t') ∧
      t'.tree.find? ["sub", "profiles.xml"] = some (.file (some "old")) ∧
      ∀ place, ¬ fullDisk.tree.At (draftPath homeStore.path) place →
        t'.tree.find? place = fullDisk.tree.find? place := by
  have hmade : (Tree.mk []).makeDirectory ⟨"sub"⟩ = .ok ⟨[(["sub"], .directory)]⟩ := rfl
  have hwritten : (Tree.mk [(["sub"], .directory)]).write homeStore.path (some "old") =
      .ok fullDisk.tree := rfl
  have hsound : fullDisk.tree.Sound := by
    obtain ⟨-, -, -, -, hwrite, -⟩ := Tree.write_effect hwritten
    exact hwrite (Tree.sound_empty.makeDirectory hmade)
  refine ⟨hsound, ?_, ?_⟩
  · have hsucceeds : (((Change.enable .first 1000).run Backing.trial homeStore).run homeDisk).1 =
        .ok ⟨homeStore.path,
          homeStore.roster.insert { id := .first, ssid := "Home", security := .wpa2 }⟩ := rfl
    obtain ⟨-, result, t', hrun, -, -, hresult⟩ :=
      change_atomic homeStore (.enable .first 1000) homeDisk hsound
    rw [hrun] at hsucceeds
    obtain rfl : result = _ := hsucceeds
    obtain ⟨-, hread, hdraft, -⟩ := hresult
    exact ⟨_, t', hrun, ⟨_, rfl, rfl⟩, hread, hdraft⟩
  · have hfails : (((Change.enable .first 1000).run Backing.trial homeStore).run fullDisk).1 =
        .error (.files (.refused 28)) := rfl
    have hplace : fullDisk.tree.locate homeStore.path =
        .ok (.named ["sub", "profiles.xml"] false) := rfl
    obtain ⟨-, result, t', hrun, -, -, hresult⟩ :=
      change_atomic homeStore (.enable .first 1000) fullDisk hsound
    rw [hrun] at hfails
    obtain rfl : result = .error (.files (.refused 28)) := hfails
    obtain ⟨-, hsame, hdocument, -⟩ := hresult
    refine ⟨t', hrun, hdocument _ ⟨_, hplace⟩, fun place hdraft => ?_⟩
    refine hsame.entries place fun path hpath => ?_
    rwa [List.mem_singleton.1 hpath]

end Durable

end MacConsent.Store
