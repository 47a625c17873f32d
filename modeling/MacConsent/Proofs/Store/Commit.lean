import MacConsent.Proofs.Files.Tree
import MacConsent.Proofs.Store.Change

/-!
# MacConsent.Proofs.Store.Commit

What the changes of a durable store do on a bench.  Whatever the files are, a
change that succeeds leads to a store of the same path with one profile put in
(`change_cases`).  Where files can be put, a commit succeeds and leaves the new
profiles in the document (`commit_ok`), so a change fails only by what it checks
before (`change_granted`).
-/

namespace MacConsent.Store

/-! ## the operations on a bench -/

namespace Backing

variable (b : Bench) (path target : Files.Path)

theorem bench_read : (bench.read path).run b = (b.tree.read path, b) := rfl

theorem bench_write (text : String) :
    (bench.write path text).run b =
      match b.tree.write path (some text) with
      | .error fault => (.error fault, b)
      | .ok tree => (.ok (), { b with tree }) := rfl

theorem bench_rename :
    (bench.rename path target).run b =
      match b.tree.rename path target with
      | .error fault => (.error fault, b)
      | .ok tree => (.ok (), { b with tree }) := rfl

theorem forM_trace_bench (notes : List Diagnostic) (b : Bench) :
    (notes.forM bench.trace).run b = ((), { b with notes := b.notes ++ notes }) := by
  induction notes generalizing b with
  | nil =>
      rw [List.append_nil]
      rfl
  | cons d notes ih =>
      have hcons : ((d :: notes).forM bench.trace).run b =
          (notes.forM bench.trace).run { b with notes := b.notes ++ [d] } := rfl
      rw [hcons, ih, List.append_assoc, List.singleton_append]

end Backing

namespace Durable

variable {s s' : Durable} {b : Bench} {c : Change} {p : Profile} {id : NetworkId}

/-! ## a commit -/

theorem commit_run (s : Durable) (next : Roster) (b : Bench) :
    (commit Backing.bench s next).run b =
      match b.tree.write (draftPath s.path) (some (Document.write next.toList)) with
      | .error fault => (.error (.files fault), b)
      | .ok written =>
        match written.rename (draftPath s.path) s.path with
        | .error fault => (.error (.files fault), { b with tree := written })
        | .ok renamed => (.ok { s with roster := next }, { b with tree := renamed }) := by
  unfold commit
  generalize Document.write next.toList = text
  generalize draftPath s.path = draft
  rw [StateT.run_bind, Backing.bench_write]
  cases b.tree.write draft (some text) with
  | error fault => rfl
  | ok written =>
      change StateT.run (Backing.bench.rename draft s.path >>= _) { b with tree := written } = _
      rw [StateT.run_bind, Backing.bench_rename]
      dsimp only
      cases written.rename draft s.path with
      | error fault => rfl
      | ok renamed => rfl

/-- A commit that succeeds gives the store the new profiles, and nothing else. -/
theorem commit_cases {next : Roster} (h : ((commit Backing.bench s next).run b).1 = .ok s') :
    s' = { s with roster := next } := by
  rw [commit_run] at h
  split at h
  · cases h
  · split at h
    · cases h
    · cases h; rfl

/-- Files can be put where a store keeps its document and where it drafts a new one. -/
structure Writable (tree : Files.Tree) (path : Files.Path) : Prop where
  draft : tree.IsFileSpot (draftPath path)
  document : tree.IsFileSpot path

/-- Before anything was written, the document of the usual path can be. -/
theorem writable_defaultPath : Writable {} defaultPath :=
  ⟨⟨["profiles.xml.tmp"], rfl, nofun⟩, ⟨["profiles.xml"], rfl, nofun⟩⟩

/-- So can it be where there is only the document. -/
theorem Writable.of_document (text : String) :
    Writable ⟨[(["profiles.xml"], .file (some text))]⟩ defaultPath where
  draft := ⟨["profiles.xml.tmp"], rfl, nofun⟩
  document := ⟨["profiles.xml"], rfl, nofun⟩

/-- **Where files can be put, a commit succeeds**: the document then holds the new profiles, and
files can still be put there. -/
theorem commit_ok (hfiles : Writable b.tree s.path) (next : Roster) :
    ∃ tree, (commit Backing.bench s next).run b = (.ok { s with roster := next }, { b with tree }) ∧
      Writable tree s.path ∧ tree.read s.path = .ok (Document.write next.toList) := by
  obtain ⟨written, renamed, hwrite, hrename, hread, hdraft, hdocument⟩ :=
    Files.Tree.write_rename hfiles.draft hfiles.document (Document.write next.toList)
  refine ⟨renamed, ?_, ⟨hdraft, hdocument⟩, hread⟩
  rw [commit_run, hwrite]
  simp only [hrename]

/-! ## changes -/

/-- A change that succeeds puts in one profile. -/
theorem change_cases (h : ((c.run Backing.bench s).run b).1 = .ok s') :
    ∃ p, c.profile? s.roster = .ok p ∧ s' = { s with roster := s.roster.insert p } := by
  cases hp : c.profile? s.roster with
  | error fault => rw [Change.run_refused hp] at h; cases h
  | ok p =>
      cases hcommit : (commit Backing.bench s (s.roster.insert p)).run b with
      | mk result b' =>
          obtain ⟨_, hrun, -⟩ := Change.run_of_commit Bench.tree (fun _ _ => rfl) hp hcommit
          rw [hrun] at h
          exact ⟨p, rfl, commit_cases ((congrArg Prod.fst hcommit).trans h)⟩

/-- **Where files can be put, a change that the profiles allow is made**, and the observer is told
of it. -/
theorem change_granted (hfiles : Writable b.tree s.path) (hp : c.profile? s.roster = .ok p) :
    ∃ tree, (c.run Backing.bench s).run b =
        (.ok { s with roster := s.roster.insert p }, ⟨tree, b.notes ++ c.notes⟩) ∧
      Writable tree s.path ∧
      tree.read s.path = .ok (Document.write (s.roster.insert p).toList) := by
  obtain ⟨tree, hcommit, hsaved⟩ := commit_ok hfiles (s.roster.insert p)
  refine ⟨tree, ?_, hsaved⟩
  simp only [Change.run_eq, hp, StateT.run_bind, hcommit]
  change StateT.run (c.notes.forM Backing.bench.trace >>= _) { b with tree } = _
  rw [StateT.run_bind, Backing.forM_trace_bench]
  rfl

/-- Where files can be put, a change fails by what the profiles do not allow only. -/
theorem change_ok (hfiles : Writable b.tree s.path) (hp : c.profile? s.roster = .ok p) :
    ∃ b', (c.run Backing.bench s).run b = (.ok { s with roster := s.roster.insert p }, b') ∧
      Writable b'.tree s.path ∧
      b'.tree.read s.path = .ok (Document.write (s.roster.insert p).toList) :=
  let ⟨tree, hrun, hsaved⟩ := change_granted hfiles hp
  ⟨⟨tree, b.notes ++ c.notes⟩, hrun, hsaved⟩

theorem add_run (p : Profile) (hfree : s.roster.freeId = .ok id) :
    (s.add Backing.bench p).run b =
      match (commit Backing.bench s (s.roster.insert { p with id })).run b with
      | (.error fault, b) => (.error fault, b)
      | (.ok s, b) => (.ok (id, s), b) := by
  rw [add, hfree]
  change StateT.run (commit Backing.bench s (s.roster.insert { p with id }) >>= _) b = _
  rw [StateT.run_bind]
  obtain ⟨_ | _, _⟩ := (commit Backing.bench s (s.roster.insert { p with id })).run b <;> rfl

/-- A profile that was added stands under the id that was free, and this is the id that is
given. -/
theorem add_cases (h : ((s.add Backing.bench p).run b).1 = .ok (id, s')) :
    s.roster.freeId = .ok id ∧ s' = { s with roster := s.roster.insert { p with id } } := by
  cases hfree : s.roster.freeId with
  | error last => rw [add, hfree] at h; cases h
  | ok free =>
      rw [add_run p hfree] at h
      split at h
      · cases h
      · next hcommit =>
          cases h
          exact ⟨rfl, commit_cases (congrArg Prod.fst hcommit)⟩

end Durable

end MacConsent.Store
