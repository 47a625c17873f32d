import MacConsent.Proofs.Document.Tidy
import MacConsent.Proofs.Store.Commit
import MacConsent.Proofs.Store.Roster

/-!
# MacConsent.Proofs.Store.Durability

What survives a restart.  Over files that can be put, the document of a store
always reads back as what a document keeps of the store's roster (`Faithful`);
every operation preserves this, whether it succeeds or fails.  So a store that
is opened again lists the profiles of the live one as a document keeps them:
all of them are there, but a name or a passphrase with blanks at its ends comes
back without them, and an empty passphrase does not come back at all.
-/

namespace MacConsent

namespace Store

theorem Roster.kept_kept (r : Roster) : r.kept.kept = r.kept := by
  apply Roster.ext_toList
  simp [Roster.kept, Profile.kept_kept]

/-- A document keeps a roster whole exactly if it keeps every profile whole. -/
theorem Roster.toList_kept_eq_iff (r : Roster) :
    r.kept.toList = r.toList ↔ ∀ p ∈ r.toList, p.Tidy := by
  have hmap : r.toList.map Profile.kept = r.toList.map id ↔ ∀ p ∈ r.toList, p.kept = id p :=
    List.map_inj_left
  simp only [← Profile.kept_eq_self_iff]
  rwa [List.map_id] at hmap

namespace Durable

/-! ## the document of a store -/

/-- The document of a store can be written, and it reads back as what a document keeps of the
store's roster. -/
structure Faithful (tree : Files.Tree) (s : Durable) : Prop where
  files : Writable tree s.path
  saved : rosterOf (tree.read s.path) = .ok s.roster.kept

theorem rosterOf_write (r : Roster) :
    rosterOf (.ok (Document.write r.toList)) = .ok r.kept := by
  have hread := r.read_write
  rw [rosterOf]
  cases h : Document.read (Document.write r.toList) with
  | error fault => rw [h] at hread; cases hread
  | ok ps =>
      rw [h] at hread
      exact congrArg Except.ok (Except.ok.inj hread)

variable {s : Durable} {b : Bench}

theorem load_run {path : Files.Path} {r : Roster} (h : rosterOf (b.tree.read path) = .ok r) :
    (load Backing.bench path).run b =
      (.ok ⟨path, r⟩, { b with notes := b.notes ++ [.profilesLoaded path r.size] }) := by
  rw [load, StateT.run_bind, Backing.bench_read]
  dsimp only [bind, Id.run]
  rw [h]
  rfl

/-- A change leaves a store of the same path, and a document that it can be read from. -/
theorem change_faithful (c : Change) (h : Faithful b.tree s) :
    ∃ s' b', (do return (← c.run Backing.bench s).toOption.getD s : StateM Bench Durable).run b =
        (s', b') ∧ s'.path = s.path ∧ Faithful b'.tree s' := by
  rw [StateT.run_bind]
  cases hp : c.profile? s.roster with
  | error fault =>
      rw [Change.run_refused hp]
      exact ⟨s, b, rfl, rfl, h⟩
  | ok p =>
      obtain ⟨b', hrun, hfiles, hread⟩ := change_ok h.files hp
      rw [hrun]
      exact ⟨_, b', rfl, rfl, hfiles, hread ▸ rosterOf_write _⟩

/-! ## histories -/

/-- What a store can be asked for. -/
inductive Op
  /-- The document is read again. -/
  | reopen
  | add (p : Profile)
  | update (p : Profile) (uid : Uid)
  | enable (id : NetworkId) (uid : Uid)
deriving DecidableEq

/-- The store after an operation; one that fails leaves it as it was. -/
def Op.apply (s : Durable) : Op → StateM Bench Durable
  | .reopen => do return (← load Backing.bench s.path).toOption.getD s
  | .add p => do return ((← s.add Backing.bench p).map Prod.snd).toOption.getD s
  | .update p uid => do return (← s.update Backing.bench p uid).toOption.getD s
  | .enable id uid => do return (← s.enable Backing.bench id uid).toOption.getD s

/-- The store after one operation after another. -/
def history (s : Durable) : List Op → StateM Bench Durable
  | [] => return s
  | op :: ops => do (← op.apply s).history ops

theorem Op.apply_reopen (h : Faithful b.tree s) :
    (Op.reopen.apply s).run b =
      ({ s with roster := s.roster.kept },
        { b with notes := b.notes ++ [.profilesLoaded s.path s.roster.kept.size] }) := by
  change StateT.run (load Backing.bench s.path >>= _) b = _
  rw [StateT.run_bind, load_run h.saved]
  rfl

/-- An operation leaves a store of the same path, and a document that it can be read from. -/
theorem Op.apply_faithful (op : Op) (h : Faithful b.tree s) :
    ∃ s' b', (op.apply s).run b = (s', b') ∧ s'.path = s.path ∧ Faithful b'.tree s' := by
  cases op with
  | reopen =>
      refine ⟨_, _, Op.apply_reopen h, rfl, h.files, ?_⟩
      rw [Roster.kept_kept]
      exact h.saved
  | add p =>
      have hadd : Op.apply s (.add p) =
          do return (← (Change.add p).run Backing.bench s).toOption.getD s := by
        simp [Op.apply, Change.run]
      rw [hadd]
      exact change_faithful (.add p) h
  | update p uid => exact change_faithful (.update p uid) h
  | enable id uid => exact change_faithful (.enable id uid) h

/-- **So does a history**: a store can be read from its document at any time. -/
theorem history_faithful (ops : List Op) (h : Faithful b.tree s) :
    ∃ s' b', (s.history ops).run b = (s', b') ∧ s'.path = s.path ∧ Faithful b'.tree s' := by
  induction ops generalizing s b with
  | nil => exact ⟨s, b, rfl, rfl, h⟩
  | cons op ops ih =>
      obtain ⟨s', b', hrun, hpath, hfaithful⟩ := op.apply_faithful h
      obtain ⟨s'', b'', hrest, hpath', hfaithful'⟩ := ih hfaithful
      refine ⟨s'', b'', ?_, hpath'.trans hpath, hfaithful'⟩
      rw [history, StateT.run_bind, hrun]
      exact hrest

/-! ## restarts -/

/-- Where there is no document yet, the store that is opened is empty. -/
theorem load_missing {tree : Files.Tree} {path : Files.Path} (hfiles : Writable tree path)
    (hmissing : tree.read path = .error .missing) :
    ∃ b, (load Backing.bench path).run ⟨tree, []⟩ = (.ok ⟨path, .empty⟩, b) ∧
      Faithful b.tree ⟨path, .empty⟩ := by
  have hroster : rosterOf (tree.read path) = .ok .empty := by rw [hmissing]; rfl
  exact ⟨_, load_run hroster, hfiles, hroster⟩

/-- **What a restart keeps.**  A store is opened where there is no document yet, and it is asked
for one thing after another; files can be put at its path and beside it.  A store that is opened
there afterwards lists every profile of the live one as a document keeps it, and so the lists are
equal exactly if all the live profiles are tidy. -/
theorem reopened_eq_live_iff_tidy (tree : Files.Tree) (path : Files.Path)
    (hdraft : tree.IsFileSpot (draftPath path)) (hdocument : tree.IsFileSpot path)
    (hmissing : tree.read path = .error .missing) (ops : List Op) :
    ∃ opened live reopened b b' b'',
      (load Backing.bench path).run ⟨tree, []⟩ = (.ok opened, b) ∧
      (opened.history ops).run b = (live, b') ∧
      (load Backing.bench path).run b' = (.ok reopened, b'') ∧
      reopened.roster.toList = live.roster.toList.map Profile.kept ∧
      (reopened.roster.toList = live.roster.toList ↔
        ∀ p ∈ live.roster.toList,
          Text.trimmed p.ssid = p.ssid ∧ ∀ k ∈ p.passphrase, k ≠ "" ∧ Text.trimmed k = k) := by
  obtain ⟨b, hopen, hfaithful⟩ := load_missing ⟨hdraft, hdocument⟩ hmissing
  obtain ⟨live, b', hhistory, hpath, hsaved⟩ := history_faithful ops hfaithful
  have hreopen : rosterOf (b'.tree.read path) = .ok live.roster.kept := by
    rw [← hsaved.saved, hpath]
  exact ⟨_, live, ⟨path, live.roster.kept⟩, b, b', _, hopen, hhistory, load_run hreopen, rfl,
    live.roster.toList_kept_eq_iff⟩

/-- A name with a blank in front is saved, and comes back as another one. -/
theorem reopened_ne_live_of_blank :
    let cafe : Profile := { id := .first, ssid := " Cafe", security := .unsecured }
    ∃ opened live reopened b b' b'',
      (load Backing.bench ⟨"profiles.xml"⟩).run ⟨{}, []⟩ = (.ok opened, b) ∧
      (opened.history [.add cafe]).run b = (live, b') ∧
      (load Backing.bench ⟨"profiles.xml"⟩).run b' = (.ok reopened, b'') ∧
      live.roster.toList = [cafe] ∧ reopened.roster.toList ≠ live.roster.toList := by
  intro cafe
  obtain ⟨opened, live, reopened, b, b', b'', hopen, hhistory, hreopen, -, htidy⟩ :=
    reopened_eq_live_iff_tidy {} ⟨"profiles.xml"⟩ ⟨["profiles.xml.tmp"], rfl, nofun⟩
      ⟨["profiles.xml"], rfl, nofun⟩ rfl [.add cafe]
  have hlive : live.roster.toList = [cafe] := by
    obtain ⟨hopened, rfl⟩ := Prod.mk.inj hopen
    obtain rfl := Except.ok.inj hopened
    exact (congrArg (fun after => after.1.roster.toList) hhistory).symm
  refine ⟨opened, live, reopened, b, b', b'', hopen, hhistory, hreopen, hlive, fun heq => ?_⟩
  have hblank : Text.trimmed " Cafe" = " Cafe" :=
    (htidy.1 heq cafe (hlive ▸ List.mem_singleton_self cafe)).1
  exact absurd hblank (by decide)

end Durable

end Store

end MacConsent
