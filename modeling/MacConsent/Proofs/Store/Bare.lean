import Mathlib.Data.List.Forall2
import MacConsent.Proofs.Files.Alike
import MacConsent.Proofs.Store.Atomic
import MacConsent.Proofs.Store.Series

/-!
# MacConsent.Proofs.Store.Bare

Stores without the passphrases of their profiles.  No operation of a store looks
at a passphrase, so each does to a bare store what it does to the store itself
(`Change.profile?_bare`, `Memory.update_bare`).  A document does hold the
passphrases; but two stores that are bare alike go through the same writes and
renames, so with the same mishaps they come to the same (`twins_ask`), and their
files differ in passphrases only (`ContentAlike`).
-/

namespace MacConsent

/-- The profile without its passphrase. -/
def Profile.bare (p : Profile) : Profile := { p with passphrase := none }

/-- What does not look at passphrases is the same for profiles that are bare alike. -/
theorem Profile.eq_of_bare {α : Type} {f : Profile → α} (hf : ∀ p, f p.bare = f p) {p p' : Profile}
    (h : p.bare = p'.bare) : f p = f p' := by
  rw [← hf p, h, hf p']

namespace Store

open Files (Tree)

/-! ## rosters -/

/-- What keeps ids commutes with putting a profile in its place. -/
theorem map_insertProfile {f : Profile → Profile} (hf : ∀ p, (f p).id = p.id) (p : Profile)
    (ps : List Profile) : (insertProfile p ps).map f = insertProfile (f p) (ps.map f) := by
  induction ps with
  | nil => rfl
  | cons q qs ih =>
      simp only [insertProfile, List.map_cons, hf]
      split
      · rfl
      · split
        · rw [List.map_cons, ih]
        · rfl

namespace Roster

/-- The roster without passphrases. -/
def bare (r : Roster) : Roster := r.map Profile.bare fun _ => rfl

variable (r : Roster)

theorem id_bare (p : Profile) : p.bare.id = p.id := rfl

/-- Where a profile is put does not depend on passphrases. -/
theorem bare_insert (p : Profile) : (r.insert p).bare = r.bare.insert p.bare :=
  ext_toList (map_insertProfile id_bare p r.toList)

/-- What is erased does not depend on passphrases. -/
theorem bare_erase (id : NetworkId) : (r.erase id).bare = r.bare.erase id := by
  refine ext_toList ?_
  simp only [bare, map, erase, List.filter_map]
  rfl

/-- Looking up a profile without its passphrase. -/
theorem find?_bare (id : NetworkId) : r.bare.find? id = (r.find? id).map Profile.bare :=
  r.find?_map id_bare id

/-- The next id does not depend on passphrases. -/
theorem freeId_bare : r.bare.freeId = r.freeId := by
  have hlast : r.bare.lastId? = r.lastId? := by
    simp [lastId?, bare, map, Function.comp_def, id_bare]
  rw [freeId, freeId, hlast]

end Roster

/-! ## stores -/

/-- The store without passphrases. -/
def Memory.bare (s : Memory) : Memory := { s with roster := s.roster.bare }

/-- The store without passphrases. -/
def Durable.bare (s : Durable) : Durable := { s with roster := s.roster.bare }

/-- The store without passphrases. -/
def Backend.bare : Backend → Backend
  | .memory s => .memory s.bare
  | .durable s => .durable s.bare

/-- The change without a passphrase. -/
def Change.bare : Change → Change
  | .add p => .add p.bare
  | .update p uid => .update p.bare uid
  | .enable id uid => .enable id uid

theorem Backend.find?_bare (s : Backend) (id : NetworkId) :
    s.bare.find? id = (s.find? id).map Profile.bare := by
  cases s with
  | memory s => exact s.roster.find?_bare id
  | durable s => exact s.roster.find?_bare id

theorem Memory.insert_bare (s : Memory) (p : Profile) :
    s.bare.insert p.bare = (s.insert p).bare := by
  rw [insert, insert, bare, bare, s.roster.bare_insert]

/-- Whether an update finds its profile does not depend on passphrases. -/
theorem Memory.update_bare (s : Memory) (p : Profile) :
    s.bare.update p.bare = ((s.update p).1, (s.update p).2.bare) := by
  obtain ⟨roster, mode, failEnable, updates, enables⟩ := s
  cases mode with
  | apply => simp [update, bare, insert, Roster.bare_insert]
  | ignore => rfl
  | reject => rfl
  | remove => simp [update, bare, Roster.bare_erase, Profile.bare]

/-- Whether a profile can be enabled does not depend on passphrases. -/
theorem Memory.enable_bare (s : Memory) (id : NetworkId) :
    s.bare.enable id = ((s.enable id).1, (s.enable id).2.bare) := by
  have hfound := s.roster.find?_bare id
  obtain ⟨roster, mode, failEnable, updates, enables⟩ := s
  cases failEnable with
  | true => rfl
  | false =>
      cases hp : roster.find? id with
      | none =>
          simp only [hp] at hfound
          simp [enable, bare, hfound, hp]
      | some p =>
          simp only [hp] at hfound
          simp [enable, bare, hfound, hp, insert, Roster.bare_insert, Profile.bare]

/-- A change is refused for reasons that passphrases are not among. -/
theorem Change.profile?_bare (c : Change) (r : Roster) :
    c.bare.profile? r.bare = (c.profile? r).map Profile.bare := by
  cases c with
  | add p =>
      simp only [bare, profile?, r.freeId_bare]
      cases r.freeId <;> rfl
  | update p uid =>
      have hfound := r.find?_bare p.id
      by_cases hname : p.ssid = ""
      · simp [bare, profile?, Profile.bare, hname, Except.map]
      · cases hq : r.find? p.id <;>
          simp [bare, profile?, Profile.bare, hname, hfound, hq, Except.map]
  | enable id uid =>
      have hfound := r.find?_bare id
      cases hq : r.find? id <;> simp [bare, profile?, hfound, hq, Except.map, Profile.bare]

/-- A change tells the observer nothing of a passphrase. -/
theorem Change.notes_bare (c : Change) : c.bare.notes = c.notes := by
  cases c <;> rfl

theorem Change.given_bare (c : Change) (p : Profile) : c.bare.given p.bare = c.given p := by
  cases c <;> rfl

/-- Without mishaps a change gives back on a trial what it gives back on a bench. -/
theorem agrees_ask (s : Durable) (c : Change) :
    Agrees (c.ask Backing.trial s) (c.ask Backing.bench s) := by
  rw [Change.ask_eq, Change.ask_eq]
  cases c.profile? s.roster with
  | error fault => exact agrees_pure _
  | ok p =>
      refine Agrees.bind (agrees_commit s _) fun result => ?_
      cases result with
      | error fault => exact agrees_pure _
      | ok s => exact (agrees_trace c.notes).bind fun _ => agrees_pure _

/-! ## files -/

/-- What may stand in the same file of two trees: the same, or documents of profiles that are bare
alike, whether they were written to the end or not, or texts from outside, as far as they may differ
(`G`). -/
inductive ContentAlike (G : String → String → Prop) : Option String → Option String → Prop
  | same (content : Option String) : ContentAlike G content content
  | document {ps ps' : List Profile} (h : ps.map Profile.bare = ps'.map Profile.bare) :
      ContentAlike G (some (Document.write ps)) (some (Document.write ps'))
  | draft {ps ps' : List Profile} (h : ps.map Profile.bare = ps'.map Profile.bare)
      {text text' : String} (htext : text.toList <+: (Document.write ps).toList)
      (htext' : text'.toList <+: (Document.write ps').toList) :
      ContentAlike G (some text) (some text')
  | given {text text' : String} (h : G text text') : ContentAlike G (some text) (some text')

variable {G : String → String → Prop}

/-- Rosters that differ in passphrases have documents that are counted as alike. -/
theorem contentAlike_write {r r' : Roster} (h : r.bare = r'.bare) :
    ContentAlike G (some (Document.write r.toList)) (some (Document.write r'.toList)) :=
  .document (congrArg Roster.toList h)

/-- Mishaps that fail for the same reason. -/
structure Mishap.Alike (G : String → String → Prop) (m m' : Mishap) : Prop where
  fault : m.fault = m'.fault
  leftover : Option.Rel (ContentAlike G) m.leftover m'.leftover

/-- A mishap is like itself. -/
theorem alike_mishap (mishap : Option Mishap) : Option.Rel (Mishap.Alike G) mishap mishap := by
  cases mishap with
  | none => exact .none
  | some m =>
      have hleft : Option.Rel (ContentAlike G) m.leftover m.leftover := by
        cases m.leftover with
        | none => exact .none
        | some content => exact .some (.same content)
      exact .some ⟨rfl, hleft⟩

/-- Mishaps at the same points. -/
abbrev MishapsAlike (G : String → String → Prop) :
    List (Option Mishap) → List (Option Mishap) → Prop :=
  List.Forall₂ (Option.Rel (Mishap.Alike G))

/-- Trials that differ in passphrases only. -/
structure Trial.Alike (G : String → String → Prop) (t t' : Trial) : Prop where
  tree : t.tree.Alike (ContentAlike G) t'.tree
  notes : t.bench.notes = t'.bench.notes
  mishaps : MishapsAlike G t.mishaps t'.mishaps

/-- Programs that come to the same on trials that differ in passphrases only. -/
def Twins (G : String → String → Prop) {α : Type} (A : α → α → Prop) (x x' : StateM Trial α) :
    Prop :=
  ∀ t t', t.Alike G t' → A (x.run t).1 (x'.run t').1 ∧ (x.run t).2.Alike G (x'.run t').2

namespace Twins

variable {α β : Type} {A : α → α → Prop} {B : β → β → Prop}

theorem pure {a a' : α} (h : A a a') : Twins G A (pure a) (pure a') := fun _ _ ht => ⟨h, ht⟩

/-- One step after the other. -/
theorem bind {x x' : StateM Trial α} {k k' : α → StateM Trial β} (hx : Twins G A x x')
    (hk : ∀ a a', A a a' → Twins G B (k a) (k' a')) : Twins G B (x >>= k) (x' >>= k') := by
  intro t t' ht
  obtain ⟨ha, ht₁⟩ := hx t t' ht
  rw [StateT.run_bind, StateT.run_bind]
  exact hk _ _ ha _ _ ht₁

/-- Alike changes of the files, which leave alike files when they fail. -/
theorem use {change change' : Tree → Except Files.Fault Tree}
    {spoilt spoilt' : Mishap → Tree → Tree}
    (hchange : ∀ t t' : Tree, t.Alike (ContentAlike G) t' →
      ResultsAlike (Tree.Alike (ContentAlike G)) (change t) (change' t'))
    (hspoilt : ∀ m m' : Mishap, m.Alike G m' → ∀ t t' : Tree, t.Alike (ContentAlike G) t' →
      (spoilt m t).Alike (ContentAlike G) (spoilt' m' t')) :
    Twins G Eq (Trial.use change spoilt) (Trial.use change' spoilt') := by
  rintro ⟨⟨tree, notes⟩, mishaps⟩ ⟨⟨tree', notes'⟩, mishaps'⟩ ⟨htree, hnotes, hmishaps⟩
  obtain rfl : notes = notes' := hnotes
  have hchanged := hchange tree tree' htree
  have hplain : ∀ rest rest', MishapsAlike G rest rest' →
      ((Backing.change change).run ⟨tree, notes⟩).1 =
        ((Backing.change change').run ⟨tree', notes⟩).1 ∧
      Trial.Alike G ⟨((Backing.change change).run ⟨tree, notes⟩).2, rest⟩
        ⟨((Backing.change change').run ⟨tree', notes⟩).2, rest'⟩ := by
    intro rest rest' hrest
    simp only [Backing.change, StateT.run]
    generalize change tree = changed, change' tree' = changed' at hchanged
    cases hchanged with
    | error fault => exact ⟨rfl, htree, rfl, hrest⟩
    | ok h => exact ⟨rfl, h, rfl, hrest⟩
  cases hmishaps with
  | nil => exact hplain [] [] .nil
  | cons hfirst hrest =>
      cases hfirst with
      | none => exact hplain _ _ hrest
      | some hm =>
          exact ⟨congrArg Except.error hm.fault, hspoilt _ _ hm tree tree' htree, rfl, hrest⟩

end Twins

section Twins

variable {s s' : Durable} {c c' : Change}

/-- Alike mishaps leave alike files. -/
theorem spoil_alike (path : Files.Path) {m m' : Mishap} (hm : m.Alike G m') {t t' : Tree}
    (ht : t.Alike (ContentAlike G) t') :
    (m.spoil path t).Alike (ContentAlike G) (m'.spoil path t') := by
  have hleft := hm.leftover
  rw [Mishap.spoil, Mishap.spoil]
  generalize m.leftover = left, m'.leftover = left' at hleft
  cases hleft with
  | none => exact ht
  | some hcontent =>
      have hwrite := ht.write path hcontent
      dsimp only
      generalize t.write path _ = written, t'.write path _ = written' at hwrite
      cases hwrite with
      | error fault => exact ht
      | ok h => exact h

/-- Alike documents are written alike. -/
theorem twins_write (path : Files.Path) {text text' : String}
    (h : ContentAlike G (some text) (some text')) :
    Twins G Eq (Backing.trial.write path text) (Backing.trial.write path text') :=
  .use (fun _ _ ht => ht.write path h) fun _ _ hm _ _ ht => spoil_alike path hm ht

/-- Documents are moved without being read. -/
theorem twins_rename (source target : Files.Path) :
    Twins G Eq (Backing.trial.rename source target) (Backing.trial.rename source target) :=
  .use (fun _ _ ht => ht.rename source target) fun _ _ _ _ _ ht => ht

theorem twins_trace (notes : List Diagnostic) :
    Twins G Eq (notes.forM Backing.trial.trace) (notes.forM Backing.trial.trace) := by
  induction notes with
  | nil => exact .pure rfl
  | cons d notes ih =>
      have htrace : Twins G Eq (Backing.trial.trace d) (Backing.trial.trace d) := fun t t' ht =>
        ⟨rfl, ht.tree, congrArg (· ++ [d]) ht.notes, ht.mishaps⟩
      exact htrace.bind fun _ _ _ => ih

/-- **Rosters that differ in passphrases are committed alike.** -/
theorem twins_commit (hs : s.bare = s'.bare) {next next' : Roster}
    (hnext : next.bare = next'.bare) :
    Twins G (ResultsAlike fun s s' => s.bare = s'.bare) (s.commit Backing.trial next)
      (s'.commit Backing.trial next') := by
  obtain ⟨path, roster⟩ := s
  obtain ⟨path', roster'⟩ := s'
  obtain ⟨rfl, -⟩ := Durable.mk.inj hs
  refine (twins_write _ (contentAlike_write hnext)).bind ?_
  rintro written _ rfl
  cases written with
  | error fault => exact .pure (.error _)
  | ok _ =>
      refine (twins_rename _ _).bind ?_
      rintro renamed _ rfl
      cases renamed with
      | error fault => exact .pure (.error _)
      | ok _ =>
          have hlive : Durable.bare ⟨path, next⟩ = Durable.bare ⟨path, next'⟩ := by
            simp only [Durable.bare, hnext]
          exact .pure (.ok hlive)

/-- **A change gives back the same**, whatever the passphrases are. -/
theorem twins_ask (hs : s.bare = s'.bare) (hc : c.bare = c'.bare) :
    Twins G (fun after after' => after.1 = after'.1 ∧ after.2.bare = after'.2.bare)
      (c.ask Backing.trial s) (c'.ask Backing.trial s') := by
  have hroster : s.roster.bare = s'.roster.bare := (Durable.mk.inj hs).2
  have hnotes : c.notes = c'.notes := by rw [← c.notes_bare, hc, c'.notes_bare]
  have hprofile : ResultsAlike (fun p p' => p.bare = p'.bare) (c.profile? s.roster)
      (c'.profile? s'.roster) := by
    refine .of_map ?_
    rw [← c.profile?_bare, ← c'.profile?_bare, hc, hroster]
  rw [Change.ask_eq, Change.ask_eq]
  generalize c.profile? s.roster = profile?, c'.profile? s'.roster = profile?' at hprofile
  cases hprofile with
  | error fault => exact .pure ⟨rfl, hs⟩
  | @ok p p' hbare =>
      have hgiven : c.given p = c'.given p' := by rw [← c.given_bare, hc, hbare, c'.given_bare]
      have hnext : (s.roster.insert p).bare = (s'.roster.insert p').bare := by
        rw [Roster.bare_insert, Roster.bare_insert, hroster, hbare]
      refine (twins_commit hs hnext).bind fun result result' hresult => ?_
      cases hresult with
      | error fault => exact .pure ⟨rfl, hs⟩
      | ok hlive =>
          rw [hnotes, hgiven]
          exact (twins_trace _).bind fun _ _ _ => .pure ⟨rfl, hlive⟩

end Twins

end Store

end MacConsent
