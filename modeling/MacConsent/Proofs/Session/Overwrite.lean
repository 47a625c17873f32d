import MacConsent.Proofs.Session.Change
import MacConsent.Proofs.Session.Watch

/-!
# MacConsent.Proofs.Session.Overwrite

What an accepted dialog leaves of the changes that were made while it waited.
A confirmation writes back the profile that it checked, so what a direct change
has done to that network is lost, unless it left alone all that the
confirmation does not set itself (`accepted_keeps_edit_iff`).
-/

namespace MacConsent

/-- A profile with the address setting and the joining of another. -/
def Profile.settled (p q : Profile) : Profile :=
  { p with macPolicy := q.macPolicy, enabled := q.enabled }

namespace Session

open Desk (Asked Pending)

/-! ## a reply -/

theorem Desk.conclude_answers (d : Desk) (pending : Pending) (choice : Dialog.Choice) :
    (d.conclude pending choice).answers = d.answers := by
  have hall : ∀ {α : Type} (plan : Remedy.Plan α), plan.All fun _ => True := by
    intro α plan
    induction plan with
    | done a => trivial
    | call r next ih => exact ⟨trivial, ih⟩
  exact (Desk.resolve_untouched _ _ _).answers.trans
    (Remedy.Plan.run_keeps (fun r _ => Desk.carryOut_answers r) (hall _) d)

theorem settle_store {s : Session} (h : s.desk.answers = []) :
    s.settle.desk.store = s.desk.store := by
  by_cases hready : s.queue.worker = .running ∧ s.queue.current = none
  · rw [settle_of_ready hready.1 hready.2, ← Desk.consume_of_no_answers h s.queue.waiting]
    obtain ⟨d, _ | pending, waiting⟩ := Queue.Serial.consume Desk.work s.desk s.queue.waiting
    · cases s.queue.held <;> rfl
    · rfl
  · rw [settle_of_not_ready hready]

/-- Without choices to come, what a reply does to the store is done by the confirmation that it
answers. -/
theorem Watch.Waiting.reply_store {w : Watch} {pending : Pending} (h : w.Waiting pending)
    (hcurrent : w.session.queue.current = some pending) (choice : Dialog.Choice) :
    (w.session.step (.reply choice)).2.desk.store =
      ({ w.session.desk with unanswered := false }.conclude pending choice).store := by
  let concluded := { w.session.desk with unanswered := false }.conclude pending choice
  have hact : (w.session.act (.reply choice)).2.desk = concluded := by
    rw [act, reply, if_pos h.unanswered]
    dsimp only
    rw [hcurrent]
  have hanswers : (w.session.act (.reply choice)).2.desk.answers = [] := by
    rw [hact]
    exact (Desk.conclude_answers _ pending choice).trans h.answers
  exact (settle_store hanswers).trans (congrArg Desk.store hact)

/-! ## the changes that were made meanwhile -/

/-- **What an accepted dialog leaves of a change that was made while it waited.**  In every run,
from a session in which no dialog waits yet, let a dialog wait, and let a direct change have been
made to its network since it was opened; files can be put where the document of the store is.
Once the dialog is accepted, all but the address setting and the joining is as the latest such
change has set it, exactly if the profile that was checked has no name, so that the store refuses
it, or had all of this the same already. -/
theorem accepted_keeps_edit_iff {s : Session} (hidle : s.queue.current = none)
    (steps : List Step) {store : Store.Durable} {pending : Pending} {edit : Profile}
    (hstore : (s.run steps).desk.store = .durable store)
    (hdraft : (s.run steps).desk.tree.IsFileSpot (Store.Durable.draftPath store.path))
    (hdocument : (s.run steps).desk.tree.IsFileSpot store.path)
    (hopen : (s.run steps).queue.current = some pending)
    (hedit : (s.watch steps).edit = some edit) :
    ∃ checked left, (s.watch steps).opened = some checked ∧
      ((s.run steps).step (.reply .accepted)).2.desk.store.find? pending.asked.id = some left ∧
      (left.settled edit = edit ↔ checked.ssid = "" ∨ checked.settled edit = edit) := by
  have hsession := s.watch_session steps
  rw [← hsession] at hstore hdraft hdocument hopen ⊢
  have hwaiting := watch_sound hidle steps pending hopen
  have hfound : store.roster.find? pending.profile.id = some edit := by
    have hfind := hwaiting.found
    rw [hstore, hedit, ← hwaiting.named] at hfind
    exact hfind
  let d : Desk := { (s.watch steps).session.desk with unanswered := false }
  have hreply : ((s.watch steps).session.step (.reply .accepted)).2.desk.store =
      (((Remedy.apply d.messages pending.asked.id pending.profile).run Desk.carryOut).run d).2.store :=
    (hwaiting.reply_store hopen .accepted).trans (Desk.resolve_untouched _ _ _).store
  rw [hreply, ← hwaiting.named]
  by_cases hname : pending.profile.ssid = ""
  · refine ⟨_, _, hwaiting.opened,
      Desk.apply_nameless d.messages _ hstore ⟨hdraft, hdocument⟩ hname hfound,
      iff_of_true ?_ (.inl hname)⟩
    split <;> rfl
  · refine ⟨_, _, hwaiting.opened,
      Desk.apply_named d.messages _ hstore ⟨hdraft, hdocument⟩ hname hfound, ?_⟩
    exact ⟨.inr, fun h => h.resolve_left hname⟩

namespace Overwrite

/-- A network that is saved. -/
def home : Profile :=
  { id := .first, ssid := "HomeNet", security := .wpa2, passphrase := some "before" }

/-- The network with another passphrase. -/
def edit : Profile := { home with passphrase := some "after" }

/-- A session over a document that does not exist yet. -/
def session : Session := { desk := { store := .durable ⟨⟨"profiles.xml"⟩, .empty⟩ } }

/-- A dialog is opened for the network, and then its passphrase is changed. -/
def steps : List Step := [.add home, .confirm .first (some "HomeNet/WPA2"), .update edit]

end Overwrite

open Overwrite in
/-- A passphrase that is changed while the dialog is open is changed back. -/
theorem accepted_loses_passphrase :
    (session.watch steps).edit = some edit ∧
      ∃ left, ((session.run steps).step (.reply .accepted)).2.desk.store.find? .first = some left ∧
        left.settled edit ≠ edit := by
  obtain ⟨roster, hstore⟩ :
      ∃ roster, (session.run steps).desk.store = .durable ⟨⟨"profiles.xml"⟩, roster⟩ := ⟨_, rfl⟩
  have hopen : (session.run steps).queue.current = some ⟨⟨.first, some "HomeNet/WPA2", some 0⟩, home⟩ :=
    rfl
  have hdraft : (session.run steps).desk.tree.IsFileSpot
      (Store.Durable.draftPath ⟨"profiles.xml"⟩) := ⟨["profiles.xml.tmp"], rfl, nofun⟩
  have hdocument : (session.run steps).desk.tree.IsFileSpot ⟨"profiles.xml"⟩ :=
    ⟨["profiles.xml"], rfl, nofun⟩
  have hedit : (session.watch steps).edit = some edit := rfl
  obtain ⟨checked, left, hopened, hleft, hkept⟩ :=
    accepted_keeps_edit_iff rfl steps hstore hdraft hdocument hopen hedit
  refine ⟨hedit, left, hleft, fun heq => ?_⟩
  obtain rfl : home = checked := Option.some.inj hopened
  rcases hkept.1 heq with hname | hsame
  · exact absurd hname (by decide)
  · exact absurd (congrArg Profile.passphrase hsame) (by decide)

end Session

end MacConsent
