import MacConsent.Proofs.Session.Moments
import MacConsent.Proofs.Session.Watch

/-!
# MacConsent.Proofs.Session.Guard

Whether an update meets the network that was offered.  A confirmation compares
identities before it opens its dialog, and it does not compare again once the
choice is there.  An update that follows the check at once therefore meets the
network of the captured identity (`update_of_mem_start`); one that follows a
dialog that had to wait meets it exactly if no direct change has given the id
to another network meanwhile.
-/

namespace MacConsent.Session

open Desk (Asked Pending)
open Remedy (Request systemUid)

/-- The store holds, under the id that was asked for, the network of the captured identity. -/
def Moment.Guarded (m : Moment) : Prop :=
  ∃ q, m.desk.store.find? m.asked.id = some q ∧ m.asked.identity = some q.identity

namespace Desk

variable {d : Desk} {asked : Asked} {pending : Pending} {choice : Dialog.Choice} {m : Moment}
  {p : Profile} {uid : Uid}

/-- A choice is acted on by an update of the profile that was checked, at once. -/
theorem update_of_mem_conclude (hm : m ∈ d.concludeMoments pending choice)
    (hrequest : m.request = .update p uid) :
    m.asked = pending.asked ∧ m.desk = d ∧ p = pending.profile.withDeviceMac := by
  obtain ⟨⟨r, t⟩, hmem, rfl⟩ := List.mem_map.1 hm
  obtain rfl : r = .update p uid := hrequest
  obtain ⟨-, hp, -, ht⟩ := Remedy.update_of_mem_conclude _ _ hmem
  exact ⟨rfl, ht, hp⟩

/-- An update for which no dialog has waited meets the network that was checked. -/
theorem update_of_mem_start (hm : m ∈ d.startMoments asked)
    (hrequest : m.request = .update p uid) : m.Guarded ∧ m.asked.identity = some p.identity := by
  obtain ⟨d₁, hrun, hsame⟩ := check_run d d.messages asked.id asked.identity
  rw [startMoments] at hm
  rcases List.mem_append.1 hm with hm | hm
  · obtain ⟨⟨r, t⟩, hmem, rfl⟩ := List.mem_map.1 hm
    obtain rfl : r = .update p uid := hrequest
    exact (Remedy.Plan.of_mem_requests (Remedy.check_aside _ _ _) hmem).elim
  · rw [hrun] at hm
    cases hvalid : Remedy.validate asked.id asked.identity (d.store.find? asked.id) with
    | error fault => rw [hvalid] at hm; cases hm
    | ok q =>
        obtain ⟨hfound, hchecked⟩ := Remedy.validate_eq_ok hvalid
        rw [hvalid] at hm
        dsimp only at hm
        split at hm
        · obtain ⟨hasked, hdesk, hp⟩ := update_of_mem_conclude hm hrequest
          have hstore : m.desk.store = d.store := by
            rw [hdesk]
            exact hsame.store
          rw [Moment.Guarded, hasked, hstore, hp]
          exact ⟨⟨q, hfound, hchecked⟩, hchecked⟩
        · cases hm

theorem update_of_mem_consume {items : List (Queue.Item Asked)}
    (hm : m ∈ d.consumeMoments items) (hrequest : m.request = .update p uid) :
    m.Guarded ∧ m.asked.identity = some p.identity := by
  induction items generalizing d with
  | nil => cases hm
  | cons item items ih =>
      cases item with
      | barrier ticket => exact ih hm
      | job asked =>
          rw [consumeMoments] at hm
          rcases List.mem_append.1 hm with hm | hm
          · exact update_of_mem_start hm hrequest
          · split at hm
            · exact ih hm
            · cases hm

end Desk

variable {m : Moment} {p : Profile} {uid : Uid}

theorem update_of_mem_settle {s : Session} (hm : m ∈ s.settleMoments)
    (hrequest : m.request = .update p uid) : m.Guarded ∧ m.asked.identity = some p.identity := by
  rw [settleMoments] at hm
  split at hm
  · exact Desk.update_of_mem_consume hm hrequest
  · cases hm

/-- The moments of a step, each with the profile that was put in the place of the one that was
checked, if its dialog had to wait and there is one. -/
def Watch.moments (w : Watch) (e : Step) : List (Moment × Option Profile) :=
  (w.session.actMoments e).map (·, w.edit) ++
    (w.session.act e).2.settleMoments.map (·, none)

theorem Watch.moments_fst (w : Watch) (e : Step) :
    (w.moments e).map Prod.fst = w.session.moments e := by
  rw [Watch.moments, List.map_append, List.map_map, List.map_map, Session.moments]
  congr 1 <;> exact List.map_id _

/-- An update that a reply leads to meets what the store has kept or was given meanwhile. -/
theorem Watch.Sound.update_of_mem_act {w : Watch} (hw : w.Sound) {e : Step}
    (hm : m ∈ w.session.actMoments e) (hrequest : m.request = .update p uid) :
    m.asked.identity = some p.identity ∧
      (m.Guarded ↔ ∀ q ∈ w.edit, m.asked.identity = some q.identity) := by
  cases e with
  | reply choice =>
      rw [actMoments] at hm
      split at hm
      · cases hcurrent : w.session.queue.current with
        | none => rw [hcurrent] at hm; cases hm
        | some pending =>
            have hwaiting := hw pending hcurrent
            rw [hcurrent] at hm
            obtain ⟨hasked, hdesk, hp⟩ := Desk.update_of_mem_conclude hm hrequest
            have hfound : m.desk.store.find? m.asked.id = w.edit.or (some pending.profile) := by
              rw [hdesk, hasked, ← hwaiting.opened]
              exact hwaiting.found
            rw [Moment.Guarded, hfound, hasked, hp]
            refine ⟨hwaiting.checked, ?_⟩
            cases w.edit with
            | none => simp [hwaiting.checked]
            | some u => simp
      · cases hm
  | _ => cases hm

/-- **When an update meets the network that was offered.**  In every run, from a session in which
no dialog waits yet, the updates of a step are those of its moments.  Each of them writes a
profile of the captured identity, and it meets one in the store exactly if no direct change has
put a profile of another identity there while the dialog was open. -/
theorem update_guarded_iff {s : Session} (hidle : s.queue.current = none) (steps : List Step)
    (e : Step) :
    ((s.run steps).step e).2.desk.updates =
        (s.run steps).desk.updates ++
          ((s.watch steps).moments e).filterMap (fun m => m.1.update?) ∧
      ∀ m edit, (m, edit) ∈ (s.watch steps).moments e → ∀ p uid, m.request = .update p uid →
        m.asked.identity = some p.identity ∧
          ((∃ q, m.desk.store.find? m.asked.id = some q ∧ m.asked.identity = some q.identity) ↔
            ∀ q ∈ edit, m.asked.identity = some q.identity) := by
  have hw := watch_sound hidle steps
  constructor
  · rw [← watch_session, step_updates, ← Watch.moments_fst, List.filterMap_map]
    rfl
  · intro m edit hm p uid hrequest
    rcases List.mem_append.1 hm with hm | hm
    · obtain ⟨_, hmem, heq⟩ := List.mem_map.1 hm
      cases heq
      exact hw.update_of_mem_act hmem hrequest
    · obtain ⟨_, hmem, heq⟩ := List.mem_map.1 hm
      cases heq
      obtain ⟨hguarded, hidentity⟩ := update_of_mem_settle hmem hrequest
      exact ⟨hidentity, iff_of_true hguarded fun q hq => nomatch hq⟩

namespace Guard

/-- A network that is saved. -/
def home : Profile := { id := ⟨7, by omega, by omega⟩, ssid := "HomeNet", security := .wpa2 }

/-- Another network of the same id. -/
def other : Profile := { home with security := .wpa3 }

/-- A dialog is opened for the network, and then its id is given to the other one. -/
def steps : List Step := [.insert home, .confirm home.id (some "HomeNet/WPA2"), .insert other]

end Guard

open Guard in
/-- A network that has taken the place of another while the dialog was open is overwritten. -/
theorem update_not_guarded :
    ∃ m, (m, some other) ∈ ((memory {} []).watch steps).moments (.reply .accepted) ∧
      m.request = .update home.withDeviceMac systemUid ∧
      ¬ ∃ q, m.desk.store.find? m.asked.id = some q ∧ m.asked.identity = some q.identity := by
  obtain ⟨m, rest, hmoments, hrequest, hasked⟩ : ∃ m rest,
      ((memory {} []).watch steps).moments (.reply .accepted) = (m, some other) :: rest ∧
        m.request = .update home.withDeviceMac systemUid ∧
        m.asked.identity = some home.identity := ⟨_, _, rfl, rfl, rfl⟩
  have hmem : (m, some other) ∈ ((memory {} []).watch steps).moments (.reply .accepted) :=
    hmoments ▸ List.mem_cons_self
  refine ⟨m, hmem, hrequest, fun hguarded => ?_⟩
  have hexact := (update_guarded_iff rfl steps (.reply .accepted)).2 m _ hmem _ _ hrequest
  have hsame : m.asked.identity = some other.identity := hexact.2.1 hguarded other rfl
  rw [hasked] at hsame
  exact absurd hsame (by decide)

end MacConsent.Session
