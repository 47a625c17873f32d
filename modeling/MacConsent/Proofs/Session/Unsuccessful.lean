import MacConsent.Proofs.Remedy.Caution
import MacConsent.Proofs.Session.Moves
import MacConsent.Proofs.Session.Settling

/-!
# MacConsent.Proofs.Session.Unsuccessful

A confirmation that does not end as applied has changed nothing
(`Shift.unsuccessful_unchanged`), whatever the files are, whatever befalls them
and whoever else changes the store or its files meanwhile.  As long as the
requests of a confirmation have changed nothing, it may end in any way or be
dropped; and once it has changed something, it is bound to end as applied
(`Shift.Careful`).  For that, its update has to be what the look after it finds:
the code of a confirmation does not suspend between the two, so nobody turns
randomization back on there (`Shift.Uncut`).  That much holds whenever all that
comes from outside comes where the worker is suspended (`Shift.Timely.uncut`).
-/

namespace MacConsent.Session

open Desk (Asked)
open Remedy (Outcome Plan Request)
open Store (Mishap Durable SameApartFrom)

/-! ## desks over a document -/

namespace Desk

/-- The store of a desk is one in a document, and the files are sound. -/
structure Documented (d : Desk) (live : Durable) : Prop where
  store : d.store = .durable live
  sound : d.tree.Sound

variable {d : Desk} {live : Durable}

/-- A change amid mishaps is made, or the store and all files but the draft are as they were. -/
theorem changed_documented (h : d.Documented live) (mishaps : List (Option Mishap))
    (c : Store.Change) :
    ∃ live', (d.changed mishaps live c).2.Documented live' ∧ live'.path = live.path ∧
      ((∃ p, c.profile? live.roster = .ok p ∧ (d.changed mishaps live c).1 = .ok () ∧
          live'.roster = live.roster.insert p) ∨
        ∃ fault, (d.changed mishaps live c).1 = .error fault ∧ live' = live ∧
          SameApartFrom d.tree (d.changed mishaps live c).2.tree [Durable.draftPath live.path]) := by
  have hsound : (Store.Trial.mk ⟨d.tree, []⟩ mishaps).tree.Sound := h.sound
  cases hp : c.profile? live.roster with
  | error fault =>
      rw [changed, Store.Change.run_refused hp]
      exact ⟨live, ⟨rfl, hsound⟩, rfl, .inr ⟨fault, rfl, rfl, .refl _ _⟩⟩
  | ok p =>
      obtain ⟨result, t, hrun, hafter, hcases⟩ := Durable.change_trial hsound hp
      rw [changed, hrun]
      rcases hcases with ⟨rfl, -⟩ | ⟨fault, rfl, hsame⟩
      · exact ⟨_, ⟨rfl, hafter⟩, rfl, .inl ⟨p, rfl, rfl, rfl⟩⟩
      · exact ⟨live, ⟨rfl, hafter⟩, rfl, .inr ⟨fault, rfl, rfl, hsame⟩⟩

/-- A request that spares the store has left it and all files but the draft as they were, and what an
update has put in is found. -/
theorem carryOutAmid_documented (h : d.Documented live) (mishaps : List (Option Mishap))
    (r : Request) :
    ∃ live', ((carryOutAmid mishaps r).run d).2.Documented live' ∧ live'.path = live.path ∧
      (r.spares ((carryOutAmid mishaps r).run d).1 = true → live' = live ∧
        SameApartFrom d.tree ((carryOutAmid mishaps r).run d).2.tree
          [Durable.draftPath live.path]) ∧
      ∀ p uid, r = .update p uid → r.spares ((carryOutAmid mishaps r).run d).1 = false →
        live'.roster.find? p.id = some p := by
  cases r with
  | update p uid =>
      obtain ⟨live', hdoc, hpath, hcases⟩ := changed_documented h mishaps (.update p uid)
      rw [carryOutAmid_update mishaps h.store]
      refine ⟨live', ⟨hdoc.store, hdoc.sound⟩, hpath, ?_⟩
      dsimp only
      rcases hcases with ⟨q, hq, hresult, hroster⟩ | ⟨fault, hresult, hlive, hsame⟩
      · obtain ⟨-, -, rfl⟩ := (Store.Change.profile?_update_eq_ok uid).1 hq
        rw [hresult, hroster]
        refine ⟨nofun, fun q uid hr _ => ?_⟩
        cases hr
        exact (Store.Roster.find?_insert ..).trans (if_pos rfl)
      · rw [hresult]
        exact ⟨fun _ => ⟨hlive, hsame⟩, fun _ _ _ hno => nomatch hno⟩
  | enable id uid =>
      obtain ⟨live', hdoc, hpath, hcases⟩ := changed_documented h mishaps (.enable id uid)
      rw [carryOutAmid_enable mishaps h.store]
      refine ⟨live', ⟨hdoc.store, hdoc.sound⟩, hpath, ?_, fun _ _ hr => nomatch hr⟩
      dsimp only
      rcases hcases with ⟨q, -, hresult, -⟩ | ⟨fault, hresult, hlive, hsame⟩
      · rw [hresult]
        exact nofun
      · exact fun _ => ⟨hlive, hsame⟩
  | _ =>
      exact ⟨live, ⟨h.store, h.sound⟩, rfl, fun _ => ⟨rfl, .refl _ _⟩, fun _ _ hr => nomatch hr⟩

end Desk

/-! ## confirmations in hand -/

/-- A confirmation in hand that is bound to end as applied once it has changed something. -/
def Hand.Careful (h : Hand) : Prop :=
  match h.stage with
  | .checking plan => plan.All fun r => ∀ answer, r.spares answer = true
  | .asking _ => True
  | .concluding plan => plan.Cautious

/-- A confirmation in hand that is bound to end as applied, if the store goes on to show what it has
changed. -/
def Hand.Bound (h : Hand) (store : Store.Backend) : Prop :=
  match h.stage with
  | .concluding plan =>
    plan.Ends (· = .applied) ∨
      ∃ id p, plan.Verifies id ∧ store.find? id = some p ∧ p.macPolicy = .disabled
  | _ => False

namespace Shift

/-! ## what is left unchanged -/

/-- The store lists what it listed, and no file has changed but the draft, which never stands in the
place of the document. -/
structure Unchanged (path : Files.Path) (s s' : Shift) : Prop where
  store : s'.session.desk.store = s.session.desk.store
  files : SameApartFrom s.session.desk.tree s'.session.desk.tree [Durable.draftPath path]
  document : ∀ place, s.session.desk.tree.At path place →
    s'.session.desk.tree.find? place = s.session.desk.tree.find? place

/-- Where store and files are as before, no profile has changed. -/
theorem Unchanged.of_same {path : Files.Path} {s s' : Shift}
    (hstore : s'.session.desk.store = s.session.desk.store)
    (hfiles : SameApartFrom s.session.desk.tree s'.session.desk.tree [Durable.draftPath path]) :
    s.Unchanged path s' :=
  ⟨hstore, hfiles, fun _ => Durable.find?_document hfiles⟩

/-- What the worker does for a confirmation leaves the store and its files unchanged. -/
def Spares (path : Files.Path) (n : Nat) (s : Shift) : Beat → Shift → Prop
  | .work _, s' => ∀ hd, s.hand = some hd → hd.number = n → s.Unchanged path s'
  | _, _ => True

/-- All that the worker does for a confirmation in a run leaves the store and its files
unchanged. -/
def Spared (path : Files.Path) (n : Nat) : Shift → List Beat → Prop
  | _, [] => True
  | s, b :: beats => s.Spares path n b (s.beat b) ∧ (s.beat b).Spared path n beats

/-- The calls of a confirmation ask for no scan. -/
def ScanFree (s : Shift) (n : Nat) : Prop := ∀ source, .scan source ∉ s.callsOf n

/-! ## cutting in -/

/-- Nobody turns randomization back on for a network that a confirmation looks up next, after its
dialog. -/
def Yields (n : Nat) (s : Shift) : Beat → Prop
  | .outside (.update p) _ => ∀ asked id next,
    s.hand = some ⟨n, asked, .concluding (.call (.look id) next)⟩ → p.id = id →
      p.macPolicy = .disabled
  | _ => True

/-- In no beat of a run anybody cuts in between the update of a confirmation and the look after it,
where its code does not suspend. -/
def Uncut (n : Nat) : Shift → List Beat → Prop
  | _, [] => True
  | s, b :: beats => s.Yields n b ∧ (s.beat b).Uncut n beats

/-- Nobody cuts in where the worker is suspended. -/
theorem Timely.uncut {s : Shift} {beats : List Beat} (h : s.Timely beats) (n : Nat) :
    s.Uncut n beats := by
  induction beats generalizing s with
  | nil => trivial
  | cons b beats ih =>
      refine ⟨?_, ih h.2⟩
      cases b with
      | outside e mishaps =>
          have hsuspended := h.1 rfl
          cases e with
          | update p =>
              intro asked id next hhand
              rw [isSuspended, hhand] at hsuspended
              cases hsuspended
          | _ => trivial
      | _ => trivial

/-! ## the invariant -/

/-- Whether a confirmation has changed nothing so far, which is to say `spared`, and has asked for no
scan, in each part of its life. -/
structure Careful (path : Files.Path) (n : Nat) (spared : Prop) (s : Shift) : Prop where
  documented : ∃ live, live.path = path ∧ s.session.desk.Documented live
  tracks : s.Tracks n (spared ∧ s.ScanFree n)
    (fun hd => (spared ∧ s.ScanFree n) ∧ hd.Careful ∨ hd.Bound s.session.desk.store)
    ((spared ∧ s.ScanFree n) ∨ ∃ e ∈ s.ended, e.number = n ∧ e.outcome = .applied)

variable {path : Files.Path} {n : Nat} {spared spared' : Prop} {s s' : Shift} {b : Beat}

/-- Others act, and what the confirmation in hand is bound to does not change. -/
theorem Careful.around (h : s.Careful path n spared) (hcalm : s.Calm s') (himp : spared → spared')
    (hdocumented : ∃ live, live.path = path ∧ s'.session.desk.Documented live)
    (hbound : ∀ hd, s.hand = some hd → hd.number = n → hd.Bound s.session.desk.store →
      hd.Bound s'.session.desk.store) : s'.Careful path n spared' := by
  have hfree : spared ∧ s.ScanFree n → spared' ∧ s'.ScanFree n :=
    And.imp himp fun h source => hcalm.calls n ▸ h source
  refine ⟨hdocumented, h.tracks.around hcalm.hand hcalm.taken hfree (fun hd hhd hn => ?_) ?_⟩
  · exact Or.imp (And.imp_left hfree) (hbound hd hhd hn)
  · rw [hcalm.ended]
    exact Or.imp_left hfree

/-! ## the moves -/

/-- What the worker does for another confirmation. -/
theorem spares_of_ne {hd : Hand} (hhand : s.hand = some hd) (hn : hd.number ≠ n)
    (mishaps : List (Option Mishap)) : s.Spares path n (.work mishaps) s' := by
  intro hd' hhd hn'
  cases hhand.symm.trans hhd
  exact absurd hn' hn

/-- The worker is about another confirmation. -/
theorem others_spared (hspares : s.Spares path n b s') (hcalls : s'.callsOf n = s.callsOf n)
    (hended : s.ended ⊆ s'.ended) :
    (spared ∧ s.ScanFree n → (spared ∧ s.Spares path n b s') ∧ s'.ScanFree n) ∧
      ((spared ∧ s.ScanFree n) ∨ (∃ e ∈ s.ended, e.number = n ∧ e.outcome = .applied) →
        ((spared ∧ s.Spares path n b s') ∧ s'.ScanFree n) ∨
          ∃ e ∈ s'.ended, e.number = n ∧ e.outcome = .applied) := by
  have hfree : spared ∧ s.ScanFree n → (spared ∧ s.Spares path n b s') ∧ s'.ScanFree n :=
    And.imp (⟨·, hspares⟩) fun h source => hcalls ▸ h source
  exact ⟨hfree, Or.imp hfree fun ⟨e, he, hends⟩ => ⟨e, hended he, hends⟩⟩

/-- A change from outside leaves a network without randomization that is not turned on again. -/
theorem disabled_of_edit {r r' : Store.Roster} {e : Step} {c : Store.Change} {id : NetworkId}
    {p q : Profile} (hchange : e.change? = some c) (hq : c.profile? r = .ok q)
    (hinsert : r' = r.insert q) (hfound : r.find? id = some p) (hdisabled : p.macPolicy = .disabled)
    (hyields : ∀ new, e = .update new → new.id = id → new.macPolicy = .disabled) :
    ∃ p, r'.find? id = some p ∧ p.macPolicy = .disabled := by
  rw [hinsert, Store.Roster.find?_insert]
  by_cases hid : q.id = id
  · refine ⟨q, if_pos hid, ?_⟩
    cases e with
    | add new =>
        cases hchange
        exact absurd hid (id_ne_of_add hfound hq)
    | update new =>
        cases hchange
        obtain ⟨-, -, rfl⟩ := (Store.Change.profile?_update_eq_ok directUid).1 hq
        exact hyields q rfl hid
    | _ => cases hchange
  · exact ⟨p, (if_neg hid).trans hfound, hdisabled⟩

/-- A direct change is none of the confirmation, except that it may not spare the profile. -/
theorem Careful.edit (h : s.Careful path n spared) {e : Step} {c : Store.Change}
    (mishaps : List (Option Mishap)) (hchange : e.change? = some c)
    (hyields : s.Yields n (.outside e mishaps)) :
    (s.edit c mishaps).Careful path n
      (spared ∧ s.Spares path n (.outside e mishaps) (s.edit c mishaps)) := by
  obtain ⟨live, rfl, hlive⟩ := h.documented
  obtain ⟨live', hlive', hpath, hcases⟩ := Desk.changed_documented hlive mishaps c
  have hedit : s.edit c mishaps = { s with
      session := { s.session with desk := (s.session.desk.changed mishaps live c).2 } } := by
    rw [Shift.edit, hlive.store]
  have hcalm := s.edit_calm c mishaps
  rw [hedit] at hcalm ⊢
  refine h.around hcalm (⟨·, trivial⟩) ⟨live', hpath, hlive'⟩ fun hd hhd hn hbound => ?_
  obtain ⟨number, asked, stage⟩ := hd
  cases stage with
  | checking plan => exact hbound
  | asking p => exact hbound
  | concluding plan =>
      rcases hbound with hends | ⟨id, p, hverifies, hfound, hdisabled⟩
      · exact .inl hends
      · have hlive' (i : NetworkId) : (s.session.desk.changed mishaps live c).2.store.find? i =
            live'.roster.find? i := congrArg (·.find? i) hlive'.store
        have hfound' : live.roster.find? id = some p :=
          (congrArg (·.find? id) hlive.store).symm.trans hfound
        obtain ⟨next, rfl, -⟩ := hverifies.look
        have hstill : ∃ p, live'.roster.find? id = some p ∧ p.macPolicy = .disabled := by
          rcases hcases with ⟨q, hq, -, hinsert⟩ | ⟨fault, -, rfl, -⟩
          · refine disabled_of_edit hchange hq hinsert hfound' hdisabled fun new he hid => ?_
            subst he hn
            exact hyields asked id next hhd hid
          · exact ⟨p, hfound', hdisabled⟩
        obtain ⟨p', hp', hdisabled'⟩ := hstill
        exact .inr ⟨id, p', hverifies, (hlive' id).trans hp', hdisabled'⟩

/-- A request that spares the store is not for a scan. -/
theorem scan_not_mem_of_spares {r : Request} {answer : r.Answer} (h : r.spares answer = true)
    (source : WorkSource) : .scan source ∉ (Call.of? r answer).toList := by
  cases r with
  | scan source' => cases h
  | _ => simp [Call.of?]

/-- A request leaves the store unchanged, or it binds the confirmation that makes it. -/
theorem Careful.request (h : s.Careful path n spared) (hturn : s.InTurn) {hd : Hand}
    (hhand : s.hand = some hd) (r : Request) (next : r.Answer → Stage)
    (mishaps : List (Option Mishap))
    (hspares : hd.Careful → ∀ answer, r.spares answer = true →
      Hand.Careful { hd with stage := next answer })
    (hbinds : hd.Careful → ∀ answer (store : Store.Backend), r.spares answer = false →
      (∀ p uid, r = .update p uid → store.find? p.id = some p) →
        Hand.Bound { hd with stage := next answer } store)
    (hbound : hd.Bound s.session.desk.store →
      let (answer, desk) := (Desk.carryOutAmid mishaps r).run s.session.desk
      Hand.Bound { hd with stage := next answer } desk.store) :
    (s.request hd r next mishaps).Careful path n
      (spared ∧ s.Spares path n (.work mishaps) (s.request hd r next mishaps)) := by
  obtain ⟨live, rfl, hlive⟩ := h.documented
  obtain ⟨live', hlive', hpath, hsame, hput⟩ := Desk.carryOutAmid_documented hlive mishaps r
  refine ⟨⟨live', hpath, hlive'⟩,
    h.tracks.further hturn hhand rfl rfl rfl (fun hn hheld => ?_) fun hn => ?_⟩
  · rcases hheld with ⟨⟨hspared, hfree⟩, hcareful⟩ | hb
    · cases hr : r.spares ((Desk.carryOutAmid mishaps r).run s.session.desk).1 with
      | true =>
          obtain ⟨rfl, hfiles⟩ := hsame hr
          have hunchanged : s.Unchanged live'.path (s.request hd r next mishaps) :=
            .of_same (hlive'.store.trans hlive.store.symm) hfiles
          refine .inl ⟨⟨⟨hspared, fun _ _ _ => hunchanged⟩, fun source hmem => ?_⟩,
            hspares hcareful _ hr⟩
          rw [callsOf_request, if_pos hn, List.mem_append] at hmem
          exact hmem.elim (hfree source) (scan_not_mem_of_spares hr source)
      | false =>
          refine .inr (hbinds hcareful _ _ hr fun p uid hupdate => ?_)
          exact (congrArg (·.find? p.id) hlive'.store).trans (hput p uid hupdate hr)
    · exact .inr (hbound hb)
  · exact others_spared (spares_of_ne hhand hn mishaps) (callsOf_request_of_ne hn s r next mishaps)
      (List.Subset.refl _)

/-- A check changes nothing. -/
theorem Careful.checked (h : s.Careful path n spared) (hturn : s.InTurn) {number : Nat}
    {asked : Asked} {r : Request} {next : r.Answer → Plan (Except Remedy.Fault Profile)}
    (mishaps : List (Option Mishap))
    (hhand : s.hand = some ⟨number, asked, .checking (.call r next)⟩) :
    let s' := s.request ⟨number, asked, .checking (.call r next)⟩ r (fun a => .checking (next a))
      mishaps
    s'.Careful path n (spared ∧ s.Spares path n (.work mishaps) s') :=
  h.request hturn hhand r _ mishaps (fun hcareful answer _ => hcareful.2 answer)
    (fun hcareful answer _ hr => nomatch (hcareful.1 answer).symm.trans hr) False.elim

/-- What is concluded changes nothing but by the update, which binds the confirmation to succeed. -/
theorem Careful.concluded (h : s.Careful path n spared) (hturn : s.InTurn) {number : Nat}
    {asked : Asked} {r : Request} {next : r.Answer → Plan Outcome} (mishaps : List (Option Mishap))
    (hhand : s.hand = some ⟨number, asked, .concluding (.call r next)⟩) :
    let s' := s.request ⟨number, asked, .concluding (.call r next)⟩ r (fun a => .concluding (next a))
      mishaps
    s'.Careful path n (spared ∧ s.Spares path n (.work mishaps) s') := by
  refine h.request hturn hhand r _ mishaps (fun hcareful answer hr => ?_)
    (fun hcareful answer store hr hput => ?_) fun hbound => ?_
  · have hnext := hcareful answer
    rwa [if_pos hr] at hnext
  · have hnext := hcareful answer
    rw [if_neg (by rw [hr]; nofun)] at hnext
    rcases hnext with hends | ⟨p, uid, hupdate, hdisabled, hverifies⟩
    · exact .inl hends
    · exact .inr ⟨p.id, p, hverifies, hput p uid hupdate, hdisabled⟩
  · rcases hbound with hends | ⟨id, p, hverifies, hfound, hdisabled⟩
    · exact .inl (hends _)
    · obtain ⟨next', hplan, hshown⟩ := hverifies.look
      cases hplan
      have hlook : (next' (s.session.desk.store.find? id)).Ends (· = .applied) := by
        rw [hfound]
        exact hshown p hdisabled
      exact .inl hlook

/-- A dialog changes nothing. -/
theorem Careful.opened (h : s.Careful path n spared) (hturn : s.InTurn) {number : Nat}
    {asked : Asked} {p : Profile} (mishaps : List (Option Mishap))
    (hhand : s.hand = some ⟨number, asked, .checking (.done (.ok p))⟩) :
    let s' := s.openDialog ⟨number, asked, .checking (.done (.ok p))⟩ p
    s'.Careful path n (spared ∧ s.Spares path n (.work mishaps) s') := by
  intro s'
  obtain ⟨stage, hstage, hcases, hrest⟩ :=
    s.openDialog_rest ⟨number, asked, .checking (.done (.ok p))⟩ p
  obtain ⟨live, rfl, hlive⟩ := h.documented
  refine ⟨⟨live, rfl, hrest.store.trans hlive.store, hrest.tree ▸ hlive.sound⟩,
    h.tracks.further hturn hhand hstage rfl hrest.taken (fun hn hheld => ?_) fun hn => ?_⟩
  · rcases hheld with ⟨⟨hspared, hfree⟩, -⟩ | hbound
    · have hunchanged : s.Unchanged live.path s' := .of_same hrest.store (hrest.tree ▸ .refl _ _)
      refine .inl ⟨⟨⟨hspared, fun _ _ _ => hunchanged⟩, fun source hmem => ?_⟩, ?_⟩
      · rw [callsOf_openDialog, if_pos hn, List.mem_append] at hmem
        exact hmem.elim (hfree source) fun hdialog => nomatch List.mem_singleton.1 hdialog
      · rcases hcases with rfl | ⟨choice, rfl⟩
        · trivial
        · exact Remedy.conclude_cautious ..
    · exact hbound.elim
  · exact others_spared (spares_of_ne hhand hn mishaps) (callsOf_openDialog_of_ne hn s p)
      (hrest.ended ▸ List.Subset.refl _)

/-- A confirmation that was bound to end as applied does so. -/
theorem applied_of_bound {hd : Hand} {store : Store.Backend} {outcome : Outcome}
    (hbound : hd.Bound store) (houtcome : hd.outcome? = some outcome) : outcome = .applied := by
  obtain ⟨number, asked, stage⟩ := hd
  cases stage with
  | checking plan => exact hbound.elim
  | asking p => exact hbound.elim
  | concluding plan =>
      cases plan with
      | call r next => cases houtcome
      | done outcome' =>
          cases houtcome
          exact hbound.elim id fun ⟨_, _, hverifies, _⟩ => hverifies.elim

/-- A confirmation that has changed anything ends as applied. -/
theorem Careful.finished (h : s.Careful path n spared) (hturn : s.InTurn) {hd : Hand}
    {outcome : Outcome} (mishaps : List (Option Mishap)) (hhand : s.hand = some hd)
    (houtcome : hd.outcome? = some outcome) :
    (s.finish hd outcome).Careful path n
      (spared ∧ s.Spares path n (.work mishaps) (s.finish hd outcome)) := by
  have hsame := s.session.desk.resolve_untouched hd.asked.ticket (.outcome outcome)
  obtain ⟨live, rfl, hlive⟩ := h.documented
  refine ⟨⟨live, rfl, hsame.store.trans hlive.store, hsame.tree ▸ hlive.sound⟩,
    h.tracks.emptied hturn hhand rfl rfl (fun hn hheld => ?_) fun hn => ?_⟩
  · rcases hheld with ⟨⟨hspared, hfree⟩, -⟩ | hbound
    · have hunchanged : s.Unchanged live.path (s.finish hd outcome) :=
        .of_same hsame.store (hsame.tree ▸ .refl _ _)
      exact .inl ⟨⟨hspared, fun _ _ _ => hunchanged⟩, hfree⟩
    · exact .inr ⟨_, List.mem_append_right _ (List.mem_singleton_self _), hn,
        applied_of_bound hbound houtcome⟩
  · exact others_spared (spares_of_ne hhand hn mishaps) rfl (List.subset_append_left _ _)

/-- A confirmation that is dropped at its dialog has changed nothing. -/
theorem Careful.stopped (h : s.Careful path n spared) (hturn : s.InTurn)
    (mishaps : List (Option Mishap)) (hsuspended : s.isSuspended = true) :
    s.stop.Careful path n (spared ∧ s.Spares path n (.outside .stop mishaps) s.stop) := by
  have hstop : s.stop.session = s.session.stop ∧ s.stop.ended = s.ended := by
    rw [Shift.stop, if_pos hsuspended]
    exact ⟨rfl, rfl⟩
  have hsame : s.session.desk.Untouched s.stop.session.desk :=
    hstop.1 ▸ foldl_lose_untouched _ _
  obtain ⟨live, rfl, hlive⟩ := h.documented
  have hspares : s.Spares live.path n (.outside .stop mishaps) s.stop := trivial
  have hended : s.ended ⊆ s.stop.ended := hstop.2 ▸ List.Subset.refl _
  refine ⟨⟨live, rfl, hsame.store.trans hlive.store, hsame.tree ▸ hlive.sound⟩,
    h.tracks.stopped hturn hsuspended (fun asked p _ hheld => .inl ?_)
      (others_spared hspares (s.callsOf_stop n) hended).1
      (others_spared hspares (s.callsOf_stop n) hended).2⟩
  rcases hheld with ⟨hspared, -⟩ | hbound
  · exact (others_spared hspares (s.callsOf_stop n) hended).1 hspared
  · exact hbound.elim

/-- **Every move keeps what is known of a confirmation.** -/
theorem Careful.move (h : s.Careful path n spared) (hturn : s.InTurn) (hyields : s.Yields n b)
    (hmove : s.Move b s') : s'.Careful path n (spared ∧ s.Spares path n b s') := by
  obtain ⟨live, hpath, hlive⟩ := h.documented
  cases hmove with
  | aside hothers calm apart =>
      have hspares : s.Spares path n b s' := by
        cases b with
        | work mishaps => cases hothers
        | outside e mishaps => trivial
        | listen channel => trivial
      have hlive' := apart.store live hlive.store
      refine h.around calm (⟨·, hspares⟩) ⟨live, hpath, hlive', apart.sound hlive.sound⟩ ?_
      intro hd _ _ hbound
      rwa [hlive', ← hlive.store]
  | idle mishaps calm same =>
      have hunchanged : s.Unchanged path s' := .of_same same.store (same.tree ▸ .refl _ _)
      refine h.around calm (⟨·, fun _ _ _ => hunchanged⟩)
        ⟨live, hpath, same.store.trans hlive.store, same.tree ▸ hlive.sound⟩ ?_
      intro hd _ _ hbound
      rwa [same.store]
  | edited mishaps hchange => exact h.edit mishaps hchange hyields
  | replied choice mishaps hhand =>
      refine ⟨⟨live, hpath, hlive.store, hlive.sound⟩,
        h.tracks.further hturn hhand rfl rfl rfl (fun _ hheld => ?_) fun _ => ?_⟩
      · rcases hheld with ⟨⟨hspared, hfree⟩, -⟩ | hbound
        · exact .inl ⟨⟨⟨hspared, trivial⟩, hfree⟩, Remedy.conclude_cautious ..⟩
        · exact hbound.elim
      · exact others_spared trivial rfl (List.Subset.refl _)
  | stopped mishaps hsuspended => exact h.stopped hturn mishaps hsuspended
  | took mishaps hhand hwaiting =>
      have hspares (s' : Shift) : s.Spares path n (.work mishaps) s' := fun hd hhd => by
        rw [hhand] at hhd
        cases hhd
      refine ⟨⟨live, hpath, hlive⟩, h.tracks.took hhand rfl rfl rfl (fun hfree => ?_)
        (And.imp_left (⟨·, hspares _⟩)) (Or.imp_left (And.imp_left (⟨·, hspares _⟩)))⟩
      exact .inl ⟨⟨⟨hfree.1, hspares _⟩, hfree.2⟩, Remedy.check_spares ..⟩
  | checked mishaps hhand => exact h.checked hturn mishaps hhand
  | opened mishaps hhand => exact h.opened hturn mishaps hhand
  | concluded mishaps hhand => exact h.concluded hturn mishaps hhand
  | finished mishaps hhand houtcome => exact h.finished hturn mishaps hhand houtcome

/-! ## runs -/

/-- **A confirmation stays careful in any run that does not cut in.** -/
theorem Careful.run (h : s.Careful path n spared) (hturn : s.InTurn) {beats : List Beat}
    (huncut : s.Uncut n beats) : (s.run beats).Careful path n (spared ∧ s.Spared path n beats) := by
  induction beats generalizing s spared with
  | nil =>
      exact h.around (.refl s) (⟨·, trivial⟩) h.documented fun _ _ _ hbound => hbound
  | cons b beats ih =>
      have hnext := ih (h.move hturn huncut.1 (s.move b)) (hturn.beat b) huncut.2
      exact hnext.around (.refl _) and_assoc.1 hnext.documented fun _ _ _ hbound => hbound

/-- In the beginning nothing has been changed. -/
theorem begin_careful {desk : Desk} {live : Durable} (h : desk.Documented live) (router : Router)
    (tickets n : Nat) : (begin desk router tickets).Careful live.path n True where
  documented := ⟨live, rfl, h⟩
  tracks := by
    have hnone : (begin desk router tickets).callsOf n = [] := by simp [callsOf, begin]
    refine ⟨fun _ => ⟨trivial, fun source hmem => ?_⟩, fun _ hhd => (by cases hhd),
      fun hlt => absurd hlt (Nat.not_lt_zero n)⟩
    rw [hnone] at hmem
    cases hmem

/-- A confirmation that the queue took on and that is lost, since the worker was stopped. -/
def Dropped (s : Shift) (n : Nat) : Prop :=
  n < s.submitted.length ∧ s.session.queue.worker = .stopped ∧ ∀ e ∈ s.ended, e.number ≠ n

/-- Of a confirmation that has not ended as applied, and is not in hand any more, all is spared. -/
theorem Careful.unsuccessful (h : s.Careful path n spared) (hturn : s.InTurn) (honce : s.Once)
    (hunsuccessful : (∃ e ∈ s.ended, e.number = n ∧ e.outcome ≠ .applied) ∨ s.Dropped n) :
    spared ∧ s.ScanFree n := by
  by_cases htaken : s.taken ≤ n
  · exact h.tracks.waiting htaken
  · have hother (hd : Hand) (hhd : s.hand = some hd) : hd.number ≠ n := by
      rcases hunsuccessful with ⟨e, he, rfl, -⟩ | ⟨-, hstopped, -⟩
      · exact Ne.symm (honce.hand hd hhd e he)
      · have hrunning := hturn.running (by rw [hhd]; nofun)
        cases hstopped.symm.trans hrunning
    rcases h.tracks.left (Nat.lt_of_not_le htaken) hother with hspared | ⟨e, he, hn, happlied⟩
    · exact hspared
    · rcases hunsuccessful with ⟨e', he', hn', hends⟩ | ⟨-, -, hnone⟩
      · cases List.inj_on_of_nodup_map honce.unique he he' (hn.trans hn'.symm)
        exact absurd happlied hends
      · exact absurd hn (hnone e he)

/-- **Unsuccessful confirmations change nothing.**  In every shift that begins with a session over a
document, a confirmation that ends as invalidated, declined or unverified, or that is dropped by a
stop, has left the profiles of the store and all files but the draft unchanged in all that the worker
did for it, and it has asked for no scan: whatever the files are, whatever befalls them, and whatever
anybody else changes, but for turning randomization back on between its update and the look after
it, where its code does not suspend. -/
theorem unsuccessful_unchanged {path : Files.Path} {tree : Files.Tree} {messages : Messages}
    {answers : List Dialog.Choice} {session : Session} (hsound : tree.Sound)
    (hopen : durable? path tree messages answers = .ok session) (router : Router) (tickets : Nat)
    (beats : List Beat) :
    let s₀ := begin session.desk router tickets
    let s := s₀.run beats
    (∀ n, s₀.Uncut n beats → (∃ e ∈ s.ended, e.number = n ∧ e.outcome ≠ .applied) ∨ s.Dropped n →
      s₀.Spared path n beats ∧ ∀ source, .scan source ∉ s.callsOf n) ∧
    -- nobody cuts in where all that comes from outside comes while the worker is suspended
    (s₀.Timely beats → ∀ n, s₀.Uncut n beats) := by
  intro s₀ s
  refine ⟨fun n huncut hunsuccessful => ?_, fun htimely => htimely.uncut⟩
  obtain ⟨live, rfl, hkeeps⟩ := keeps_of_durable? hsound hopen
  have hturn : s₀.InTurn := begin_inTurn _ router tickets
  have hcareful : s.Careful live.path n (True ∧ s₀.Spared live.path n beats) :=
    (begin_careful ⟨hkeeps.store, hkeeps.backed.sound⟩ router tickets n).run hturn huncut
  obtain ⟨⟨-, hspared⟩, hfree⟩ :=
    hcareful.unsuccessful (hturn.run beats) ((begin_once _ router tickets).run hturn beats) hunsuccessful
  exact ⟨hspared, hfree⟩

/-- A network is saved, and the dialog for it is accepted; but the draft cannot be renamed, and
meanwhile another network is saved. -/
def FullDisk.unverified : List Beat :=
  [.outside (.add FullDisk.home), .outside (.confirm .first (some "HomeNet/WPA2")), .work, .work,
    .work, .outside (.reply .accepted), .work [none, some FullDisk.full],
    .outside (.add FullDisk.home), .work, .work, .work, .work, .work]

/-- Where the disk is full when randomization is to be turned off, nothing has changed. -/
theorem unsuccessful_unchanged_fullDisk :
    let s₀ := begin FullDisk.opened.desk {} 0
    let s := s₀.run FullDisk.unverified
    s.ended = [⟨0, ⟨.first, some "HomeNet/WPA2", some 0⟩, .unverified⟩] ∧
      s₀.Spared ⟨"profiles.xml"⟩ 0 FullDisk.unverified ∧ ∀ source, .scan source ∉ s.callsOf 0 := by
  intro s₀ s
  have hopen : durable? ⟨"profiles.xml"⟩ {} {} [] = .ok FullDisk.opened := rfl
  have huncut : s₀.Uncut 0 FullDisk.unverified := by simp [FullDisk.unverified, Uncut, Yields]
  have hended : s.ended = [⟨0, ⟨.first, some "HomeNet/WPA2", some 0⟩, .unverified⟩] := by
    decide +kernel
  have hunsuccessful : ∃ e ∈ s.ended, e.number = 0 ∧ e.outcome ≠ .applied := by
    rw [hended]
    exact ⟨_, List.mem_singleton_self _, rfl, nofun⟩
  obtain ⟨hspared, -⟩ :=
    unsuccessful_unchanged Files.Tree.sound_empty hopen {} 0 FullDisk.unverified
  exact ⟨hended, hspared 0 huncut (.inl hunsuccessful)⟩

end Shift

end MacConsent.Session
