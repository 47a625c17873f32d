import MacConsent.Proofs.Remedy.Consent
import MacConsent.Proofs.Session.Granted
import MacConsent.Proofs.Session.Line
import MacConsent.Proofs.Session.Settling

/-!
# MacConsent.Proofs.Session.Repetition

Confirmations one after the other over a store in a document.  Each of them does
to the store what its outcome tells (`Desk.confirm_confirmed`); a list of them
has a closed form (`run_consented`) in which only its members count
(`consents_closed`).
-/

namespace MacConsent

/-- The confirmation is asked for, and its dialog is answered if one is opened. -/
def Consent.steps (c : Consent) : List Session.Step :=
  [.confirm c.id c.identity, .reply c.choice]

namespace Session

open Desk (Asked Pending)
open Store.Durable (Writable)

/-! ## one confirmation -/

namespace Desk

variable {d : Desk} {path : Files.Path} {r : Store.Roster} {p : Profile}

/-- A change that can be made is applied. -/
theorem apply_granted (messages : Messages) (h : d.Holds path r) (hname : p.ssid ≠ "")
    (hfound : r.find? p.id = some p) :
    ∃ d', ((Remedy.apply messages p.id p).run carryOut).run d = (.applied, d') ∧
      d'.Holds path (r.insert { p with macPolicy := .disabled, enabled := true }) ∧
      d'.tree.read path = .ok (Document.write
        (r.insert { p with macPolicy := .disabled, enabled := true }).toList) := by
  let changed := p.withDeviceMac
  obtain ⟨tree, hupdate, hfiles, -⟩ :=
    update_granted (p := changed) h hname hfound Remedy.systemUid
  obtain ⟨d₁, hdisable, hsame⟩ := disable_run d p
  rw [hupdate] at hdisable hsame
  have hfind : (r.insert changed).find? p.id = some changed := r.find?_insert_self changed
  have hshown : Remedy.verify p.id
      (Store.Backend.find? (.durable ⟨path, r.insert changed⟩) p.id) = .ok changed := by
    rw [Store.Backend.find?, Store.Backend.roster, hfind]
    rfl
  let d₂ := d₁.called (.toast messages.success)
  have hholds : d₂.Holds path (r.insert changed) := ⟨hsame.store, hsame.tree ▸ hfiles⟩
  obtain ⟨tree', henable, hfiles', hread⟩ :=
    enable_granted hholds (r.find?_insert_self changed) Remedy.systemUid
  have htwice : (r.insert changed).insert { changed with enabled := true } =
      r.insert { changed with enabled := true } :=
    Store.Roster.insert_insert (p := changed) hfound rfl
  rw [htwice] at henable hread
  let d₃ : Desk := { d₂ with
    store := .durable ⟨path, r.insert { changed with enabled := true }⟩, tree := tree'
    log := d₂.log ++ [.traced (.profileEnabled changed.id Remedy.systemUid),
      .called (.enable changed.id Remedy.systemUid (.ok ()))] }
  let d₄ := (d₃.called (.scan Remedy.wifiSource)).traced (.scanRequested Remedy.wifiSource)
  refine ⟨d₄.traced (.randomizationDisabled p.id), ?_, ⟨rfl, hfiles'⟩, hread⟩
  rw [Remedy.apply, Remedy.Plan.bind_eq, Remedy.Plan.run_bind, hdisable]
  dsimp only
  rw [hshown]
  simp only [Remedy.Plan.bind_eq, Remedy.Plan.ask, Remedy.Plan.bind]
  rw [Remedy.Plan.run_call, Remedy.Plan.run_call]
  have htoast : ((carryOut (.toast messages.success)).run d₁).2 = d₂ := rfl
  rw [htoast, henable]
  rfl

/-- A confirmation from its beginning to its end. -/
def confirm (d : Desk) (ticket : Option Nat) (c : Consent) : Desk :=
  match d.start ⟨c.id, c.identity, ticket⟩ with
  | (d, none) => d
  | (d, some pending) => { d with unanswered := false }.conclude pending c.choice

/-- No plan touches the choices of dialogs, or a ticket. -/
theorem run_frame {α : Type} {plan : Remedy.Plan α} {a : α} {d' : Desk}
    (hrun : (plan.run carryOut).run d = (a, d')) :
    d'.answers = d.answers ∧ d'.unanswered = d.unanswered ∧ d'.resolved = d.resolved := by
  obtain rfl : ((plan.run carryOut).run d).2 = d' := congrArg Prod.snd hrun
  exact ⟨Remedy.Plan.run_keeps (fun r _ => carryOut_answers r) plan.all_true d,
    Remedy.Plan.run_keeps (fun r _ => carryOut_unanswered r) plan.all_true d,
    Remedy.Plan.run_keeps (fun r _ => carryOut_resolved r) plan.all_true d⟩

/-- Without a choice to come, a confirmation ends or waits by what its check finds. -/
theorem start_run (hanswers : d.answers = []) (asked : Asked) :
    ∃ d₁, Untouched d d₁ ∧ d₁.resolved = d.resolved ∧
      d.start asked =
        match Remedy.validate asked.id asked.identity (d.store.find? asked.id) with
        | .error fault => (d₁.resolve asked.ticket (.outcome (.invalidated fault)), none)
        | .ok p => ({ d₁ with unanswered := true }, some ⟨asked, p⟩) := by
  obtain ⟨d₁, hrun, hsame⟩ := check_run d d.messages asked.id asked.identity
  have hresolved : d₁.resolved = d.resolved := (run_frame hrun).2.2
  rw [start, hrun]
  cases Remedy.validate asked.id asked.identity (d.store.find? asked.id) with
  | error fault => exact ⟨d₁, hsame, hresolved, rfl⟩
  | ok p =>
      let d₂ := d₁.called (.dialog (Remedy.question d₁.messages p))
      have hupdates : d₂.updates = d₁.updates := by
        rw [updates_of_calls (d₁.called_calls _)]
        exact List.append_nil _
      refine ⟨d₂, hsame.trans ⟨rfl, rfl, rfl, rfl, hupdates⟩, hresolved, ?_⟩
      have hnone : d₂.answers = [] := hsame.answers.trans hanswers
      dsimp only
      split
      · next hsome => cases hsome.symm.trans hnone
      · rfl

/-- What one confirmation makes of a desk whose document can be written. -/
structure Confirmed (path : Files.Path) (r : Store.Roster) (ticket : Option Nat) (c : Consent)
    (d d' : Desk) : Prop where
  holds : d'.Holds path (r.consented [c])
  answers : d'.answers = d.answers
  unanswered : d'.unanswered = false
  resolved : d'.resolved = d.resolved ++ (ticket.map (·, .outcome (c.outcome r))).toList
  saved : c.outcome r = .applied →
    d'.tree.read path = .ok (Document.write (r.consented [c]).toList)
  kept : c.outcome r ≠ .applied → d'.tree = d.tree

/-- A choice decides a confirmation whose profile is stored. -/
theorem conclude_run (h : d.Holds path r) (hname : p.ssid ≠ "") (hfound : r.find? p.id = some p)
    {c : Consent} (hc : c.id = p.id ∧ c.identity = some p.identity) :
    ∃ d', ((Remedy.conclude d.messages p.id p c.choice).run carryOut).run d =
        (c.outcome r, d') ∧
      d'.Holds path (r.consented [c]) ∧
      (c.outcome r = .applied →
        d'.tree.read path = .ok (Document.write (r.consented [c]).toList)) ∧
      (c.outcome r ≠ .applied → d'.tree = d.tree) := by
  obtain ⟨id, identity, choice⟩ := c
  obtain ⟨rfl, rfl⟩ := hc
  have hvalid : Remedy.validate p.id (some p.identity) (r.find? p.id) = .ok p := by
    rw [hfound]
    exact if_pos rfl
  have houtcome := Consent.outcome_of_valid (c := ⟨p.id, some p.identity, choice⟩) hvalid
  by_cases hchoice : choice = .accepted
  · subst hchoice
    obtain ⟨d', hrun, hholds, hread⟩ := apply_granted d.messages h hname hfound
    have happlied : Consent.outcome r ⟨p.id, some p.identity, .accepted⟩ = .applied := houtcome
    rw [happlied, Consent.consented_of_applied hfound]
    exact ⟨d', hrun, hholds, fun _ => hread, fun hne => absurd rfl hne⟩
  · have hdeclined : Consent.outcome r ⟨p.id, some p.identity, choice⟩ = .declined choice :=
      houtcome.trans (if_neg hchoice)
    have hkept : r.consented [⟨p.id, some p.identity, choice⟩] = r :=
      Consent.consented_of_none_applied fun c hc => by
        rw [List.mem_singleton.1 hc, hdeclined]
        nofun
    have hsame := untouched_of_aside (Remedy.conclude_aside d.messages p.id p hchoice) d
    rw [hdeclined, hkept]
    refine ⟨_, Prod.ext ?_ rfl, ⟨hsame.store.trans h.store, hsame.tree ▸ h.files⟩, nofun,
      fun _ => hsame.tree⟩
    rw [Remedy.conclude, if_neg hchoice]
    rfl

/-- **One confirmation**, over a document that can be written and in which every network has a
name. -/
theorem confirm_confirmed (h : d.Holds path r) (hnames : ∀ p ∈ r.toList, p.ssid ≠ "")
    (hanswers : d.answers = []) (hunanswered : d.unanswered = false) (ticket : Option Nat)
    (c : Consent) : Confirmed path r ticket c d (d.confirm ticket c) := by
  obtain ⟨d₁, hsame, hresolved, hstart⟩ := start_run hanswers ⟨c.id, c.identity, ticket⟩
  have hfind : d.store.find? c.id = r.find? c.id := by
    rw [h.store]
    rfl
  rw [confirm, hstart, hfind]
  cases hvalid : Remedy.validate c.id c.identity (r.find? c.id) with
  | error fault =>
      have houtcome := Consent.outcome_of_invalid hvalid
      have hkept : r.consented [c] = r :=
        Consent.consented_of_none_applied fun c' hc' => by
          rw [List.mem_singleton.1 hc', houtcome]
          nofun
      have hall := hsame.trans (resolve_untouched d₁ ticket (.outcome (.invalidated fault)))
      exact {
        holds := by
          rw [hkept]
          exact ⟨hall.store.trans h.store, hall.tree ▸ h.files⟩
        answers := hall.answers
        unanswered := hall.unanswered.trans hunanswered
        resolved := by
          rw [houtcome, ← hresolved]
          exact resolve_resolved ..
        saved := fun happlied => by
          rw [houtcome] at happlied
          cases happlied
        kept := fun _ => hall.tree }
  | ok p =>
      obtain ⟨hfound, hidentity⟩ := Remedy.validate_eq_ok hvalid
      have hid : p.id = c.id := Store.Roster.id_of_find? hfound
      let d₂ : Desk := { d₁ with unanswered := false }
      have hholds : d₂.Holds path r := ⟨hsame.store.trans h.store, hsame.tree ▸ h.files⟩
      have hmem : p ∈ r.toList := List.mem_of_find?_eq_some hfound
      obtain ⟨d', hrun, hafter, hsaved, hkept⟩ := conclude_run (c := c) hholds (hnames p hmem)
        (hid ▸ hfound) ⟨hid.symm, hidentity⟩
      obtain ⟨hanswers', hunanswered', hresolved'⟩ := run_frame hrun
      have hconclude : d₂.conclude ⟨⟨c.id, c.identity, ticket⟩, p⟩ c.choice =
          d'.resolve ticket (.outcome (c.outcome r)) := by
        rw [conclude, ← hid, hrun]
      have hresolve := resolve_untouched d' ticket (.outcome (c.outcome r))
      change Confirmed path r ticket c d (d₂.conclude ⟨⟨c.id, c.identity, ticket⟩, p⟩ c.choice)
      rw [hconclude]
      exact {
        holds := ⟨hresolve.store.trans hafter.store, hresolve.tree ▸ hafter.files⟩
        answers := hresolve.answers.trans (hanswers'.trans hsame.answers)
        unanswered := hresolve.unanswered.trans hunanswered'
        resolved := by rw [resolve_resolved, hresolved', ← hresolved]
        saved := fun happlied => hresolve.tree ▸ hsaved happlied
        kept := fun hne => hresolve.tree.trans ((hkept hne).trans hsame.tree) }

end Desk

/-! ## confirmations one after the other -/

/-- No confirmation is under way or waits, and no choice of a dialog is known beforehand. -/
structure Resting (s : Session) : Prop where
  queue : s.queue = {}
  answers : s.desk.answers = []
  unanswered : s.desk.unanswered = false

variable {s : Session} {path : Files.Path} {r : Store.Roster}

/-- A confirmation that is asked for alone, and whose dialog is answered. -/
theorem run_steps (h : s.Resting) (c : Consent) :
    s.run c.steps =
      { s with desk := s.desk.confirm (some s.tickets) c, tickets := s.tickets + 1 } := by
  obtain ⟨desk, queue, router, tickets⟩ := s
  obtain ⟨hqueue, hanswers, hunanswered⟩ := h
  dsimp only at hqueue hanswers hunanswered ⊢
  subst hqueue
  let asked : Asked := ⟨c.id, c.identity, some tickets⟩
  obtain ⟨d₁, hsame, -, hstart⟩ := Desk.start_run hanswers asked
  have hasked : (step ⟨desk, {}, router, tickets⟩ (.confirm c.id c.identity)).2 =
      let started : Session := ⟨(desk.start asked).1, { current := (desk.start asked).2 }, router,
        tickets + 1⟩
      if (desk.start asked).2.isSome then started else started.settle :=
    settle_job (s := ⟨desk, { waiting := [.job asked] }, router, tickets + 1⟩) rfl rfl rfl
  change
    (step (step ⟨desk, {}, router, tickets⟩ (.confirm c.id c.identity)).2 (.reply c.choice)).2 = _
  rw [hasked, Desk.confirm, hstart]
  cases Remedy.validate asked.id asked.identity (desk.store.find? asked.id) with
  | error fault =>
      let ended : Session := ⟨d₁.resolve (some tickets) (.outcome (.invalidated fault)), {}, router,
        tickets + 1⟩
      have hidle : ended.settle = ended := settle_idle rfl rfl rfl
      have hclosed : ¬ ended.desk.unanswered = true := by
        have hlost := Desk.resolve_untouched d₁ (some tickets) (.outcome (.invalidated fault))
        rw [hlost.unanswered, hsame.unanswered, hunanswered]
        exact Bool.false_ne_true
      change (ended.settle.step (.reply c.choice)).2 = ended
      rw [hidle]
      change (ended.reply c.choice).2.settle = ended
      rw [reply, if_neg hclosed]
      exact hidle
  | ok p =>
      let ended : Session := ⟨{ d₁ with unanswered := false }.conclude ⟨asked, p⟩ c.choice, {},
        router, tickets + 1⟩
      have hidle : ended.settle = ended := settle_idle rfl rfl rfl
      exact hidle

/-- What confirmations make of a session, going by the profiles at the beginning. -/
structure Consented (path : Files.Path) (r : Store.Roster) (cs : List Consent) (s t : Session) :
    Prop where
  resting : t.Resting
  holds : t.desk.Holds path (r.consented cs)
  tickets : t.tickets = s.tickets + cs.length
  resolved : t.desk.resolved =
    s.desk.resolved ++ cs.mapIdx fun i c => (s.tickets + i, .outcome (c.outcome r))
  saved : (∃ c ∈ cs, c.outcome r = .applied) →
    t.desk.tree.read path = .ok (Document.write (r.consented cs).toList)
  kept : (∀ c ∈ cs, c.outcome r ≠ .applied) → t.desk.tree = s.desk.tree

/-- **Confirmations one after the other**: what they come to together. -/
theorem run_consented (hresting : s.Resting) (h : s.desk.Holds path r)
    (hnames : ∀ p ∈ r.toList, p.ssid ≠ "") (cs : List Consent) :
    Consented path r cs s (s.run (cs.flatMap Consent.steps)) := by
  induction cs generalizing s r with
  | nil =>
      exact {
        resting := hresting
        holds := by
          rw [Consent.consented_nil]
          exact h
        tickets := rfl
        resolved := (List.append_nil _).symm
        saved := fun ⟨_, hc, _⟩ => absurd hc List.not_mem_nil
        kept := fun _ => rfl }
  | cons c cs ih =>
      have hfirst := Desk.confirm_confirmed h hnames hresting.answers hresting.unanswered
        (some s.tickets) c
      let s₁ : Session :=
        { s with desk := s.desk.confirm (some s.tickets) c, tickets := s.tickets + 1 }
      have hresting₁ : s₁.Resting :=
        ⟨hresting.queue, hfirst.answers.trans hresting.answers, hfirst.unanswered⟩
      have hnames₁ : ∀ p ∈ (r.consented [c]).toList, p.ssid ≠ "" := fun p hp => by
        obtain ⟨q, hq, rfl⟩ := List.mem_map.1 hp
        rw [Profile.consented_ssid]
        exact hnames q hq
      have hrest := ih hresting₁ hfirst.holds hnames₁
      have hrun : s.run ((c :: cs).flatMap Consent.steps) = s₁.run (cs.flatMap Consent.steps) := by
        rw [List.flatMap_cons, run, List.foldl_append]
        exact congrArg (run · _) (run_steps hresting c)
      rw [hrun]
      exact {
        resting := hrest.resting
        holds := by
          rw [Consent.consented_cons]
          exact hrest.holds
        tickets := by
          rw [hrest.tickets, List.length_cons, ← Nat.add_assoc, Nat.add_right_comm]
        resolved := by
          rw [hrest.resolved, hfirst.resolved, List.mapIdx_cons, List.append_assoc]
          simp only [Consent.outcome_consented, s₁, Nat.add_zero, Nat.add_right_comm _ 1,
            Nat.add_assoc]
          rfl
        saved := fun ⟨c', hc', happlied⟩ => by
          rw [Consent.consented_cons]
          by_cases hlater : ∃ c' ∈ cs, c'.outcome (r.consented [c]) = .applied
          · exact hrest.saved hlater
          · -- the document has not been written since the first one
            have hnone : ∀ c' ∈ cs, c'.outcome (r.consented [c]) ≠ .applied :=
              fun c' hc' happlied => hlater ⟨c', hc', happlied⟩
            rw [hrest.kept hnone, Consent.consented_of_none_applied hnone]
            refine hfirst.saved ?_
            rcases List.mem_cons.1 hc' with rfl | hc'
            · exact happlied
            · exact absurd ((Consent.outcome_consented _ _).trans happlied) (hnone c' hc')
        kept := fun hnone => by
          rw [hrest.kept fun c' hc' => ?_]
          · exact hfirst.kept (hnone c List.mem_cons_self)
          · rw [Consent.outcome_consented]
            exact hnone c' (List.mem_cons_of_mem c hc') }

/-- **The order and the repetition of confirmations do not matter.**  Over a store in a document
where files can be put and in which every network has a name, let confirmations be asked for and
their dialogs be answered, one after the other.  Then the networks for which one of them has
captured the identity and was accepted use the device's own address and are enabled, and all else
is as it was; the document holds these profiles if one was applied, and no file has changed
otherwise.  How each of them ends depends on the profiles at the beginning alone.  So any list of
the same confirmations, in whatever order and however often, leaves the same store and the same
text in its document. -/
theorem consents_closed (hresting : s.Resting) (hstore : s.desk.store = .durable ⟨path, r⟩)
    (hfiles : Writable s.desk.tree path) (hnames : ∀ p ∈ r.toList, p.ssid ≠ "")
    (cs : List Consent) :
    ∃ r' : Store.Roster,
      (s.run (cs.flatMap Consent.steps)).desk.store = .durable ⟨path, r'⟩ ∧
      r'.toList = r.toList.map (Profile.consented cs) ∧
      ((∃ c ∈ cs, c.outcome r = .applied) →
        (s.run (cs.flatMap Consent.steps)).desk.tree.read path =
          .ok (Document.write r'.toList)) ∧
      ((∀ c ∈ cs, c.outcome r ≠ .applied) →
        (s.run (cs.flatMap Consent.steps)).desk.tree = s.desk.tree) ∧
      (s.run (cs.flatMap Consent.steps)).desk.resolved =
        s.desk.resolved ++ cs.mapIdx (fun i c => (s.tickets + i, .outcome (c.outcome r))) ∧
      ∀ cs' : List Consent, (∀ c, c ∈ cs' ↔ c ∈ cs) →
        (s.run (cs'.flatMap Consent.steps)).desk.store = .durable ⟨path, r'⟩ ∧
        (s.run (cs'.flatMap Consent.steps)).desk.tree.read path =
          (s.run (cs.flatMap Consent.steps)).desk.tree.read path := by
  have hclosed := run_consented hresting ⟨hstore, hfiles⟩ hnames
  refine ⟨r.consented cs, (hclosed cs).holds.store, rfl, (hclosed cs).saved, (hclosed cs).kept,
    (hclosed cs).resolved, fun cs' hsame => ?_⟩
  have hroster : r.consented cs' = r.consented cs :=
    Store.Roster.ext_toList (congrArg r.toList.map (Profile.consented_congr hsame))
  refine ⟨hroster ▸ (hclosed cs').holds.store, ?_⟩
  by_cases happlied : ∃ c ∈ cs, c.outcome r = .applied
  · obtain ⟨c, hc, hc'⟩ := happlied
    rw [(hclosed cs).saved ⟨c, hc, hc'⟩, (hclosed cs').saved ⟨c, (hsame c).2 hc, hc'⟩, hroster]
  · have hnone : ∀ c ∈ cs, c.outcome r ≠ .applied := fun c hc hc' => happlied ⟨c, hc, hc'⟩
    rw [(hclosed cs).kept hnone, (hclosed cs').kept fun c hc => hnone c ((hsame c).1 hc)]

namespace Repetition

/-- A network at home. -/
def home : Profile := { id := .first, ssid := "HomeNet", security := .wpa2, enabled := false }

/-- A network that nobody consents to. -/
def cafe : Profile :=
  { home with id := { val := 3 }, ssid := "Cafe", security := .unsecured }

/-- A session over both networks. -/
def session : Session :=
  { desk := { store := .durable ⟨Store.Durable.defaultPath, .ofList [home, cafe]⟩ } }

/-- The network at home is accepted twice; the other one is declined, and meant by a notification
that is out of date. -/
def consents : List Consent :=
  [⟨home.id, some "HomeNet/WPA2", .accepted⟩, ⟨cafe.id, some "Cafe/WPA3", .accepted⟩,
    ⟨cafe.id, some "Cafe/OPEN", .rejected⟩, ⟨home.id, some "HomeNet/WPA2", .accepted⟩]

end Repetition

open Repetition in
/-- Taken backwards, the confirmations of both networks lead to the same store: only the network at
home has changed. -/
theorem consents_closed_backwards :
    ∃ r' : Store.Roster,
      r'.toList = [{ home with macPolicy := .disabled, enabled := true }, cafe] ∧
      (session.run (consents.flatMap Consent.steps)).desk.store =
        .durable ⟨Store.Durable.defaultPath, r'⟩ ∧
      (session.run (consents.reverse.flatMap Consent.steps)).desk.store =
        .durable ⟨Store.Durable.defaultPath, r'⟩ ∧
      (session.run (consents.flatMap Consent.steps)).desk.resolved =
        [(0, .outcome .applied),
          (1, .outcome (.invalidated (.stale cafe.id (some "Cafe/WPA3") "Cafe/OPEN"))),
          (2, .outcome (.declined .rejected)), (3, .outcome .applied)] := by
  obtain ⟨r', hstore, hlist, -, -, hresolved, hsame⟩ :=
    consents_closed (s := session) ⟨rfl, rfl, rfl⟩ rfl Store.Durable.writable_defaultPath
      (by decide +kernel) consents
  refine ⟨r', hlist.trans (by decide +kernel), hstore,
    (hsame consents.reverse fun c => List.mem_reverse).1, hresolved.trans (by decide +kernel)⟩

end Session

end MacConsent
