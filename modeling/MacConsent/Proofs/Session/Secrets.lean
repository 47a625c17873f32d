import MacConsent.Proofs.Session.Bare
import MacConsent.Proofs.Session.Settling

/-!
# MacConsent.Proofs.Session.Secrets

Passphrases do not leak.  Two shifts that differ in passphrases only stay so,
whatever is done to both of them (`Shift.Alike.run`): the worker carries a
profile from the check of a confirmation to its dialog and on to the update, but
the plans that it goes by make the same requests.  So all that can be seen of the
two runs is the same, and only profiles on their way to and from the store, and
the documents, tell them apart (`Shift.run_hides_passphrases`).
-/

namespace MacConsent.Session

open Desk (Asked Pending)
open Remedy (Outcome Plan)
open Store (Mishap MishapsAlike ContentAlike)

/-- What the observer is told by a line of the log. -/
def Entry.told? : Entry → Option Diagnostic
  | .traced e => some e
  | .called _ => none

/-! ## sessions without passphrases -/

/-- The confirmation that waits, without the passphrase of its profile. -/
def Desk.Pending.bare (pending : Pending) : Pending :=
  { pending with profile := pending.profile.bare }

/-- The session without passphrases, and without its files. -/
def bare (s : Session) : Session :=
  { s with
    desk := s.desk.bare
    queue := { s.queue with current := s.queue.current.map Pending.bare } }

/-- Asking for a confirmation looks at no profile. -/
theorem bare_ask (s : Session) (asked : Asked) : (s.ask asked).bare = s.bare.ask asked := by
  by_cases hrun : s.queue.worker = .running
  · simp [ask, Queue.Serial.submit?, hrun, bare]
  · simp [ask, Queue.Serial.submit?, hrun, bare, Desk.bare_traced, Desk.bare_resolve]

/-- Hearing a tap looks at no profile. -/
theorem bare_hear (s : Session) (event : TapEvent) : (s.hear event).bare = s.bare.hear event := by
  rw [hear, hear]
  generalize Router.hear event = heard
  obtain ⟨told, wanted⟩ := heard
  have htraced : Session.bare { s with desk := s.desk.traced told } =
      { s.bare with desk := s.bare.desk.traced told } := by
    simp only [bare, Desk.bare_traced]
  cases wanted with
  | none => exact htraced
  | some target =>
      dsimp only
      rw [bare_ask, htraced]

theorem bare_hearAll (s : Session) (events : List TapEvent) :
    (s.hearAll events).bare = s.bare.hearAll events := by
  induction events generalizing s with
  | nil => rfl
  | cons event events ih =>
      have hrest := ih (s.hear event)
      rw [bare_hear] at hrest
      exact hrest

/-- A flush looks at no profile. -/
theorem bare_flush (s : Session) : s.flush.2.bare = s.bare.flush.2 := by
  by_cases hrun : s.queue.worker = .running
  · simp [flush, newTicket, Queue.Serial.submit?, hrun, bare]
  · simp [flush, newTicket, Queue.Serial.submit?, hrun, bare, Desk.bare_resolve]

/-- A lost item takes no profile with it. -/
theorem bare_lose (d : Desk) (item : Queue.Item Asked) : (lose d item).bare = lose d.bare item := by
  cases item <;> exact Desk.bare_resolve ..

theorem bare_foldl_lose (d : Desk) (items : List (Queue.Item Asked)) :
    (items.foldl lose d).bare = items.foldl lose d.bare := by
  induction items generalizing d with
  | nil => rfl
  | cons item items ih => rw [List.foldl_cons, ih, bare_lose, List.foldl_cons]

/-- A stop looks at no profile. -/
theorem bare_stop (s : Session) : s.stop.bare = s.bare.stop := by
  by_cases hrun : s.queue.worker = .running
  · cases hcurrent : s.queue.current <;>
      simp [stop, Queue.Serial.stop, hrun, bare, bare_lose, bare_foldl_lose, hcurrent, Pending.bare]
  · simp [stop, Queue.Serial.stop, hrun, bare]

/-- A stop leaves the files alone. -/
theorem stop_tree (s : Session) : s.stop.desk.tree = s.desk.tree :=
  (foldl_lose_untouched _ s.desk).tree

/-- Sessions that differ in passphrases only, as far as their desks do. -/
theorem bare_withDesk {s s' : Session} (h : s.bare = s'.bare) {d d' : Desk}
    (hd : d.bare = d'.bare) :
    Session.bare { s with desk := d } = Session.bare { s' with desk := d' } :=
  congrArg₂ (fun (b : Session) (d : Desk) => { b with desk := d }) h hd

/-! ## shifts without passphrases -/

/-- The call without passphrases, with its maker. -/
def Made.bare (m : Made) : Made := { m with call := m.call.bare }

/-- Stages of a confirmation that differ in passphrases only. -/
inductive Stage.Alike : Stage → Stage → Prop
  | checking {plan plan' : Plan (Except Remedy.Fault Profile)}
      (h : plan.Alike (ResultsAlike fun p p' => p.bare = p'.bare) plan') :
      Alike (.checking plan) (.checking plan')
  | asking {p p' : Profile} (h : p.bare = p'.bare) : Alike (.asking p) (.asking p')
  | concluding {plan plan' : Plan Outcome} (h : plan.Alike Eq plan') :
      Alike (.concluding plan) (.concluding plan')

/-- The same confirmation in hand, but for passphrases. -/
inductive Hand.Alike : Hand → Hand → Prop
  | at (number : Nat) (asked : Asked) {stage stage' : Stage} (h : stage.Alike stage') :
      Alike ⟨number, asked, stage⟩ ⟨number, asked, stage'⟩

/-- Steps that differ in passphrases only. -/
inductive Step.Alike (G : String → String → Prop) : Step → Step → Prop
  | same (e : Step) : Alike G e e
  | write (path : Files.Path) {content content' : Option String}
      (h : ContentAlike G content content') :
      Alike G (.write path content) (.write path content')
  | insert {p p' : Profile} (h : p.bare = p'.bare) : Alike G (.insert p) (.insert p')
  | add {p p' : Profile} (h : p.bare = p'.bare) : Alike G (.add p) (.add p')
  | update {p p' : Profile} (h : p.bare = p'.bare) : Alike G (.update p) (.update p')

/-- Beats that differ in passphrases only, with mishaps at the same points. -/
inductive Beat.Alike (G : String → String → Prop) : Beat → Beat → Prop
  | outside {e e' : Step} (h : e.Alike G e') {mishaps mishaps' : List (Option Mishap)}
      (hm : MishapsAlike G mishaps mishaps') : Alike G (.outside e mishaps) (.outside e' mishaps')
  | listen (channel : Nat) : Alike G (.listen channel) (.listen channel)
  | work {mishaps mishaps' : List (Option Mishap)} (hm : MishapsAlike G mishaps mishaps') :
      Alike G (.work mishaps) (.work mishaps')

variable {G : String → String → Prop}

/-- A beat is like itself. -/
theorem Beat.Alike.refl (b : Beat) : b.Alike G b := by
  have hmishaps : ∀ mishaps, MishapsAlike G mishaps mishaps := fun mishaps =>
    List.forall₂_same.2 fun mishap _ => Store.alike_mishap mishap
  cases b with
  | outside e mishaps => exact .outside (.same e) (hmishaps mishaps)
  | listen channel => exact .listen channel
  | work mishaps => exact .work (hmishaps mishaps)

namespace Shift

/-- The shift without passphrases, without its files and without what is in hand. -/
def bare (s : Shift) : Shift :=
  { s with session := s.session.bare, hand := none, made := s.made.map Made.bare }

/-- Shifts that differ in passphrases only. -/
structure Alike (G : String → String → Prop) (s s' : Shift) : Prop where
  same : s.bare = s'.bare
  tree : s.session.desk.tree.Alike (ContentAlike G) s'.session.desk.tree
  hand : Option.Rel Hand.Alike s.hand s'.hand

theorem bare_noted (s : Shift) (maker : Option (Nat × Asked)) (d : Desk) :
    (s.noted maker d).bare = s.bare.noted maker d.bare := by
  have hbefore : s.bare.session.desk.calls = s.session.desk.calls.map Call.bare :=
    s.session.desk.calls_bare
  simp only [noted, hbefore, d.calls_bare]
  simp [bare, Session.bare, Function.comp_def, Made.bare]

namespace Alike

variable {s s' : Shift} (h : s.Alike G s')

include h

/-- Alike shifts have the same session, but for passphrases. -/
theorem session : s.session.bare = s'.session.bare := congrArg Shift.session h.same

theorem desk : s.session.desk.Alike G s'.session.desk where
  same := congrArg Session.desk h.session
  tree := h.tree

/-- Alike shifts show the same texts. -/
theorem messages : s.session.desk.messages = s'.session.desk.messages :=
  (congrArg Desk.messages h.desk.same :)

theorem tickets : s.session.tickets = s'.session.tickets := (congrArg Session.tickets h.session :)

/-! ## parts of shifts -/

/-- A session may be replaced by alike ones. -/
theorem withSession {session session' : Session} (hsession : session.bare = session'.bare)
    (htree : session.desk.tree.Alike (ContentAlike G) session'.desk.tree) :
    Alike G { s with session } { s' with session := session' } where
  same := congrArg₂ (fun (b : Shift) (session : Session) => { b with session }) h.same hsession
  tree := htree
  hand := h.hand

/-- A desk may be replaced by alike ones. -/
theorem withDesk {d d' : Desk} (hd : d.Alike G d') :
    Alike G { s with session := { s.session with desk := d } }
      { s' with session := { s'.session with desk := d' } } :=
  h.withSession (bare_withDesk h.session hd.same) hd.tree

/-- What a session does that leaves the files alone. -/
theorem moved (f : Session → Session) (hbare : ∀ t, (f t).bare = f t.bare)
    (htree : ∀ t, (f t).desk.tree = t.desk.tree) :
    Alike G { s with session := f s.session } { s' with session := f s'.session } := by
  refine h.withSession ?_ ?_
  · rw [hbare, hbare, h.session]
  · rw [htree, htree]
    exact h.tree

/-- The confirmation in hand may be replaced by alike ones. -/
theorem withHand {hand hand' : Option Hand} (hhand : Option.Rel Hand.Alike hand hand') :
    Alike G { s with hand } { s' with hand := hand' } where
  same := h.same
  tree := h.tree
  hand := hhand

/-- Noting who has made the calls keeps shifts alike. -/
theorem noted (maker : Option (Nat × Asked)) {d d' : Desk} (hd : d.Alike G d') :
    (s.noted maker d).Alike G (s'.noted maker d') where
  same := by rw [bare_noted, bare_noted, h.same, hd.same]
  tree := hd.tree
  hand := h.hand

/-! ## from outside -/

/-- The same choice keeps shifts alike. -/
theorem reply (choice : Dialog.Choice) : (s.reply choice).Alike G (s'.reply choice) := by
  have hunanswered : s.session.desk.unanswered = s'.session.desk.unanswered :=
    (congrArg Desk.unanswered h.desk.same :)
  have hmessages := h.messages
  have hdesk : Desk.Alike G { s.session.desk with unanswered := false }
      { s'.session.desk with unanswered := false } :=
    ⟨congrArg (fun d : Desk => { d with unanswered := false }) h.desk.same, h.tree⟩
  have hplain := h.withDesk hdesk
  have hhand := h.hand
  rw [Shift.reply, Shift.reply, hunanswered]
  split
  · obtain ⟨session, hand, sent, submitted, taken, made, dialogs, ended⟩ := s
    obtain ⟨session', hand', sent', submitted', taken', made', dialogs', ended'⟩ := s'
    dsimp only at hhand hmessages ⊢
    cases hhand with
    | none => exact hplain
    | some hh =>
        obtain ⟨number, asked, hstage⟩ := hh
        cases hstage with
        | checking hplan => exact hplain
        | concluding hplan => exact hplain
        | asking hp =>
            have hplan := Remedy.conclude_alike session.desk.messages asked.id hp choice
            nth_rewrite 2 [hmessages] at hplan
            have hsame := congrArg₂
              (fun (b : Shift) (desk : Desk) => { b with
                session := { b.session with desk, queue := b.session.queue.finish }
                dialogs := b.dialogs.filter (· != number) }) h.same hdesk.same
            exact ⟨hsame, hdesk.tree, .some (.at number asked (.concluding hplan))⟩
  · exact h

/-- Both workers are where they can be stopped, or neither is. -/
theorem isSuspended_eq : s.isSuspended = s'.isSuspended := by
  have hhand := h.hand
  rw [isSuspended, isSuspended]
  generalize s.hand = hand, s'.hand = hand' at hhand
  cases hhand with
  | none => rfl
  | some hh =>
      obtain ⟨number, asked, hstage⟩ := hh
      cases hstage <;> rfl

theorem stop : s.stop.Alike G s'.stop := by
  have hmoved := h.moved Session.stop bare_stop stop_tree
  have hnumbers : ∀ n, s.hand.all (·.number != n) = s'.hand.all (·.number != n) := by
    intro n
    have hhand := h.hand
    generalize s.hand = hand, s'.hand = hand' at hhand
    cases hhand with
    | none => rfl
    | some hh =>
        obtain ⟨number, asked, -⟩ := hh
        rfl
  rw [Shift.stop, Shift.stop, h.isSuspended_eq]
  split
  · simp only [hnumbers]
    generalize (fun n => s'.hand.all (·.number != n)) = stays
    have hsame := congrArg₂ (fun (b : Shift) (session : Session) => { b with
      session, dialogs := b.dialogs.filter stays }) h.same hmoved.session
    exact ⟨hsame, hmoved.tree, .none⟩
  · exact h

/-- Changes that differ in passphrases keep shifts alike. -/
theorem edit {c c' : Store.Change} (hc : c.bare = c'.bare) {mishaps mishaps' : List (Option Mishap)}
    (hm : MishapsAlike G mishaps mishaps') : (s.edit c mishaps).Alike G (s'.edit c' mishaps') := by
  rw [Shift.edit, Shift.edit]
  obtain ⟨m, m', hstore, hstore', -⟩ | ⟨m, m', hstore, hstore', hs⟩ := h.desk.store_cases
  · rw [hstore, hstore']
    exact h
  · rw [hstore, hstore']
    exact h.withDesk (h.desk.change hm hs hc).2

theorem send (events : List TapEvent) : (s.send events).Alike G (s'.send events) :=
  ⟨congrArg (fun b : Shift => b.send events) h.same, h.tree, h.hand⟩

/-- What is done to alike files goes the same way. -/
theorem onFiles {f f' : Files.Tree → Except Files.Fault Files.Tree}
    (hf : ResultsAlike (Files.Tree.Alike (ContentAlike G)) (f s.session.desk.tree)
      (f' s'.session.desk.tree)) :
    (s.session.onFiles f).1 = (s'.session.onFiles f').1 ∧
      Alike G { s with session := (s.session.onFiles f).2 }
        { s' with session := (s'.session.onFiles f').2 } := by
  rw [Session.onFiles, Session.onFiles]
  generalize f s.session.desk.tree = after, f' s'.session.desk.tree = after' at hf
  cases hf with
  | error fault => exact ⟨rfl, h⟩
  | ok htree => exact ⟨rfl, h.withDesk ⟨h.desk.same, htree⟩⟩

/-- What is done to alike stores in memory goes the same way. -/
theorem onMemory {f f' : Store.Memory → Store.Memory}
    (hf : ∀ m m' : Store.Memory, m.bare = m'.bare → (f m).bare = (f' m').bare) :
    (s.session.onMemory f).1 = (s'.session.onMemory f').1 ∧
      Alike G { s with session := (s.session.onMemory f).2 }
        { s' with session := (s'.session.onMemory f').2 } := by
  rw [Session.onMemory, Session.onMemory]
  obtain ⟨m, m', hstore, hstore', hs⟩ | ⟨m, m', hstore, hstore', hs⟩ := h.desk.store_cases
  · rw [hstore, hstore']
    exact ⟨rfl, h.withDesk (h.desk.stored (hf m m' hs))⟩
  · rw [hstore, hstore']
    exact ⟨rfl, h⟩

/-- A direct notification goes the same way, since it looks up no passphrase. -/
theorem notify (id : NetworkId) :
    (s.session.act (.notify id)).1 = (s'.session.act (.notify id)).1 ∧
      (s.outside (.notify id) []).Alike G (s'.outside (.notify id) []) := by
  have hmessages := h.messages
  have hplan := Remedy.offer_alike s.session.desk.messages id
  nth_rewrite 2 [hmessages] at hplan
  obtain ⟨hoffer, hdesk⟩ := Desk.Alike.run hplan h.desk
  exact ⟨congrArg Result.offer hoffer, h.noted none hdesk⟩

/-- What is asked for is put on record with what the session does. -/
theorem submitted (asked : List Asked) {session session' : Session}
    (hmoved : Alike G { s with session } { s' with session := session' }) :
    Alike G { s with session, submitted := s.submittedWith asked }
      { s' with session := session', submitted := s'.submittedWith asked } where
  same := congrArg₂ (fun (b : Shift) (session : Session) => { b with
    session, submitted := b.submittedWith asked }) h.same hmoved.session
  tree := hmoved.tree
  hand := h.hand

theorem confirm (id : NetworkId) (identity : Option String) :
    (s.outside (.confirm id identity) []).Alike G (s'.outside (.confirm id identity) []) := by
  have hmoved := h.moved (fun t => (t.act (.confirm id identity)).2)
    (fun t => bare_ask { t with tickets := t.tickets + 1 } _)
    fun t => (ask_frame { t with tickets := t.tickets + 1 } _).2.tree
  have hsubmitted := h.submitted [⟨id, identity, some s.session.tickets⟩] hmoved
  nth_rewrite 2 [h.tickets] at hsubmitted
  exact hsubmitted

theorem listen (channel : Nat) : (s.listen channel).Alike G (s'.listen channel) := by
  have hsent : s.sent.find? (·.1 == channel) = s'.sent.find? (·.1 == channel) :=
    congrArg (fun b : Shift => b.sent.find? (·.1 == channel)) h.same
  rw [Shift.listen, Shift.listen, hsent]
  split
  · exact h
  · next event _ =>
      have hmoved := h.moved (fun t => t.hear event) (bare_hear · event)
        fun t => (hear_frame t event).2.tree
      have hsubmitted := h.submitted (heardAs event) hmoved
      exact ⟨congrArg (fun b : Shift => { b with sent := b.sent.eraseP (·.1 == channel) })
        hsubmitted.same, hsubmitted.tree, hsubmitted.hand⟩

/-! ## the worker -/

/-- What the worker does to a session on the way from one confirmation to the next. -/
theorem take? : Option.Rel (Alike G) s.take? s'.take? := by
  have hworker : s.session.queue.worker = s'.session.queue.worker :=
    (congrArg (fun t : Session => t.queue.worker) h.session :)
  have hwaiting : s.session.queue.waiting = s'.session.queue.waiting :=
    (congrArg (fun t : Session => t.queue.waiting) h.session :)
  have hheld : s.session.queue.held = s'.session.queue.held :=
    (congrArg (fun t : Session => t.queue.held) h.session :)
  by_cases hrunning : s'.session.queue.worker = .running
  · rw [take?_running hrunning, take?_running (hworker.trans hrunning), hwaiting]
    split
    · next asked items _ =>
        have htaken : s.taken = s'.taken := (congrArg Shift.taken h.same :)
        have hhand : Hand.Alike
            ⟨s.taken, asked,
              .checking (Remedy.check s.session.desk.messages asked.id asked.identity)⟩
            ⟨s'.taken, asked,
              .checking (Remedy.check s'.session.desk.messages asked.id asked.identity)⟩ := by
          rw [htaken, h.messages]
          exact .at _ asked (.checking (Remedy.check_alike _ asked.id asked.identity))
        have hsame := congrArg (fun b : Shift => { b with
          session := { b.session with queue := { b.session.queue with waiting := items } }
          taken := b.taken + 1 }) h.same
        exact .some ⟨hsame, h.tree, .some hhand⟩
    · next ticket items _ =>
        have hpassed := h.withDesk (h.desk.resolve (some ticket) (.flushed (.ok ())))
        have hsame := congrArg (fun b : Shift => { b with session := { b.session with
          queue := { b.session.queue with waiting := items } } }) hpassed.same
        exact .some ⟨hsame, hpassed.tree, h.hand⟩
    · rw [hheld]
      split
      · exact .none
      · have hdrained := h.withDesk (h.desk.traced (.queueDrained "confirmation"))
        have hsame := congrArg (fun b : Shift => { b with session := { b.session with
          queue := { b.session.queue with worker := .drained } } }) hdrained.same
        exact .some ⟨hsame, hdrained.tree, h.hand⟩
  · rw [take?_of_not_running hrunning, take?_of_not_running (hworker ▸ hrunning)]
    exact .none

variable (number : Nat) (asked : Asked)

/-- A confirmation ends with the same outcome. -/
theorem finish (stage stage' : Stage) (outcome : Outcome) :
    (s.finish ⟨number, asked, stage⟩ outcome).Alike G
      (s'.finish ⟨number, asked, stage'⟩ outcome) := by
  have hresolved := h.withDesk (h.desk.resolve asked.ticket (.outcome outcome))
  have hsame := congrArg (fun b : Shift => { b with
    ended := b.ended ++ [Ended.mk number asked outcome] }) hresolved.same
  exact ⟨hsame, hresolved.tree, .none⟩

/-- The dialog asks the same question. -/
theorem openDialog (stage stage' : Stage) {p p' : Profile} (hp : p.bare = p'.bare) :
    (s.openDialog ⟨number, asked, stage⟩ p).Alike G (s'.openDialog ⟨number, asked, stage'⟩ p') := by
  have hmessages := h.messages
  have hanswers : s.session.desk.answers = s'.session.desk.answers :=
    (congrArg Desk.answers h.desk.same :)
  have hquestion : Remedy.question s.session.desk.messages p =
      Remedy.question s'.session.desk.messages p' := by
    rw [hmessages, Remedy.question_eq_of_bare hp]
  obtain ⟨hcalled, htree⟩ :=
    h.desk.called (congrArg Call.bare (congrArg Call.dialog hquestion))
  rw [Shift.openDialog, Shift.openDialog]
  dsimp only [Desk.called] at hcalled htree ⊢
  rw [← hanswers] at hcalled ⊢
  split
  · next choice answers _ =>
      have hplan := Remedy.conclude_alike s.session.desk.messages asked.id hp choice
      nth_rewrite 2 [hmessages] at hplan
      have hdesk := congrArg (fun d : Desk => { d with answers }) hcalled
      exact (h.withHand (.some (.at number asked (.concluding hplan)))).noted _ ⟨hdesk, htree⟩
  · have hdesk := congrArg (fun d : Desk => { d with unanswered := true }) hcalled
    have hpending : Pending.bare ⟨asked, p⟩ = Pending.bare ⟨asked, p'⟩ :=
      congrArg (Pending.mk asked) hp
    have hwaits := congrArg₂ (fun (b : Shift) (pending : Pending) => { b with
      session := { b.session with queue := { b.session.queue with current := some pending } }
      dialogs := b.dialogs ++ [number] }) h.same hpending
    have hopened : Alike G
        { s with
          session := { s.session with
            queue := { s.session.queue with current := some ⟨asked, p⟩ } }
          hand := some ⟨number, asked, .asking p⟩
          dialogs := s.dialogs ++ [number] }
        { s' with
          session := { s'.session with
            queue := { s'.session.queue with current := some ⟨asked, p'⟩ } }
          hand := some ⟨number, asked, .asking p'⟩
          dialogs := s'.dialogs ++ [number] } :=
      ⟨hwaits, h.tree, .some (.at number asked (.asking hp))⟩
    exact hopened.noted _ ⟨hdesk, htree⟩

/-- A confirmation that follows a plan makes the same request, and gets the same answer. -/
theorem request {α : Type} {A : α → α → Prop} {stage : Plan α → Stage}
    (hstage : ∀ x x' : Plan α, x.Alike A x' → (stage x).Alike (stage x'))
    {r r' : Remedy.Request} {next : r.Answer → Plan α} {next' : r'.Answer → Plan α}
    (hplan : (Plan.call r next).Alike A (.call r' next')) (before before' : Stage)
    {mishaps mishaps' : List (Option Mishap)} (hm : MishapsAlike G mishaps mishaps') :
    (s.request ⟨number, asked, before⟩ r (fun a => stage (next a)) mishaps).Alike G
      (s'.request ⟨number, asked, before'⟩ r' (fun a => stage (next' a)) mishaps') := by
  obtain ⟨hgoes, hdesk⟩ := h.desk.call hm hplan
  exact (h.withHand (.some (.at number asked (hstage _ _ hgoes)))).noted _ hdesk

/-- **The confirmation in hand goes on alike**: its plan makes the same requests. -/
theorem goOn? {hand hand' : Hand} (hhand : hand.Alike hand')
    {mishaps mishaps' : List (Option Mishap)} (hm : MishapsAlike G mishaps mishaps') :
    Option.Rel (Alike G) (s.goOn? hand mishaps) (s'.goOn? hand' mishaps') := by
  obtain ⟨number, asked, hstage⟩ := hhand
  cases hstage with
  | asking hp => exact .none
  | @checking plan plan' hplan =>
      cases plan with
      | done result =>
          cases hplan with
          | done hresult =>
              cases hresult with
              | error fault => exact .some (h.finish number asked _ _ _)
              | ok hp => exact .some (h.openDialog number asked _ _ hp)
      | call r next =>
          obtain ⟨r', next', rfl⟩ := hplan.exists_call
          exact .some (h.request number asked (fun _ _ => .checking) hplan _ _ hm)
  | @concluding plan plan' hplan =>
      cases plan with
      | done outcome =>
          cases hplan with
          | done houtcome =>
              cases houtcome
              exact .some (h.finish number asked _ _ _)
      | call r next =>
          obtain ⟨r', next', rfl⟩ := hplan.exists_call
          exact .some (h.request number asked (fun _ _ => .concluding) hplan _ _ hm)

/-- The worker has its turn in both shifts or in neither. -/
theorem work? {mishaps mishaps' : List (Option Mishap)} (hm : MishapsAlike G mishaps mishaps') :
    Option.Rel (Alike G) (s.work? mishaps) (s'.work? mishaps') := by
  have hhand := h.hand
  rw [Shift.work?, Shift.work?]
  generalize s.hand = hand, s'.hand = hand' at hhand
  cases hhand with
  | none => exact h.take?
  | some hh => exact h.goOn? hh hm

end Alike

/-! ## answers -/

/-- What a change of a store in a document comes to, past the remedies. -/
def editAnswer (s : Shift) (c : Store.Change) (mishaps : List (Option Mishap)) : Result :=
  match s.session.desk.store with
  | .memory _ => .unfit
  | .durable store =>
    match ((c.ask Store.Backing.trial store).run ⟨⟨s.session.desk.tree, []⟩, mishaps⟩).1.1 with
    | .error fault => .storeFault fault
    | .ok none => .ok
    | .ok (some id) => .id id

/-- What a beat gives back to whoever is outside. -/
def answer? (s : Shift) : Beat → Option Result
  | .outside (.add p) mishaps => some (s.editAnswer (.add p) mishaps)
  | .outside (.update p) mishaps => some (s.editAnswer (.update p directUid) mishaps)
  | .outside e _ => some (s.session.act e).1
  | .listen _ => none
  | .work _ => none

/-- What a run gives back to whoever is outside. -/
def answers (s : Shift) : List Beat → List Result
  | [] => []
  | b :: beats => (s.answer? b).toList ++ (s.beat b).answers beats

/-- Without mishaps the answer is that of the session. -/
theorem answer?_of_calm (s : Shift) (e : Step) :
    s.answer? (.outside e []) = some (s.session.act e).1 := by
  cases hstore : s.session.desk.store with
  | memory m => cases e <;> simp only [answer?, editAnswer, act, onDurable, hstore]
  | durable store =>
      have hask : ∀ c : Store.Change,
          (c.ask Store.Backing.trial store).run ⟨⟨s.session.desk.tree, []⟩, []⟩ = _ :=
        fun c => Store.agrees_ask store c ⟨s.session.desk.tree, []⟩
      cases e with
      | add p =>
          simp only [answer?, editAnswer, hstore, hask]
          simp only [Store.Change.ask, act, onDurable, hstore, Desk.withFiles, StateT.run_bind]
          generalize (store.add Store.Backing.bench p).run ⟨s.session.desk.tree, []⟩ = after
          obtain ⟨_ | ⟨id, next⟩, bench⟩ := after <;> rfl
      | update p =>
          simp only [answer?, editAnswer, hstore, hask]
          simp only [Store.Change.ask, act, onDurable, hstore, Desk.withFiles, StateT.run_bind]
          generalize (store.update Store.Backing.bench p directUid).run
            ⟨s.session.desk.tree, []⟩ = after
          obtain ⟨_ | next, bench⟩ := after <;> rfl
      | _ => rfl

namespace Alike

variable {s s' : Shift} (h : s.Alike G s')

include h

/-- A change of the store is answered alike. -/
theorem editAnswer {c c' : Store.Change} (hc : c.bare = c'.bare)
    {mishaps mishaps' : List (Option Mishap)} (hm : MishapsAlike G mishaps mishaps') :
    s.editAnswer c mishaps = s'.editAnswer c' mishaps' := by
  rw [Shift.editAnswer, Shift.editAnswer]
  obtain ⟨m, m', hstore, hstore', -⟩ | ⟨m, m', hstore, hstore', hs⟩ := h.desk.store_cases
  · rw [hstore, hstore']
  · obtain ⟨answer, live, live', t, t', hask, hask', -⟩ := h.desk.ask hm hs hc
    rw [hstore, hstore']
    dsimp only
    rw [hask, hask']

/-- The answer to a reply goes by the dialog that waits, whatever is in it. -/
theorem replyAnswer (choice : Dialog.Choice) :
    (s.session.reply choice).1 = (s'.session.reply choice).1 := by
  have hbare : ∀ t : Session, (t.bare.reply choice).1 = (t.reply choice).1 := by
    intro t
    obtain ⟨desk, ⟨waiting, current, worker, held⟩, router, tickets⟩ := t
    cases hunanswered : desk.unanswered <;> cases current <;>
      simp [Session.reply, Session.bare, Desk.bare, hunanswered]
  rw [← hbare, h.session, hbare]

/-- **A step from outside gets the same answer**, and leaves the shifts alike. -/
theorem outside {e e' : Step} (he : e.Alike G e') {mishaps mishaps' : List (Option Mishap)}
    (hm : MishapsAlike G mishaps mishaps') :
    s.answer? (.outside e mishaps) = s'.answer? (.outside e' mishaps') ∧
      (s.outside e mishaps).Alike G (s'.outside e' mishaps') := by
  have hedit {c c' : Store.Change} (hc : c.bare = c'.bare) :=
    And.intro (congrArg some (h.editAnswer hc hm)) (h.edit hc hm)
  have hinsert {p p' : Profile} (hp : p.bare = p'.bare) (m m' : Store.Memory)
      (hs : m.bare = m'.bare) : (m.insert p).bare = (m'.insert p').bare := by
    rw [← m.insert_bare, ← m'.insert_bare, hs, hp]
  have hmode (mode : Store.UpdateMode) (m m' : Store.Memory) (hs : m.bare = m'.bare) :
      Store.Memory.bare { m with mode } = Store.Memory.bare { m' with mode } :=
    congrArg (fun m : Store.Memory => { m with mode }) hs
  have hfail (m m' : Store.Memory) (hs : m.bare = m'.bare) :
      Store.Memory.bare { m with failEnable := true } =
        Store.Memory.bare { m' with failEnable := true } :=
    congrArg (fun m : Store.Memory => { m with failEnable := true }) hs
  have hrouter : s.session.router = s'.session.router :=
    (congrArg Session.router h.session :)
  cases he with
  | write path hcontent => exact (h.onFiles (h.tree.write path hcontent)).imp_left (congrArg some)
  | insert hp => exact (h.onMemory (hinsert hp)).imp_left (congrArg some)
  | @add p p' hp =>
      have hc : Store.Change.bare (.add p) = Store.Change.bare (.add p') :=
        congrArg Store.Change.add hp
      exact hedit hc
  | @update p p' hp =>
      have hc : Store.Change.bare (.update p directUid) =
          Store.Change.bare (.update p' directUid) :=
        congrArg (Store.Change.update · directUid) hp
      exact hedit hc
  | same =>
      cases e with
      | write path content =>
          exact (h.onFiles (h.tree.write path (.same content))).imp_left (congrArg some)
      | makeDirectory path => exact (h.onFiles (h.tree.makeDirectory path)).imp_left (congrArg some)
      | clear path => exact (h.onFiles (h.tree.clear path)).imp_left (congrArg some)
      | insert p => exact (h.onMemory (hinsert rfl)).imp_left (congrArg some)
      | mode mode =>
          exact (h.onMemory (hmode mode)).imp_left (congrArg some)
      | failEnable =>
          exact (h.onMemory hfail).imp_left (congrArg some)
      | add p => exact hedit rfl
      | update p => exact hedit rfl
      | notify id => exact (h.notify id).imp_left (congrArg some)
      | confirm id identity =>
          exact ⟨congrArg (fun n => some (Result.ticket n)) h.tickets, h.confirm id identity⟩
      | flush =>
          have hticket : ∀ t : Session, (t.act .flush).1 = .ticket t.tickets := by
            intro t
            simp only [act, Session.flush, newTicket]
            split <;> rfl
          have hanswer : (s.session.act .flush).1 = (s'.session.act .flush).1 := by
            rw [hticket, hticket, h.tickets]
          exact ⟨congrArg some hanswer,
            h.moved (·.flush.2) bare_flush fun t => (flush_frame t).2.tree⟩
      | reply choice => exact ⟨congrArg some (h.replyAnswer choice), h.reply choice⟩
      | stop => exact ⟨rfl, h.stop⟩
      | tap =>
          have hboard : s.session.desk.board = s'.session.desk.board :=
            (congrArg Desk.board h.desk.same :)
          simp only [answer?, act, Shift.outside, hboard, hrouter]
          cases s'.session.desk.board.find? noticeNumber with
          | none => exact ⟨rfl, h⟩
          | some notification => exact ⟨rfl, h.send _⟩
      | route e =>
          have hanswer : some (s.session.act (.route e)).1 = some (s'.session.act (.route e)).1 :=
            congrArg (fun r : Router => some (Result.routed (r.step e).1)) hrouter
          have hroute := h.moved (fun t => (t.act (.route e)).2) (fun t => bare_hearAll _ _)
            fun t => (hearAll_frame _ _).2.tree
          cases e with
          | send events => exact ⟨hanswer, h.send events⟩
          | _ => exact ⟨hanswer, hroute⟩

/-- **So does a beat.** -/
theorem beat {b b' : Beat} (hb : b.Alike G b') :
    s.answer? b = s'.answer? b' ∧ (s.beat b).Alike G (s'.beat b') := by
  cases hb with
  | outside he hm => exact h.outside he hm
  | listen channel => exact ⟨rfl, h.listen channel⟩
  | work hm =>
      have hwork := h.work? hm
      rw [Shift.beat, Shift.beat]
      generalize s.work? _ = next, s'.work? _ = next' at hwork
      cases hwork with
      | none => exact ⟨rfl, h⟩
      | some hnext => exact ⟨rfl, hnext⟩

omit h in
/-- **And so does a whole run.** -/
theorem run {beats beats' : List Beat} (hbeats : List.Forall₂ (Beat.Alike G) beats beats')
    {s s' : Shift} (h : s.Alike G s') :
    s.answers beats = s'.answers beats' ∧ (s.run beats).Alike G (s'.run beats') := by
  induction hbeats generalizing s s' with
  | nil => exact ⟨rfl, h⟩
  | cons hb hrest ih =>
      obtain ⟨hanswer, hnext⟩ := h.beat hb
      obtain ⟨hanswers, hlast⟩ := ih hnext
      refine ⟨?_, hlast⟩
      rw [answers, answers, hanswer, hanswers]

end Alike

/-- Shifts over alike desks begin alike. -/
theorem begin_alike {desk desk' : Desk} (h : desk.Alike G desk') (router : Router) (tickets : Nat) :
    (begin desk router tickets).Alike G (begin desk' router tickets) where
  same := by
    have hbare : ∀ desk : Desk,
        (begin desk router tickets).bare = begin desk.bare router tickets := by
      intro desk
      simp [begin, bare, Session.bare, Made.bare, Function.comp_def, desk.calls_bare]
    rw [hbare, hbare, h.same]
  tree := h.tree
  hand := .none

/-! ## what can be seen -/

/-- All that can be seen of two shifts is the same.  A profile that was shown by the store or handed
to it may differ in its passphrase, and so may the documents; other files may differ only where
texts from outside have (`G`). -/
structure SeenAlike (G : String → String → Prop) (s s' : Shift) : Prop where
  /-- What the observer is told. -/
  told : s.session.desk.log.filterMap Entry.told? = s'.session.desk.log.filterMap Entry.told?
  /-- All that is requested, with the answers: profiles, updates, notifications, dialogs, messages
  and scans. -/
  log : s.session.desk.log.map Entry.bare = s'.session.desk.log.map Entry.bare
  board : s.session.desk.board = s'.session.desk.board
  posts : s.session.desk.posts = s'.session.desk.posts
  /-- What the tickets were resolved with. -/
  resolved : s.session.desk.resolved = s'.session.desk.resolved
  /-- The outcomes of the confirmations. -/
  ended : s.ended = s'.ended
  /-- The confirmations whose dialogs wait. -/
  dialogs : s.dialogs = s'.dialogs
  store : s.session.desk.store.bare = s'.session.desk.store.bare
  tree : s.session.desk.tree.Alike (ContentAlike G) s'.session.desk.tree

/-- What can be seen of alike shifts is alike. -/
theorem Alike.seen {s s' : Shift} (h : s.Alike G s') : s.SeenAlike G s' where
  told := by
    have hbare : ∀ entries : List Entry,
        (entries.map Entry.bare).filterMap Entry.told? = entries.filterMap Entry.told? := by
      intro entries
      rw [List.filterMap_map]
      congr
      funext entry
      cases entry <;> rfl
    have hlog : s.session.desk.log.map Entry.bare = s'.session.desk.log.map Entry.bare :=
      (congrArg Desk.log h.desk.same :)
    rw [← hbare, hlog, hbare]
  log := (congrArg Desk.log h.desk.same :)
  board := (congrArg Desk.board h.desk.same :)
  posts := (congrArg Desk.posts h.desk.same :)
  resolved := (congrArg Desk.resolved h.desk.same :)
  ended := (congrArg Shift.ended h.same :)
  dialogs := (congrArg Shift.dialogs h.same :)
  store := (congrArg Desk.store h.desk.same :)
  tree := h.tree

/-- **Passphrases do not leak.**  Let the same be done to two desks that differ in passphrases only,
but for the passphrases of profiles that are put into the stores, and let files fail at the same
points.  Then the same is given back, and the same can be seen.  The documents that the stores were
read from may have been written by anybody: texts from outside may differ as they like (`G`). -/
theorem run_hides_passphrases {desk desk' : Desk} (hdesk : desk.Alike G desk') (router : Router)
    (tickets : Nat) {beats beats' : List Beat} (hbeats : List.Forall₂ (Beat.Alike G) beats beats') :
    (begin desk router tickets).answers beats = (begin desk' router tickets).answers beats' ∧
      ((begin desk router tickets).run beats).SeenAlike G
        ((begin desk' router tickets).run beats') := by
  obtain ⟨hanswers, hlast⟩ := (begin_alike hdesk router tickets).run hbeats
  exact ⟨hanswers, hlast.seen⟩

namespace Secrets

/-- A network with a passphrase. -/
def home (passphrase : String) : Profile :=
  { id := .first, ssid := "HomeNet", security := .wpa2, passphrase := some passphrase }

/-- A desk over a document with the network. -/
def opened (passphrase : String) : Desk where
  store := .durable ⟨⟨"profiles.xml"⟩, Store.Roster.empty.insert (home passphrase)⟩
  tree := Files.Tree.put {} ["profiles.xml"] (.file (some (Document.write [home passphrase])))

/-- A write that fails when all is written. -/
def full (passphrase : String) : Mishap :=
  { fault := .refused 28, leftover := some (some (Document.write [home passphrase])) }

/-- The dialog for the network is accepted. -/
def consent : List Beat :=
  [.outside (.notify .first), .outside (.confirm .first (some "HomeNet/WPA2")), .work, .work, .work,
    .outside (.reply .accepted), .work, .work, .work, .work, .work, .work, .work, .work]

/-- The passphrase is changed, at first in vain; then randomization is switched off. -/
def beats (passphrase : String) : List Beat :=
  .outside (.update (home passphrase)) [some (full passphrase)] ::
    .outside (.update (home passphrase)) :: consent

end Secrets

open Secrets in
/-- Two networks with different passphrases, whose documents are the only files. -/
theorem run_hides_passphrases_home :
    ((begin (opened "before") {} 0).run (beats "after")).ended =
        [⟨0, ⟨.first, some "HomeNet/WPA2", some 0⟩, .applied⟩] ∧
      (begin (opened "before") {} 0).answers (beats "after") =
        (begin (opened "vorher") {} 0).answers (beats "nachher") ∧
      ((begin (opened "before") {} 0).run (beats "after")).SeenAlike (fun _ _ => False)
        ((begin (opened "vorher") {} 0).run (beats "nachher")) := by
  have hopened : (opened "before").Alike (fun _ _ => False) (opened "vorher") :=
    ⟨rfl, (Files.Tree.Alike.refl ContentAlike.same {}).put (by decide) (.file (.document rfl))⟩
  have hhome : (home "after").bare = (home "nachher").bare := rfl
  have hfull : MishapsAlike (fun _ _ => False) [some (full "after")] [some (full "nachher")] :=
    .cons (.some ⟨rfl, .some (.document rfl)⟩) .nil
  have hconsent : List.Forall₂ (Beat.Alike fun _ _ => False) consent consent :=
    List.forall₂_same.2 fun b _ => .refl b
  refine ⟨by decide +kernel, ?_⟩
  exact run_hides_passphrases hopened {} 0
    (.cons (.outside (.update hhome) hfull) (.cons (.outside (.update hhome) .nil) hconsent))

end Shift

end MacConsent.Session
