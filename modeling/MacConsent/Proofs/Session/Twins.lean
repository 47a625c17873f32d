import MacConsent.Proofs.Session.Double
import MacConsent.Proofs.Session.Watch

/-!
# MacConsent.Proofs.Session.Twins

Two sessions that differ in the kind of their store only.  Whatever is done to
both, step by step, comes to the same (`Doubles.act`, `Doubles.run`), so a store
in memory tells all there is to tell about confirmations over a document
(`memory_doubles_document`).
-/

namespace MacConsent.Session

open Desk (Asked Pending)

/-! ## sessions -/

/-- The session with a store in memory in place of its document. -/
def inMemory (s : Session) (store : Store.Memory) (tree : Files.Tree) : Session :=
  { s with desk := s.desk.inMemory store tree }

/-- A store in memory in place of the document of a session; a confirmation that waits is for a
known network. -/
structure Doubles (path : Files.Path) (known : NetworkId → Bool) (store : Store.Memory)
    (s : Session) : Prop where
  desk : s.desk.Doubles path known store
  waits : ∀ pending, s.queue.current = some pending → pending.Fits known

variable {path : Files.Path} {known : NetworkId → Bool} {store : Store.Memory} {s s' : Session}
variable {tree : Files.Tree}

/-- What leaves the store and the confirmation that waits alone leaves the double in place. -/
theorem Doubles.of_frame (h : Doubles path known store s)
    (hframe : s'.progress = s.progress ∧ s.desk.Untouched s'.desk) :
    Doubles path known store s' where
  desk := h.desk.untouched hframe.2
  waits := fun pending hpending =>
    h.waits pending ((congrArg Progress.current hframe.1).symm.trans hpending)

/-- **The queue settles alike** over both stores. -/
theorem Doubles.settle (h : Doubles path known store s) (tree : Files.Tree) :
    ∃ store', (s.inMemory store tree).settle = s.settle.inMemory store' tree ∧
      Doubles path known store' s.settle := by
  by_cases hready : s.queue.worker = .running ∧ s.queue.current = none
  · obtain ⟨store', hconsume, h', hfits⟩ := h.desk.consume tree s.queue.waiting
    have hdesk : (s.inMemory store tree).desk = s.desk.inMemory store tree := rfl
    have hqueue : (s.inMemory store tree).queue = s.queue := rfl
    rw [settle_of_ready hready.1 hready.2,
      settle_of_ready (s := s.inMemory store tree) hready.1 hready.2, hdesk, hqueue, hconsume]
    generalize Queue.Serial.consume Desk.work s.desk s.queue.waiting = done at h' hfits ⊢
    obtain ⟨desk, waits, waiting⟩ := done
    have hnone : ∀ pending, s.queue.current = some pending → pending.Fits known :=
      fun _ hsome => by cases hready.2.symm.trans hsome
    cases waits with
    | some pending => exact ⟨store', rfl, h', hfits⟩
    | none =>
        cases s.queue.held with
        | true => exact ⟨store', rfl, h', hnone⟩
        | false =>
            have hdrained : (desk.inMemory store' tree).traced (.queueDrained "confirmation") =
                (desk.traced (.queueDrained "confirmation")).inMemory store' tree :=
              Desk.inMemory_traced rfl
            refine ⟨store', ?_, h'.untouched (desk.traced_untouched _), hnone⟩
            simp only [hdrained]
            rfl
  · rw [settle_of_not_ready hready, settle_of_not_ready (s := s.inMemory store tree) hready]
    exact ⟨store, rfl, h⟩

/-! ## the parts of steps -/

/-- Asking the queue for a confirmation does not depend on where the profiles are. -/
theorem inMemory_ask (asked : Asked) :
    (s.inMemory store tree).ask asked = (s.ask asked).inMemory store tree := by
  have hqueue : (s.inMemory store tree).queue = s.queue := rfl
  rw [ask, ask, hqueue]
  cases s.queue.submit? (.job asked) with
  | some queue => rfl
  | none =>
      have hdesk : (s.inMemory store tree).desk = s.desk.inMemory store tree := rfl
      simp only [hdesk, Desk.inMemory_traced (e := .confirmationDropped asked.id .queueClosed) rfl,
        Desk.inMemory_resolve]
      rfl

/-- A listener tells nothing that a document has to tell. -/
theorem ofDocument_hear (event : TapEvent) : (Router.hear event).1.ofDocument = false := by
  rw [Router.hear]
  split <;> rfl

/-- Hearing a tap does not depend on where the profiles are. -/
theorem inMemory_hear (event : TapEvent) :
    (s.inMemory store tree).hear event = (s.hear event).inMemory store tree := by
  have htold := ofDocument_hear event
  rw [hear, hear]
  generalize Router.hear event = heard at htold ⊢
  obtain ⟨told, wanted⟩ := heard
  have htraced : (s.inMemory store tree).desk.traced told =
      (s.desk.traced told).inMemory store tree := Desk.inMemory_traced htold
  dsimp only
  rw [htraced]
  cases wanted with
  | none => rfl
  | some target => exact inMemory_ask (s := { s with desk := s.desk.traced told }) _

theorem inMemory_hearAll (events : List TapEvent) :
    (s.inMemory store tree).hearAll events = (s.hearAll events).inMemory store tree := by
  induction events generalizing s with
  | nil => rfl
  | cons event events ih =>
      have hrest := ih (s := s.hear event)
      rw [← inMemory_hear] at hrest
      exact hrest

/-- A flush does not depend on where the profiles are. -/
theorem inMemory_flush :
    (s.inMemory store tree).flush = (s.flush.1, s.flush.2.inMemory store tree) := by
  have hqueue : (s.inMemory store tree).queue = s.queue := rfl
  have htickets : (s.inMemory store tree).tickets = s.tickets := rfl
  rw [flush, flush, newTicket, newTicket, htickets]
  dsimp only
  rw [hqueue]
  cases s.queue.submit? (.barrier s.tickets) with
  | some queue => rfl
  | none =>
      have hdesk : (s.inMemory store tree).desk = s.desk.inMemory store tree := rfl
      simp only [hdesk, Desk.inMemory_resolve]
      rfl

theorem inMemory_foldl_lose (items : List (Queue.Item Asked)) (d : Desk) :
    items.foldl lose (d.inMemory store tree) = (items.foldl lose d).inMemory store tree := by
  induction items generalizing d with
  | nil => rfl
  | cons item items ih =>
      have hlost : lose (d.inMemory store tree) item = (lose d item).inMemory store tree := by
        cases item with
        | job asked => exact Desk.inMemory_resolve asked.ticket .dropped
        | barrier ticket => exact Desk.inMemory_resolve (some ticket) _
      rw [List.foldl_cons, hlost, ih, List.foldl_cons]

/-- A stop does not depend on where the profiles are. -/
theorem Doubles.stop (h : Doubles path known store s) (tree : Files.Tree) :
    (s.inMemory store tree).stop = s.stop.inMemory store tree ∧
      Doubles path known store s.stop := by
  have hqueue : (s.inMemory store tree).queue = s.queue := rfl
  have hdesk : (s.inMemory store tree).desk = s.desk.inMemory store tree := rfl
  have hcurrent : ∀ pending, s.queue.stop.1.current = some pending → pending.Fits known := by
    rw [Queue.Serial.stop]
    split
    · exact fun _ hnone => by cases hnone
    · exact h.waits
  rw [Session.stop, Session.stop, hqueue]
  generalize s.queue.stop = stopped at hcurrent ⊢
  obtain ⟨queue, current, waiting⟩ := stopped
  dsimp only at hcurrent ⊢
  rw [hdesk, inMemory_foldl_lose]
  exact ⟨rfl, h.desk.untouched (foldl_lose_untouched _ _), hcurrent⟩

/-- The same choice has the same effect over both stores. -/
theorem Doubles.reply (h : Doubles path known store s) (tree : Files.Tree)
    (choice : Dialog.Choice) :
    ∃ store', (s.inMemory store tree).reply choice =
        ((s.reply choice).1, (s.reply choice).2.inMemory store' tree) ∧
      Doubles path known store' (s.reply choice).2 := by
  have hunanswered : (s.inMemory store tree).desk.unanswered = s.desk.unanswered := rfl
  have hcurrent : (s.inMemory store tree).queue.current = s.queue.current := rfl
  let d : Desk := { s.desk with unanswered := false }
  have hd : d.Doubles path known store := h.desk.of_eq rfl rfl
  rw [Session.reply, Session.reply, hunanswered]
  split
  · dsimp only
    rw [hcurrent]
    cases hwaits : s.queue.current with
    | none => exact ⟨store, rfl, hd, fun _ hsome => by cases hwaits.symm.trans hsome⟩
    | some pending =>
        obtain ⟨store', hconclude, h'⟩ := hd.conclude tree (h.waits pending hwaits) choice
        refine ⟨store', Prod.ext rfl ?_, h', fun _ hnone => by cases hnone⟩
        exact congrArg (fun desk => { s with desk, queue := s.queue.finish }) hconclude
  · exact ⟨store, rfl, h⟩

/-! ## steps -/

/-- What can be done to a session over a store of either kind. -/
inductive Deed
  | notify (id : NetworkId)
  | confirm (id : NetworkId) (identity : Option String)
  | flush
  | reply (choice : Dialog.Choice)
  | route (e : Router.Step)
  | tap
  | stop
  /-- Puts a profile in the place of the one of its id, past the remedies. -/
  | replace (p : Profile)

namespace Deed

/-- The step that this is over a store in memory. -/
def inMemory : Deed → Step
  | .notify id => .notify id
  | .confirm id identity => .confirm id identity
  | .flush => .flush
  | .reply choice => .reply choice
  | .route e => .route e
  | .tap => .tap
  | .stop => .stop
  | .replace p => .insert p

/-- The step that this is over a document. -/
def inDocument : Deed → Step
  | .replace p => .update p
  | deed => deed.inMemory

/-- A profile that is put in has a name, and takes the place of another. -/
def Fits (known : NetworkId → Bool) : Deed → Prop
  | .replace p => p.ssid ≠ "" ∧ known p.id = true
  | _ => True

end Deed

/-- A direct replacement is done to both stores. -/
theorem Doubles.replace (h : Doubles path known store s) (tree : Files.Tree) {p : Profile}
    (hp : p.ssid ≠ "" ∧ known p.id = true) :
    ∃ store', (s.inMemory store tree).act (.insert p) =
        ((s.act (.update p)).1, (s.act (.update p)).2.inMemory store' tree) ∧
      Doubles path known store' (s.act (.update p)).2 := by
  have hthere : (store.roster.find? p.id).isSome = true := (h.desk.known p.id).trans hp.2
  obtain ⟨q, hq⟩ := Option.isSome_iff_exists.1 hthere
  have hallowed : (Store.Change.update p directUid).profile? store.roster = .ok p :=
    (Store.Change.profile?_update_eq_ok directUid).2 ⟨hp.1, ⟨q, hq⟩, rfl⟩
  obtain ⟨tree', hrun, hfiles, -⟩ := Store.Durable.change_granted
    (s := ⟨path, store.roster⟩) (b := ⟨s.desk.tree, []⟩) h.desk.holds.files hallowed
  let told : Entry := .traced (.profileUpdated p.id directUid)
  let d : Desk := { s.desk with
    store := .durable ⟨path, store.roster.insert p⟩, tree := tree', log := s.desk.log ++ [told] }
  have hedit : s.desk.withFiles (do
        return (← Store.Durable.update Store.Backing.bench ⟨path, store.roster⟩ p
          directUid).map ((), ·)) =
      (.ok ((), ⟨path, store.roster.insert p⟩),
        { s.desk with tree := tree', log := s.desk.log ++ [told] }) := by
    have hupdate : (Store.Durable.update Store.Backing.bench ⟨path, store.roster⟩ p directUid).run
        ⟨s.desk.tree, []⟩ = _ := hrun
    rw [Desk.withFiles, StateT.run_bind, hupdate]
    rfl
  have hact : s.act (.update p) = (.ok, { s with desk := d }) := by
    rw [act, onDurable, h.desk.holds.store]
    dsimp only
    rw [hedit]
  have hlog : s.desk.log.filter Entry.isShared = (s.desk.log ++ [told]).filter Entry.isShared := by
    have htold := Desk.filter_told (e := .profileUpdated p.id directUid) rfl s.desk.log []
    rw [htold, List.append_nil]
  refine ⟨store.insert p, ?_, ?_⟩
  · rw [hact]
    change (Result.ok, { s with desk := s.desk.inMemory (store.insert p) tree }) = _
    simp only [inMemory, Desk.inMemory, hlog, d]
  · rw [hact]
    exact ⟨h.desk.insert hp rfl ⟨rfl, hfiles⟩, h.waits⟩

/-- **What is done to a session comes to the same over both stores.** -/
theorem Doubles.act (h : Doubles path known store s) (tree : Files.Tree) {deed : Deed}
    (hdeed : deed.Fits known) :
    ∃ store', (s.inMemory store tree).act deed.inMemory =
        ((s.act deed.inDocument).1, (s.act deed.inDocument).2.inMemory store' tree) ∧
      Doubles path known store' (s.act deed.inDocument).2 := by
  cases deed with
  | notify id =>
      obtain ⟨store', hrun, h'⟩ := h.desk.run tree (Desk.offer_fits s.desk.messages id)
      have hact : ∀ s : Session, s.act (.notify id) =
          (.offer (((Remedy.offer s.desk.messages id).run Desk.carryOut).run s.desk).1, { s with
            desk := (((Remedy.offer s.desk.messages id).run Desk.carryOut).run s.desk).2 }) :=
        fun _ => rfl
      refine ⟨store', ?_, h', h.waits⟩
      have hmessages : (s.inMemory store tree).desk.messages = s.desk.messages := rfl
      have hdesk : (s.inMemory store tree).desk = s.desk.inMemory store tree := rfl
      rw [Deed.inMemory, hact, hmessages, hdesk, hrun]
      rfl
  | confirm id identity =>
      exact ⟨store, Prod.ext rfl (inMemory_ask (s := { s with tickets := s.tickets + 1 }) _),
        h.of_frame (ask_frame { s with tickets := s.tickets + 1 } _)⟩
  | flush =>
      refine ⟨store, ?_, h.of_frame (flush_frame s)⟩
      change (Result.ticket (s.inMemory store tree).flush.1, (s.inMemory store tree).flush.2) = _
      rw [inMemory_flush]
      rfl
  | reply choice => exact h.reply tree choice
  | route e =>
      let routed : Session := { s with router := (s.router.step e).2.1 }
      have hheard : (routed.inMemory store tree).hearAll (s.router.step e).2.2 =
          (routed.hearAll (s.router.step e).2.2).inMemory store tree := inMemory_hearAll _
      exact ⟨store, Prod.ext rfl hheard, h.of_frame (hearAll_frame routed _)⟩
  | tap =>
      have hboard : (s.inMemory store tree).desk.board = s.desk.board := rfl
      have hrouter : (s.inMemory store tree).router = s.router := rfl
      change ∃ store', (s.inMemory store tree).act .tap =
        ((s.act .tap).1, (s.act .tap).2.inMemory store' tree) ∧
          Doubles path known store' (s.act .tap).2
      rw [Session.act, Session.act, hboard, hrouter]
      cases s.desk.board.find? noticeNumber with
      | none => exact ⟨store, rfl, h⟩
      | some notification =>
          exact ⟨store, Prod.ext rfl (inMemory_hearAll _), h.of_frame (hearAll_frame s _)⟩
  | stop => exact ⟨store, Prod.ext rfl (h.stop tree).1, (h.stop tree).2⟩
  | replace p => exact h.replace tree hdeed

/-- What the steps of a run give back, in order. -/
def results (s : Session) : List Step → List Result
  | [] => []
  | e :: steps => (s.step e).1 :: (s.step e).2.results steps

/-- **A step has the same result over both stores.** -/
theorem Doubles.step (h : Doubles path known store s) (tree : Files.Tree) {deed : Deed}
    (hdeed : deed.Fits known) :
    ∃ store', (s.inMemory store tree).step deed.inMemory =
        ((s.step deed.inDocument).1, (s.step deed.inDocument).2.inMemory store' tree) ∧
      Doubles path known store' (s.step deed.inDocument).2 := by
  obtain ⟨store₁, hact, h₁⟩ := h.act tree hdeed
  obtain ⟨store₂, hsettle, h₂⟩ := h₁.settle tree
  refine ⟨store₂, ?_, h₂⟩
  rw [Session.step, hact]
  exact Prod.ext rfl hsettle

/-- **A run has the same results over both stores.** -/
theorem Doubles.run (h : Doubles path known store s) (tree : Files.Tree) {deeds : List Deed}
    (hdeeds : ∀ deed ∈ deeds, deed.Fits known) :
    (s.inMemory store tree).results (deeds.map Deed.inMemory) =
        s.results (deeds.map Deed.inDocument) ∧
      ∃ store', (s.inMemory store tree).run (deeds.map Deed.inMemory) =
          (s.run (deeds.map Deed.inDocument)).inMemory store' tree ∧
        Doubles path known store' (s.run (deeds.map Deed.inDocument)) := by
  induction deeds generalizing store s with
  | nil => exact ⟨rfl, store, rfl, h⟩
  | cons deed deeds ih =>
      obtain ⟨store₁, hstep, h₁⟩ := h.step tree (hdeeds deed List.mem_cons_self)
      obtain ⟨hresults, store', hrun, h'⟩ :=
        ih h₁ fun deed hdeed => hdeeds deed (List.mem_cons_of_mem _ hdeed)
      refine ⟨?_, store', ?_, h'⟩
      · rw [List.map_cons, List.map_cons, results, results, hstep, hresults]
      · have hfirst : (s.inMemory store tree).run ((deed :: deeds).map Deed.inMemory) =
            ((s.inMemory store tree).step deed.inMemory).2.run (deeds.map Deed.inMemory) := rfl
        rw [hfirst, hstep]
        exact hrun

/-! ## from the beginning -/

/-- A session over a store in memory that does what it is asked. -/
def overMemory (r : Store.Roster) (messages : Messages) (answers : List Dialog.Choice) : Session :=
  { desk := { store := .memory { roster := r }, messages, answers } }

/-- A session over a document. -/
def overDocument (path : Files.Path) (tree : Files.Tree) (r : Store.Roster) (messages : Messages)
    (answers : List Dialog.Choice) : Session :=
  { desk := { store := .durable ⟨path, r⟩, messages, tree, answers } }

/-- A session over a store in memory that has come to the same as one over a document. -/
structure Alike (memory document : Session) : Prop where
  /-- The calls of the collaborators, with their answers. -/
  calls : memory.desk.calls = document.desk.calls
  /-- The outcomes, and whatever else has become of tickets. -/
  resolved : memory.desk.resolved = document.desk.resolved
  /-- What the observer was told, with the calls in their places; only what a document tells of is
  left out. -/
  log : memory.desk.log = document.desk.log.filter Entry.isShared
  profiles : memory.desk.store.roster = document.desk.store.roster
  /-- Apart from the store, the files and the log there is no difference. -/
  rest : memory = { document with desk := { document.desk with
    store := memory.desk.store, tree := memory.desk.tree, log := memory.desk.log } }

/-- **A store in memory doubles a document.**  Let one session be over a store in memory that does
what it is asked, and another one over a document where files can be put, both with the same
profiles, which have names.  Let the same be done to both: whatever confirmations and the router
are asked, and direct replacements of profiles that are there, by others with names; ids neither
come nor go.  Then the steps give back the same, and the sessions come to the same: the same calls
are made, tickets are resolved alike, the observer is told the same but for what a document tells
of, and the profiles are the same in the end. -/
theorem memory_doubles_document (messages : Messages) (answers : List Dialog.Choice)
    {path : Files.Path} {tree : Files.Tree} {r : Store.Roster}
    (hfiles : Store.Durable.Writable tree path) (hnames : ∀ p ∈ r.toList, p.ssid ≠ "")
    (deeds : List Deed)
    (hdeeds : ∀ p, .replace p ∈ deeds → p.ssid ≠ "" ∧ ∃ q ∈ r.toList, q.id = p.id) :
    (overMemory r messages answers).results (deeds.map Deed.inMemory) =
        (overDocument path tree r messages answers).results (deeds.map Deed.inDocument) ∧
      Alike ((overMemory r messages answers).run (deeds.map Deed.inMemory))
        ((overDocument path tree r messages answers).run (deeds.map Deed.inDocument)) := by
  let known : NetworkId → Bool := fun id => (r.find? id).isSome
  have hbegin : Doubles path known { roster := r } (overDocument path tree r messages answers) := {
    desk := {
      mode := rfl
      enabling := rfl
      holds := ⟨rfl, hfiles⟩
      named := hnames
      known := fun _ => rfl }
    waits := fun _ hnone => by cases hnone }
  have hfits : ∀ deed ∈ deeds, deed.Fits known := fun deed hdeed => by
    cases deed with
    | replace p =>
        obtain ⟨hname, q, hq, hid⟩ := hdeeds p hdeed
        refine ⟨hname, ?_⟩
        change (r.find? p.id).isSome = true
        rw [← hid, Store.Roster.mem_toList_iff.1 hq]
        rfl
    | _ => trivial
  obtain ⟨hresults, store', hrun, h'⟩ := hbegin.run {} hfits
  refine ⟨hresults, ?_⟩
  have hmemory : (overMemory r messages answers).run (deeds.map Deed.inMemory) = _ := hrun
  rw [hmemory]
  generalize (overDocument path tree r messages answers).run _ = document at h'
  exact {
    calls := document.desk.inMemory_calls store' {}
    resolved := rfl
    log := rfl
    profiles := by
      rw [h'.desk.holds.store]
      rfl
    rest := rfl }

namespace Twins

/-- A network that is saved. -/
def home : Profile := { id := .first, ssid := "HomeNet", security := .wpa2 }

/-- The offer for the network is tapped; while its dialog is open the network gets a passphrase.
Then the dialog is accepted, the worker is stopped, and the offer is tapped once more. -/
def deeds : List Deed :=
  [.route .register, .route .takeSender, .notify .first, .tap,
    .replace { home with passphrase := some "secret" }, .flush, .reply .accepted, .stop, .tap]

end Twins

open Twins in
/-- The sessions come to the same although the profile changes while its dialog waits. -/
theorem memory_doubles_document_replaced :
    Alike ((overMemory (.ofList [home]) {} []).run (deeds.map Deed.inMemory))
      ((overDocument Store.Durable.defaultPath {} (.ofList [home]) {} []).run
        (deeds.map Deed.inDocument)) := by
  have hnames : ∀ p ∈ (Store.Roster.ofList [home]).toList, p.ssid ≠ "" := by decide +kernel
  have hdeeds : ∀ p, .replace p ∈ deeds →
      p.ssid ≠ "" ∧ ∃ q ∈ (Store.Roster.ofList [home]).toList, q.id = p.id := by
    intro p hp
    have hone : p = { home with passphrase := some "secret" } := by
      simpa [deeds] using hp
    subst hone
    exact ⟨by decide, home, by decide +kernel, rfl⟩
  exact (memory_doubles_document {} [] Store.Durable.writable_defaultPath hnames deeds hdeeds).2

end MacConsent.Session
