import Mathlib.Data.List.Nodup
import MacConsent.Proofs.Session.Applied

/-!
# MacConsent.Proofs.Session.Moves

What one beat of a shift can do, said once (`Shift.Move`).  Most beats leave the
confirmation in hand and the account of all others alone (`Shift.Calm`): what
listeners do, what the worker does with a barrier, and all from outside but a
choice for the dialog that waits and a stop.  What is left is about the
confirmation in hand: it is taken, makes a request, opens its dialog, gets a
choice, ends or is dropped.  What every move keeps, a run keeps
(`Shift.run_keeps`).  Each call is one of the confirmation that has made it
(`Shift.callsOf`), and no confirmation ends twice (`Shift.Once`).
-/

namespace MacConsent.Session

open Desk (Asked)
open Remedy (Outcome Plan Request)
open Store (Mishap)

/-- The change of a store in a document that is made from outside. -/
def Step.change? : Step → Option Store.Change
  | .add p => some (.add p)
  | .update p => some (.update p directUid)
  | _ => none

/-- Whether the worker has its turn. -/
def Beat.isWork : Beat → Bool
  | .work _ => true
  | _ => false

/-! ## what is only noted -/

namespace Desk

/-- A view of a desk shows neither the log nor which tickets are resolved. -/
structure Blind {γ : Type} (view : Desk → γ) : Prop where
  log (d : Desk) (log : List Entry) : view { d with log } = view d
  resolved (d : Desk) (resolved : List (Nat × Resolution)) : view { d with resolved } = view d

/-- The texts of the dialog are neither log nor ticket. -/
theorem messages_blind : Blind messages := ⟨fun _ _ => rfl, fun _ _ => rfl⟩

/-- No request changes the texts of the dialog. -/
theorem carryOutAmid_messages (mishaps : List (Option Mishap)) (r : Request) (d : Desk) :
    ((carryOutAmid mishaps r).run d).2.messages = d.messages := by
  cases hstore : d.store <;> cases r <;> simp only [carryOutAmid, StateT.run, hstore] <;> rfl

namespace Blind

variable {γ : Type} {view : Desk → γ}

theorem resolve (h : Blind view) (d : Desk) (ticket : Option Nat) (r : Resolution) :
    view (d.resolve ticket r) = view d := by
  cases ticket with
  | none => rfl
  | some ticket => exact h.resolved d _

/-- Asking the queue for a confirmation resolves a ticket at most. -/
theorem ask (h : Blind view) (s : Session) (asked : Asked) :
    view (s.ask asked).desk = view s.desk := by
  unfold Session.ask
  split
  · rfl
  · exact (h.resolve ..).trans (h.log s.desk _)

/-- A tap that is heard is noted, and at most asks for a confirmation. -/
theorem hear (h : Blind view) (s : Session) (event : TapEvent) :
    view (s.hear event).desk = view s.desk := by
  rw [Session.hear]
  obtain ⟨told, wanted⟩ := Router.hear event
  cases wanted with
  | none => exact h.log s.desk _
  | some target => exact (h.ask { s with desk := s.desk.traced told } _).trans (h.log s.desk _)

/-- A flush resolves a ticket at most. -/
theorem flush (h : Blind view) (s : Session) : view s.flush.2.desk = view s.desk := by
  rw [Session.flush, newTicket]
  dsimp only
  split
  · rfl
  · exact h.resolve s.desk (some s.tickets) _

/-- A stop resolves the tickets of what is lost. -/
theorem stop (h : Blind view) (s : Session) : view s.stop.desk = view s.desk := by
  have hlost (items : List (Queue.Item Asked)) (d : Desk) : view (items.foldl lose d) = view d := by
    induction items generalizing d with
    | nil => rfl
    | cons item items ih =>
        refine (ih (lose d item)).trans ?_
        cases item with
        | job asked => exact h.resolve d asked.ticket _
        | barrier ticket => exact h.resolve d (some ticket) _
  exact hlost _ s.desk

end Blind

end Desk

namespace Shift

variable {s s' : Shift} {b : Beat}

/-! ## the calls of a confirmation -/

/-- The calls that a confirmation has made, in order. -/
def callsOf (s : Shift) (n : Nat) : List Call :=
  (s.made.filter fun m => m.maker.any (·.1 == n)).map Made.call

/-- The calls that are noted are those of their maker. -/
theorem callsOf_noted (s : Shift) (maker : Option (Nat × Asked)) {desk : Desk} {more : List Call}
    (hcalls : desk.calls = s.session.desk.calls ++ more) (n : Nat) :
    (s.noted maker desk).callsOf n =
      s.callsOf n ++ if maker.any (·.1 == n) then more else [] := by
  rw [callsOf, noted, hcalls, List.drop_left, List.filter_append, List.map_append]
  refine congrArg (s.callsOf n ++ ·) ?_
  rw [List.filter_map, List.map_map]
  cases hmaker : maker.any (·.1 == n)
  · simp [Function.comp_def, hmaker]
  · simp [Function.comp_def, hmaker]

/-- A request is a call of the confirmation that makes it, if it is one at all. -/
theorem callsOf_request (s : Shift) (hd : Hand) (r : Request) (next : r.Answer → Stage)
    (mishaps : List (Option Mishap)) (n : Nat) :
    (s.request hd r next mishaps).callsOf n = s.callsOf n ++
      if hd.number = n then
        (Call.of? r ((Desk.carryOutAmid mishaps r).run s.session.desk).1).toList
      else [] := by
  have hcalls := Desk.carryOutAmid_records mishaps r s.session.desk
  refine (callsOf_noted _ _ hcalls n).trans ?_
  simp [callsOf]

/-- Opening the dialog is a call of the confirmation that opens it. -/
theorem callsOf_openDialog (s : Shift) (hd : Hand) (p : Profile) (n : Nat) :
    (s.openDialog hd p).callsOf n = s.callsOf n ++
      if hd.number = n then [.dialog (Remedy.question s.session.desk.messages p)] else [] := by
  have hcalls := s.session.desk.called_calls (.dialog (Remedy.question s.session.desk.messages p))
  rw [openDialog]
  dsimp only
  split
  · refine (callsOf_noted _ _ hcalls n).trans ?_
    simp [callsOf]
  · refine (callsOf_noted _ _ hcalls n).trans ?_
    simp [callsOf]

/-- Another confirmation makes no call by it. -/
theorem callsOf_request_of_ne {n : Nat} {hd : Hand} (h : hd.number ≠ n) (s : Shift) (r : Request)
    (next : r.Answer → Stage) (mishaps : List (Option Mishap)) :
    (s.request hd r next mishaps).callsOf n = s.callsOf n := by
  rw [callsOf_request, if_neg h, List.append_nil]

/-- Another confirmation opens no dialog by it. -/
theorem callsOf_openDialog_of_ne {n : Nat} {hd : Hand} (h : hd.number ≠ n) (s : Shift) (p : Profile) :
    (s.openDialog hd p).callsOf n = s.callsOf n := by
  rw [callsOf_openDialog, if_neg h, List.append_nil]

/-- A stop makes no call. -/
theorem callsOf_stop (s : Shift) (n : Nat) : s.stop.callsOf n = s.callsOf n := by
  rw [stop]
  split <;> rfl

/-- What remains the same when a dialog is opened. -/
structure Opening (s s' : Shift) : Prop where
  taken : s'.taken = s.taken
  ended : s'.ended = s.ended
  submitted : s'.submitted = s.submitted
  sent : s'.sent = s.sent
  worker : s'.session.queue.worker = s.session.queue.worker
  waiting : s'.session.queue.waiting = s.session.queue.waiting
  store : s'.session.desk.store = s.session.desk.store
  tree : s'.session.desk.tree = s.session.desk.tree
  messages : s'.session.desk.messages = s.session.desk.messages

/-- A confirmation that opens its dialog waits for a choice, or goes on with one. -/
theorem openDialog_rest (s : Shift) (hd : Hand) (p : Profile) :
    ∃ stage, (s.openDialog hd p).hand = some { hd with stage } ∧
      (stage = .asking p ∨ ∃ choice,
        stage = .concluding (Remedy.conclude s.session.desk.messages hd.asked.id p choice)) ∧
      s.Opening (s.openDialog hd p) := by
  rw [openDialog]
  dsimp only
  split
  · next choice _ _ => exact ⟨_, rfl, .inr ⟨choice, rfl⟩, rfl, rfl, rfl, rfl, rfl, rfl, rfl, rfl, rfl⟩
  · exact ⟨_, rfl, .inl rfl, rfl, rfl, rfl, rfl, rfl, rfl, rfl, rfl, rfl⟩

/-! ## what a beat leaves alone -/

/-- The confirmations are as far as they were; at most, more were asked for. -/
structure Calm (s s' : Shift) : Prop where
  hand : s'.hand = s.hand
  taken : s'.taken = s.taken
  ended : s'.ended = s.ended
  submitted : s.submitted <+: s'.submitted
  calls : ∀ n, s'.callsOf n = s.callsOf n
  messages : s'.session.desk.messages = s.session.desk.messages

/-- A store in a document is left alone, and its files remain sound. -/
structure Apart (s s' : Shift) : Prop where
  store : ∀ live, s.session.desk.store = .durable live → s'.session.desk.store = .durable live
  sound : s.session.desk.tree.Sound → s'.session.desk.tree.Sound

theorem Calm.refl (s : Shift) : s.Calm s :=
  ⟨rfl, rfl, rfl, List.prefix_refl _, fun _ => rfl, rfl⟩

/-- Where nobody touches the desk, the store and the calls are as before. -/
theorem Apart.of_untouched (h : s.session.desk.Untouched s'.session.desk) : s.Apart s' :=
  ⟨fun _ hlive => h.store.trans hlive, fun hsound => h.tree ▸ hsound⟩

/-- What one beat can do. -/
inductive Move (s : Shift) : Beat → Shift → Prop
  /-- It is about other things. -/
  | aside {b : Beat} {s' : Shift} (hothers : b.isWork = false) (calm : s.Calm s')
      (apart : s.Apart s') : Move s b s'
  /-- The worker is about other things, or it waits. -/
  | idle {s' : Shift} (mishaps : List (Option Mishap)) (calm : s.Calm s')
      (same : s.session.desk.Untouched s'.session.desk) (sent : s'.sent = s.sent) :
      Move s (.work mishaps) s'
  /-- The store in a document is changed from outside. -/
  | edited {e : Step} {c : Store.Change} (mishaps : List (Option Mishap))
      (hchange : e.change? = some c) : Move s (.outside e mishaps) (s.edit c mishaps)
  /-- The dialog that waits gets its choice. -/
  | replied {number : Nat} {asked : Asked} {p : Profile} (choice : Dialog.Choice)
      (mishaps : List (Option Mishap)) (hhand : s.hand = some ⟨number, asked, .asking p⟩) :
      Move s (.outside (.reply choice) mishaps)
        { s with
          session :=
            { s.session with
              desk := { s.session.desk with unanswered := false }
              queue := s.session.queue.finish }
          hand := some ⟨number, asked,
            .concluding (Remedy.conclude s.session.desk.messages asked.id p choice)⟩
          dialogs := s.dialogs.filter (· != number) }
  /-- The worker is stopped, and the confirmation whose dialog waits is dropped. -/
  | stopped (mishaps : List (Option Mishap)) (hsuspended : s.isSuspended = true) :
      Move s (.outside .stop mishaps) s.stop
  /-- The worker takes a confirmation in hand. -/
  | took {asked : Asked} {waiting : List (Queue.Item Asked)} (mishaps : List (Option Mishap))
      (hhand : s.hand = none) (hwaiting : s.session.queue.waiting = .job asked :: waiting) :
      Move s (.work mishaps)
        { s with
          session := { s.session with queue := { s.session.queue with waiting } }
          hand := some ⟨s.taken, asked,
            .checking (Remedy.check s.session.desk.messages asked.id asked.identity)⟩
          taken := s.taken + 1 }
  /-- The confirmation in hand makes a request of its check. -/
  | checked {number : Nat} {asked : Asked} {r : Request}
      {next : r.Answer → Plan (Except Remedy.Fault Profile)} (mishaps : List (Option Mishap))
      (hhand : s.hand = some ⟨number, asked, .checking (.call r next)⟩) :
      Move s (.work mishaps)
        (s.request ⟨number, asked, .checking (.call r next)⟩ r (fun a => .checking (next a)) mishaps)
  /-- The confirmation in hand opens its dialog. -/
  | opened {number : Nat} {asked : Asked} {p : Profile} (mishaps : List (Option Mishap))
      (hhand : s.hand = some ⟨number, asked, .checking (.done (.ok p))⟩) :
      Move s (.work mishaps) (s.openDialog ⟨number, asked, .checking (.done (.ok p))⟩ p)
  /-- The confirmation in hand makes a request after its dialog. -/
  | concluded {number : Nat} {asked : Asked} {r : Request} {next : r.Answer → Plan Outcome}
      (mishaps : List (Option Mishap))
      (hhand : s.hand = some ⟨number, asked, .concluding (.call r next)⟩) :
      Move s (.work mishaps)
        (s.request ⟨number, asked, .concluding (.call r next)⟩ r (fun a => .concluding (next a))
          mishaps)
  /-- The confirmation in hand comes to its outcome. -/
  | finished {hd : Hand} {outcome : Outcome} (mishaps : List (Option Mishap))
      (hhand : s.hand = some hd) (houtcome : hd.outcome? = some outcome) :
      Move s (.work mishaps) (s.finish hd outcome)

/-- A direct change of the store is no affair of any confirmation. -/
theorem edit_calm (s : Shift) (c : Store.Change) (mishaps : List (Option Mishap)) :
    s.Calm (s.edit c mishaps) := by
  rw [edit]
  split
  · exact .refl s
  · exact ⟨rfl, rfl, rfl, List.prefix_refl _, fun _ => rfl, rfl⟩

/-! ## beats of others -/

/-- More confirmations are taken on, none are taken back. -/
theorem submitted_grows (s : Shift) (asked : List Asked) :
    s.submitted <+: s.submittedWith asked := by
  unfold submittedWith
  split
  · exact List.prefix_append _ _
  · exact List.prefix_refl _

/-- What a listener does is a move. -/
theorem move_listen (s : Shift) (channel : Nat) : s.Move (.listen channel) (s.listen channel) := by
  rw [listen]
  split
  · exact .aside rfl (.refl s) (.of_untouched (.refl _))
  · next event _ =>
      exact .aside rfl ⟨rfl, rfl, rfl, s.submitted_grows _, fun _ => rfl, Desk.messages_blind.hear ..⟩
        (.of_untouched (hear_frame s.session event).2)

/-- A change of the files from outside is a move. -/
theorem move_files (s : Shift) (e : Step) (mishaps : List (Option Mishap))
    {f : Files.Tree → Except Files.Fault Files.Tree}
    (hsound : ∀ t t' : Files.Tree, t.Sound → f t = .ok t' → t'.Sound) :
    s.Move (.outside e mishaps) { s with session := (s.session.onFiles f).2 } := by
  rw [onFiles]
  split
  · next tree htree =>
      exact .aside rfl ⟨rfl, rfl, rfl, List.prefix_refl _, fun _ => rfl, rfl⟩
        ⟨fun _ hlive => hlive, fun h => hsound _ tree h htree⟩
  · exact .aside rfl (.refl s) (.of_untouched (.refl _))

/-- A change of the store in memory from outside is a move. -/
theorem move_memory (s : Shift) (e : Step) (mishaps : List (Option Mishap))
    (f : Store.Memory → Store.Memory) :
    s.Move (.outside e mishaps) { s with session := (s.session.onMemory f).2 } := by
  rw [onMemory]
  split
  · next m hstore =>
      exact .aside rfl ⟨rfl, rfl, rfl, List.prefix_refl _, fun _ => rfl, rfl⟩
        ⟨fun live hlive => (by cases hstore.symm.trans hlive), id⟩
  · exact .aside rfl (.refl s) (.of_untouched (.refl _))

/-- A choice for the dialog is a move, whether or not one waits. -/
theorem move_reply (s : Shift) (choice : Dialog.Choice) (mishaps : List (Option Mishap)) :
    s.Move (.outside (.reply choice) mishaps) (s.reply choice) := by
  rw [reply]
  split
  · dsimp only
    split
    · next hhand => exact .replied choice mishaps hhand
    · exact .aside rfl ⟨rfl, rfl, rfl, List.prefix_refl _, fun _ => rfl, rfl⟩
        ⟨fun _ hlive => hlive, fun hsound => hsound⟩
  · exact .aside rfl (.refl s) (.of_untouched (.refl _))

/-- Every step from outside is a move. -/
theorem move_outside (s : Shift) (e : Step) (mishaps : List (Option Mishap)) :
    s.Move (.outside e mishaps) (s.outside e mishaps) := by
  cases e with
  | write place content =>
      refine s.move_files _ mishaps (f := fun t => t.write place content) fun t t' hsound hwrite => ?_
      obtain ⟨-, -, -, -, hwritten, -⟩ := Files.Tree.write_effect hwrite
      exact hwritten hsound
  | makeDirectory place =>
      exact s.move_files _ mishaps (f := fun t => t.makeDirectory place) fun _ _ hsound =>
        hsound.makeDirectory
  | clear place =>
      exact s.move_files _ mishaps (f := fun t => t.clear place) fun _ _ hsound => hsound.clear
  | insert p => exact s.move_memory _ mishaps _
  | mode mode => exact s.move_memory _ mishaps _
  | failEnable => exact s.move_memory _ mishaps _
  | add p => exact .edited mishaps rfl
  | update p => exact .edited mishaps rfl
  | notify id =>
      have haside := Remedy.offer_aside s.session.desk.messages id
      obtain ⟨more, hcalls⟩ := Desk.carryOut_records.run_prefix
        (Remedy.offer s.session.desk.messages id) s.session.desk
      have hmessages := s.session.desk.run_messages (Remedy.offer s.session.desk.messages id)
      refine .aside rfl ⟨rfl, rfl, rfl, List.prefix_refl _, fun n => ?_, hmessages⟩
        (.of_untouched (Desk.untouched_of_aside haside s.session.desk))
      exact (s.callsOf_noted none hcalls.symm n).trans (List.append_nil _)
  | confirm id identity =>
      exact .aside rfl ⟨rfl, rfl, rfl, s.submitted_grows _, fun _ => rfl, Desk.messages_blind.ask ..⟩
        (.of_untouched (ask_frame { s.session with tickets := s.session.tickets + 1 } _).2)
  | flush =>
      exact .aside rfl ⟨rfl, rfl, rfl, List.prefix_refl _, fun _ => rfl, Desk.messages_blind.flush _⟩
        (.of_untouched (flush_frame s.session).2)
  | reply choice => exact s.move_reply choice mishaps
  | route e =>
      obtain ⟨sent, hroute⟩ := s.outside_route e mishaps
      rw [hroute]
      exact .aside rfl ⟨rfl, rfl, rfl, List.prefix_refl _, fun _ => rfl, rfl⟩
        (.of_untouched (.refl _))
  | tap =>
      rw [outside]
      split
      · exact .aside rfl (.refl s) (.of_untouched (.refl _))
      · exact .aside rfl ⟨rfl, rfl, rfl, List.prefix_refl _, fun _ => rfl, rfl⟩
          (.of_untouched (.refl _))
  | stop =>
      by_cases hsuspended : s.isSuspended = true
      · exact .stopped mishaps hsuspended
      · rw [outside, stop, if_neg hsuspended]
        exact .aside rfl (.refl s) (.of_untouched (.refl _))

/-! ## beats of the worker -/

/-- The worker moves by taking the next item. -/
theorem move_take (mishaps : List (Option Mishap)) (hhand : s.hand = none)
    (htake : s.take? = some s') : s.Move (.work mishaps) s' := by
  unfold take? at htake
  dsimp only at htake
  split at htake
  · next asked waiting _ hwaiting =>
      cases htake
      exact .took mishaps hhand hwaiting
  · next ticket waiting _ _ =>
      cases htake
      exact .idle mishaps ⟨rfl, rfl, rfl, List.prefix_refl _, fun _ => rfl, Desk.messages_blind.resolve ..⟩
        (s.session.desk.resolve_untouched (some ticket) _) rfl
  · split at htake
    · cases htake
    · cases htake
      exact .idle mishaps ⟨rfl, rfl, rfl, List.prefix_refl _, fun _ => rfl, rfl⟩
        (s.session.desk.traced_untouched _) rfl
  · cases htake

/-- The worker moves by going on with the confirmation in hand. -/
theorem move_goOn {hd : Hand} {mishaps : List (Option Mishap)} (hhand : s.hand = some hd)
    (hgo : s.goOn? hd mishaps = some s') : s.Move (.work mishaps) s' := by
  obtain ⟨number, asked, stage⟩ := hd
  unfold goOn? at hgo
  split at hgo
  · next hstage =>
      cases hstage
      cases hgo
      exact .checked mishaps hhand
  · next hstage =>
      cases hstage
      cases hgo
      exact .finished mishaps hhand rfl
  · next hstage =>
      cases hstage
      cases hgo
      exact .opened mishaps hhand
  · cases hgo
  · next hstage =>
      cases hstage
      cases hgo
      exact .concluded mishaps hhand
  · next hstage =>
      cases hstage
      cases hgo
      exact .finished mishaps hhand rfl

/-- **Every beat is one of these moves.** -/
theorem move (s : Shift) (b : Beat) : s.Move b (s.beat b) := by
  cases b with
  | outside e mishaps => exact s.move_outside e mishaps
  | listen channel => exact s.move_listen channel
  | work mishaps =>
      rw [beat]
      cases hwork : s.work? mishaps with
      | none => exact .idle mishaps (.refl s) (.refl _) rfl
      | some s' =>
          rw [work?] at hwork
          split at hwork
          · next hhand => exact move_take mishaps hhand hwork
          · next hd hhand => exact move_goOn hhand hwork

/-! ## what every beat keeps -/

/-- What every move keeps, a run keeps. -/
theorem run_keeps {I : Shift → Prop} (hmove : ∀ {s s' b}, s.Move b s' → I s → I s') (h : I s)
    (beats : List Beat) : I (s.run beats) := by
  induction beats generalizing s with
  | nil => exact h
  | cons b beats ih => exact ih (hmove (s.move b) h)

/-- What every move keeps of a shift whose confirmations are in turn, a run keeps. -/
theorem InTurn.run_keeps {I : Shift → Prop}
    (hmove : ∀ {s s' b}, s.InTurn → s.Move b s' → I s → I s') (hturn : s.InTurn) (h : I s)
    (beats : List Beat) : I (s.run beats) := by
  induction beats generalizing s with
  | nil => exact h
  | cons b beats ih => exact ih (hturn.beat b) (hmove hturn (s.move b) h)

/-- The texts of the dialog stay as they are. -/
theorem Move.messages (h : s.Move b s') :
    s'.session.desk.messages = s.session.desk.messages := by
  cases h with
  | aside hothers calm => exact calm.messages
  | idle mishaps calm => exact calm.messages
  | edited mishaps => exact (s.edit_calm _ mishaps).messages
  | replied => rfl
  | stopped mishaps hsuspended =>
      rw [stop, if_pos hsuspended]
      exact Desk.messages_blind.stop s.session
  | took => rfl
  | checked mishaps hhand => exact Desk.carryOutAmid_messages mishaps _ s.session.desk
  | opened mishaps hhand =>
      obtain ⟨-, -, -, hrest⟩ := s.openDialog_rest _ _
      exact hrest.messages
  | concluded mishaps hhand => exact Desk.carryOutAmid_messages mishaps _ s.session.desk
  | finished mishaps hhand houtcome => exact Desk.messages_blind.resolve ..

theorem run_messages (s : Shift) (beats : List Beat) :
    (s.run beats).session.desk.messages = s.session.desk.messages :=
  run_keeps (I := fun s' => s'.session.desk.messages = s.session.desk.messages)
    (fun hmove h => hmove.messages.trans h) rfl beats

/-- A move takes no confirmation back. -/
theorem Move.submitted_grows (h : s.Move b s') : s.submitted <+: s'.submitted := by
  cases h with
  | aside hothers calm => exact calm.submitted
  | idle mishaps calm => exact calm.submitted
  | edited mishaps => exact (s.edit_calm _ mishaps).submitted
  | stopped mishaps hsuspended =>
      have hstop : s.stop.submitted = s.submitted := by rw [stop, if_pos hsuspended]
      exact hstop ▸ List.prefix_refl _
  | opened mishaps hhand =>
      obtain ⟨-, -, -, hrest⟩ := s.openDialog_rest _ _
      exact hrest.submitted ▸ List.prefix_refl _
  | _ => exact List.prefix_refl _

theorem submitted_grows_run (s : Shift) (beats : List Beat) :
    s.submitted <+: (s.run beats).submitted :=
  run_keeps (I := fun s' => s.submitted <+: s'.submitted)
    (fun hmove h => h.trans hmove.submitted_grows) (List.prefix_refl _) beats

/-- A calm beat adds no call of a confirmation. -/
theorem Calm.calls_grows (h : s.Calm s') (n : Nat) : s.callsOf n <+: s'.callsOf n :=
  h.calls n ▸ List.prefix_refl _

/-- A move takes no call back. -/
theorem Move.calls_grows (h : s.Move b s') (n : Nat) : s.callsOf n <+: s'.callsOf n := by
  cases h with
  | aside hothers calm => exact calm.calls_grows n
  | idle mishaps calm => exact calm.calls_grows n
  | edited mishaps => exact (s.edit_calm _ mishaps).calls_grows n
  | replied => exact List.prefix_refl _
  | stopped => exact s.callsOf_stop n ▸ List.prefix_refl _
  | took => exact List.prefix_refl _
  | checked => rw [callsOf_request]; exact List.prefix_append _ _
  | opened => rw [callsOf_openDialog]; exact List.prefix_append _ _
  | concluded => rw [callsOf_request]; exact List.prefix_append _ _
  | finished => exact List.prefix_refl _

/-- The calls of a confirmation only grow. -/
theorem callsOf_grows (s : Shift) (beats : List Beat) (n : Nat) :
    s.callsOf n <+: (s.run beats).callsOf n :=
  run_keeps (I := fun s' => s.callsOf n <+: s'.callsOf n)
    (fun hmove h => h.trans (hmove.calls_grows n)) (List.prefix_refl _) beats

/-- The worker sends no events. -/
theorem Move.sent {mishaps : List (Option Mishap)} (h : s.Move (.work mishaps) s') :
    s'.sent = s.sent := by
  cases h with
  | aside hothers => cases hothers
  | idle mishaps calm same hsent => exact hsent
  | opened mishaps hhand =>
      obtain ⟨-, -, -, hrest⟩ := s.openDialog_rest _ _
      exact hrest.sent
  | _ => rfl

/-! ## one confirmation -/

/-- What is known of a confirmation in each part of its life: before the worker takes it in hand,
while it is in hand, and when it is gone. -/
structure Tracks (s : Shift) (n : Nat) (waiting : Prop) (held : Hand → Prop) (left : Prop) :
    Prop where
  waiting : s.taken ≤ n → waiting
  held : ∀ hd, s.hand = some hd → hd.number = n → held hd
  left : n < s.taken → (∀ hd, s.hand = some hd → hd.number ≠ n) → left

section Tracks

variable {n : Nat} {A A' C C' : Prop} {B B' : Hand → Prop}

/-- Others act. -/
theorem Tracks.around (h : s.Tracks n A B C) (hhand : s'.hand = s.hand) (htaken : s'.taken = s.taken)
    (hA : A → A') (hB : ∀ hd, s.hand = some hd → hd.number = n → B hd → B' hd) (hC : C → C') :
    s'.Tracks n A' B' C' where
  waiting hle := hA (h.waiting (htaken ▸ hle))
  held hd hhd hn := hB hd (hhand ▸ hhd) hn (h.held hd (hhand ▸ hhd) hn)
  left hlt hother := hC (h.left (htaken ▸ hlt) (hhand ▸ hother))

/-- The confirmation in hand has been taken. -/
theorem InTurn.number_lt (h : s.InTurn) {hd : Hand} (hhand : s.hand = some hd) :
    hd.number < s.taken :=
  Nat.lt_of_succ_le (Nat.le_of_eq (h.hand hd hhand).1)

/-- The confirmation in hand gets further. -/
theorem Tracks.further (h : s.Tracks n A B C) (hturn : s.InTurn) {hd hd' : Hand}
    (hhand : s.hand = some hd) (hhand' : s'.hand = some hd') (hnumber : hd'.number = hd.number)
    (htaken : s'.taken = s.taken) (hown : hd.number = n → B hd → B' hd')
    (hothers : hd.number ≠ n → (A → A') ∧ (C → C')) : s'.Tracks n A' B' C' := by
  have hsame {hd'' : Hand} (hhd : s'.hand = some hd'') : hd' = hd'' :=
    Option.some.inj (hhand'.symm.trans hhd)
  by_cases hn : hd.number = n
  · have hlt := hturn.number_lt hhand
    refine ⟨fun hle => ?_, fun hd'' hhd _ => hsame hhd ▸ hown hn (h.held hd hhand hn), fun _ hno => ?_⟩
    · rw [htaken] at hle
      omega
    · exact absurd (hnumber.trans hn) (hno hd' hhand')
  · have hother (hd'' : Hand) (hhd : s.hand = some hd'') : hd''.number ≠ n :=
      Option.some.inj (hhand.symm.trans hhd) ▸ hn
    refine ⟨fun hle => (hothers hn).1 (h.waiting (htaken ▸ hle)), fun hd'' hhd hn' => ?_,
      fun hlt _ => (hothers hn).2 (h.left (htaken ▸ hlt) hother)⟩
    exact absurd (hnumber.symm.trans (hsame hhd ▸ hn')) hn

/-- The worker has done with the confirmation in hand. -/
theorem Tracks.emptied (h : s.Tracks n A B C) (hturn : s.InTurn) {hd : Hand}
    (hhand : s.hand = some hd) (hhand' : s'.hand = none) (htaken : s'.taken = s.taken)
    (hown : hd.number = n → B hd → C') (hothers : hd.number ≠ n → (A → A') ∧ (C → C')) :
    s'.Tracks n A' B' C' := by
  have hnone (hd' : Hand) (hhd : s'.hand = some hd') : False := by
    rw [hhand'] at hhd
    cases hhd
  by_cases hn : hd.number = n
  · have hlt := hturn.number_lt hhand
    refine ⟨fun hle => ?_, fun hd' hhd => (hnone hd' hhd).elim, fun _ _ =>
      hown hn (h.held hd hhand hn)⟩
    rw [htaken] at hle
    omega
  · have hother (hd' : Hand) (hhd : s.hand = some hd') : hd'.number ≠ n :=
      Option.some.inj (hhand.symm.trans hhd) ▸ hn
    exact ⟨fun hle => (hothers hn).1 (h.waiting (htaken ▸ hle)), fun hd' hhd => (hnone hd' hhd).elim,
      fun hlt _ => (hothers hn).2 (h.left (htaken ▸ hlt) hother)⟩

/-- The worker takes the next confirmation in hand. -/
theorem Tracks.took (h : s.Tracks n A B C) (hhand : s.hand = none) {hd : Hand}
    (hhand' : s'.hand = some hd) (hnumber : hd.number = s.taken) (htaken : s'.taken = s.taken + 1)
    (hown : A → B' hd) (hA : A → A') (hC : C → C') : s'.Tracks n A' B' C' where
  waiting hle := hA (h.waiting (by omega))
  held hd' hhd hn := by
    cases hhand'.symm.trans hhd
    exact hown (h.waiting (by omega))
  left hlt hother := by
    have hne := hother hd hhand'
    refine hC (h.left (by omega) fun hd' hhd => ?_)
    rw [hhand] at hhd
    cases hhd

/-- The worker is stopped; the confirmation in hand is dropped if its dialog waits. -/
theorem Tracks.stopped (h : s.Tracks n A B C) (hturn : s.InTurn) (hsuspended : s.isSuspended = true)
    (hown : ∀ asked p, s.hand = some ⟨n, asked, .asking p⟩ → B ⟨n, asked, .asking p⟩ → C')
    (hA : A → A') (hC : C → C') : s.stop.Tracks n A' B' C' := by
  rw [stop, if_pos hsuspended]
  rw [isSuspended] at hsuspended
  cases hhand : s.hand with
  | none =>
      refine h.around hhand.symm rfl hA (fun hd hhd => ?_) hC
      rw [hhand] at hhd
      cases hhd
  | some hd =>
      obtain ⟨number, asked, stage⟩ := hd
      rw [hhand, Option.all_some] at hsuspended
      refine h.emptied hturn hhand rfl rfl (fun hn hheld => ?_) fun _ => ⟨hA, hC⟩
      cases hn
      cases stage with
      | asking p => exact hown asked p hhand hheld
      | checking plan => cases hsuspended
      | concluding plan => cases hsuspended

end Tracks

/-! ## one outcome each -/

/-- No confirmation ends twice, and the one in hand has not ended. -/
structure Once (s : Shift) : Prop where
  taken : ∀ e ∈ s.ended, e.number < s.taken
  hand : ∀ hd, s.hand = some hd → ∀ e ∈ s.ended, e.number ≠ hd.number
  unique : (s.ended.map Ended.number).Nodup

/-- A calm beat ends nothing. -/
theorem Once.calm (h : s.Once) (hcalm : s.Calm s') : s'.Once where
  taken := hcalm.ended ▸ hcalm.taken ▸ h.taken
  hand hd hhd := hcalm.ended ▸ h.hand hd (hcalm.hand ▸ hhd)
  unique := hcalm.ended ▸ h.unique

/-- The confirmation in hand gets further. -/
theorem Once.further (h : s.Once) {hd hd' : Hand} (hhand : s.hand = some hd)
    (hhand' : s'.hand = some hd') (hnumber : hd'.number = hd.number) (htaken : s'.taken = s.taken)
    (hended : s'.ended = s.ended) : s'.Once where
  taken := hended ▸ htaken ▸ h.taken
  hand hd'' hhd'' := by
    cases hhand'.symm.trans hhd''
    rw [hended, hnumber]
    exact h.hand hd hhand
  unique := hended ▸ h.unique

/-- **A move ends no confirmation twice.** -/
theorem Once.move (h : s.Once) (hturn : s.InTurn) (hmove : s.Move b s') : s'.Once := by
  cases hmove with
  | aside hothers calm => exact h.calm calm
  | idle mishaps calm => exact h.calm calm
  | edited mishaps => exact h.calm (s.edit_calm _ mishaps)
  | replied choice mishaps hhand => exact h.further hhand rfl rfl rfl rfl
  | stopped mishaps hsuspended =>
      rw [stop, if_pos hsuspended]
      exact ⟨h.taken, fun _ hhd => (by cases hhd), h.unique⟩
  | took mishaps hhand =>
      refine ⟨fun e he => Nat.lt_succ_of_lt (h.taken e he), fun hd hhd e he => ?_, h.unique⟩
      cases hhd
      exact Nat.ne_of_lt (h.taken e he)
  | checked mishaps hhand => exact h.further hhand rfl rfl rfl rfl
  | opened mishaps hhand =>
      obtain ⟨stage, hstage, -, hrest⟩ := s.openDialog_rest _ _
      exact h.further hhand hstage rfl hrest.taken hrest.ended
  | concluded mishaps hhand => exact h.further hhand rfl rfl rfl rfl
  | finished mishaps hhand houtcome =>
      have hlast := (hturn.hand _ hhand).1
      refine ⟨fun e he => ?_, fun _ hhd => (by cases hhd), ?_⟩
      · rcases List.mem_append.1 he with he | he
        · exact h.taken e he
        · rw [List.mem_singleton.1 he]
          exact Nat.lt_of_succ_le (Nat.le_of_eq hlast)
      · change ((s.ended ++ [_]).map Ended.number).Nodup
        rw [List.map_append]
        refine List.nodup_append.2 ⟨h.unique, List.nodup_singleton _, fun m hm m' hm' => ?_⟩
        obtain ⟨e, he, rfl⟩ := List.mem_map.1 hm
        rw [List.mem_singleton.1 hm']
        exact h.hand _ hhand e he

theorem Once.run (h : s.Once) (hturn : s.InTurn) (beats : List Beat) : (s.run beats).Once :=
  hturn.run_keeps (I := Once) (fun hturn hmove h => h.move hturn hmove) h beats

theorem begin_once (desk : Desk) (router : Router) (tickets : Nat) :
    (begin desk router tickets).Once :=
  ⟨fun _ he => (nomatch he), fun _ hhd => (nomatch hhd), .nil⟩

end Shift

end MacConsent.Session
