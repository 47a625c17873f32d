import MacConsent.Proofs.Session.Shift

/-!
# MacConsent.Proofs.Session.InTurn

Confirmations never overlap and never overtake one another
(`Shift.confirmations_in_turn`).  The worker numbers them as it takes them in
hand, and it takes them in the order in which the queue took them on; as long as
it has one in hand it takes no other.  So the numbers in the record of calls
never fall, which is to say that the calls of one confirmation stand together,
before those of the next.
-/

namespace MacConsent.Session

open Desk (Asked Pending)
open Store (Mishap)

/-- The confirmations among the items of a queue, in order. -/
def jobs (items : List (Queue.Item Asked)) : List Asked :=
  items.filterMap fun
    | .job asked => some asked
    | .barrier _ => none

@[simp] theorem jobs_append (items items' : List (Queue.Item Asked)) :
    jobs (items ++ items') = jobs items ++ jobs items' :=
  List.filterMap_append

/-- A plan adds to the record of calls. -/
theorem Records.run_prefix {σ α : Type} {carryOut : (r : Remedy.Request) → StateM σ r.Answer}
    {calls : σ → List Call} (h : Records carryOut calls) (plan : Remedy.Plan α) (s : σ) :
    calls s <+: calls ((plan.run carryOut).run s).2 := by
  induction plan generalizing s with
  | done a => exact List.prefix_refl _
  | call r next ih =>
      rw [Remedy.Plan.run_call]
      refine List.IsPrefix.trans ?_ (ih _ _)
      rw [h r s]
      exact List.prefix_append _ _

/-! ## what steps ask of the queue -/

/-- A session before and after something that asks the queue for confirmations, and makes no
call. -/
structure Asks (s s' : Session) (asked : List Asked) : Prop where
  current : s'.queue.current = s.queue.current
  worker : s'.queue.worker = s.queue.worker
  waiting : s.queue.worker = .running → jobs s'.queue.waiting = jobs s.queue.waiting ++ asked
  calls : s'.desk.calls = s.desk.calls
  unanswered : s'.desk.unanswered = s.desk.unanswered

/-- Where queue and calls are as before, nothing has been asked for. -/
theorem asks_nothing {s s' : Session} (hqueue : s'.queue = s.queue)
    (hcalls : s'.desk.calls = s.desk.calls)
    (hunanswered : s'.desk.unanswered = s.desk.unanswered) : Asks s s' [] where
  current := congrArg _ hqueue
  worker := congrArg _ hqueue
  waiting _ := by rw [hqueue, List.append_nil]
  calls := hcalls
  unanswered := hunanswered

variable (s : Session)

/-- What is submitted comes last, or there is no worker. -/
theorem asks_submit {queue : Queue.Serial Asked Pending} {item : Queue.Item Asked}
    (h : s.queue.submit? item = some queue) : Asks s { s with queue } (jobs [item]) := by
  unfold Queue.Serial.submit? at h
  split at h
  · cases h
    exact ⟨rfl, rfl, fun _ => jobs_append .., rfl, rfl⟩
  · cases h

/-- Only a worker that has stopped refuses an item. -/
theorem submit?_eq_none {item : Queue.Item Asked} (h : s.queue.submit? item = none) :
    s.queue.worker ≠ .running := by
  unfold Queue.Serial.submit? at h
  split at h
  · cases h
  · next hworker => exact hworker

/-- A confirmation is asked for once. -/
theorem ask_asks (asked : Asked) : Asks s (s.ask asked) [asked] := by
  unfold ask
  split
  · next hsubmit => exact asks_submit s hsubmit
  · next hsubmit =>
      exact {
        current := rfl
        worker := rfl
        waiting := fun h => absurd h (submit?_eq_none s hsubmit)
        calls := ((s.desk.traced _).resolve_calls ..).trans (s.desk.traced_calls _)
        unanswered := ((s.desk.traced _).resolve_untouched ..).unanswered }

/-- A listener asks for the confirmation of the event that it takes. -/
theorem hear_asks (event : TapEvent) : Asks s (s.hear event) (heardAs event) := by
  rw [hear, heardAs]
  obtain ⟨told, wanted⟩ := Router.hear event
  cases wanted with
  | none => exact asks_nothing rfl (s.desk.traced_calls _) rfl
  | some target =>
      have hask := ask_asks { s with desk := s.desk.traced told } ⟨target.1, target.2, none⟩
      exact { hask with calls := hask.calls.trans (s.desk.traced_calls _) }

/-- A barrier is no confirmation. -/
theorem flush_asks : Asks s s.flush.2 [] := by
  rw [flush, newTicket]
  dsimp only
  split
  · next hsubmit =>
      have hasks := asks_submit { s with tickets := s.tickets + 1 } hsubmit
      exact ⟨hasks.current, hasks.worker, hasks.waiting, hasks.calls, hasks.unanswered⟩
  · exact asks_nothing rfl rfl rfl

theorem onMemory_asks (f : Store.Memory → Store.Memory) : Asks s (s.onMemory f).2 [] := by
  unfold onMemory
  split <;> exact asks_nothing rfl rfl rfl

/-- A change of the files asks for nothing. -/
theorem onFiles_asks (f : Files.Tree → Except Files.Fault Files.Tree) :
    Asks s (s.onFiles f).2 [] := by
  unfold onFiles
  split <;> exact asks_nothing rfl rfl rfl

/-- What is asked of a router apart from sending reaches no listener. -/
theorem act_route {e : Router.Step} (he : ∀ events, e ≠ .send events) :
    (s.act (.route e)).2 = { s with router := (s.router.step e).2.1 } := by
  have hheard : (s.router.step e).2.2 = [] := by
    cases e with
    | register =>
        rw [Router.step]
        split <;> rfl
    | send events => exact absurd rfl (he events)
    | _ => rfl
  rw [act]
  dsimp only
  rw [hheard]
  rfl

/-- The router asks for confirmations by its taps only. -/
theorem route_asks {e : Router.Step} (he : ∀ events, e ≠ .send events) :
    Asks s (s.act (.route e)).2 [] := by
  rw [act_route s he]
  exact asks_nothing rfl rfl rfl

/-! ## the order of confirmations -/

namespace Shift

/-- What is asked of the router changes the router, and may send events; all else stays. -/
theorem outside_route (s : Shift) (e : Router.Step) (mishaps : List (Option Mishap)) :
    ∃ sent, s.outside (.route e) mishaps =
      { s with
        session := { s.session with router := (s.session.router.step e).2.1 }
        sent } := by
  cases e with
  | send events => exact ⟨_, rfl⟩
  | _ =>
      refine ⟨s.sent, congrArg (fun session => { s with session }) (act_route s.session ?_)⟩
      rintro events ⟨⟩

/-- The confirmations that have made calls, call by call. -/
def makers (s : Shift) : List (Nat × Asked) := s.made.filterMap Made.maker

/-- What holds at every moment of a shift. -/
structure InTurn (s : Shift) : Prop where
  current : s.session.queue.current = s.hand.bind Hand.pending?
  taken_le : s.taken ≤ s.submitted.length
  /-- What stands in the queue is what was taken on and not taken in hand. -/
  waiting : s.session.queue.worker = .running →
    s.submitted.drop s.taken = jobs s.session.queue.waiting
  running : s.hand ≠ none → s.session.queue.worker = .running
  /-- The confirmation in hand is the last one taken. -/
  hand : ∀ h, s.hand = some h → h.number + 1 = s.taken ∧ s.submitted[h.number]? = some h.asked
  calls : s.made.map Made.call = s.session.desk.calls
  makers : ∀ m ∈ s.makers, m.1 < s.taken ∧ s.submitted[m.1]? = some m.2
  ordered : s.makers.Pairwise fun m m' => m.1 ≤ m'.1
  dialogs : s.dialogs = (s.hand.bind fun h => h.pending?.map fun _ => h.number).toList
  unanswered : ∀ h, s.hand = some h → h.pending?.isSome = true →
    s.session.desk.unanswered = true

variable {s : Shift}

/-- The numbers of confirmations stay. -/
theorem getElem?_submittedWith {n : Nat} {asked : Asked} (h : s.submitted[n]? = some asked)
    (more : List Asked) : (s.submittedWith more)[n]? = some asked := by
  unfold submittedWith
  split
  · rw [List.getElem?_append_left (List.getElem?_eq_some_iff.mp h).1]
    exact h
  · exact h

/-- What is asked of the queue from outside. -/
theorem InTurn.asks (h : s.InTurn) {session : Session} {asked : List Asked}
    (hasks : Asks s.session session asked) (sent : List (Nat × TapEvent)) :
    InTurn { s with session, sent, submitted := s.submittedWith asked } where
  current := hasks.current.trans h.current
  taken_le := by
    refine Nat.le_trans h.taken_le ?_
    unfold submittedWith
    split
    · rw [List.length_append]
      exact Nat.le_add_right ..
    · exact Nat.le_refl _
  waiting hrunning := by
    have hworker : s.session.queue.worker = .running := hasks.worker ▸ hrunning
    simp only [submittedWith, if_pos hworker]
    rw [List.drop_append_of_le_length h.taken_le, h.waiting hworker, hasks.waiting hworker]
  running hhand := hasks.worker.trans (h.running hhand)
  hand hd hhand := ⟨(h.hand hd hhand).1, getElem?_submittedWith (h.hand hd hhand).2 asked⟩
  calls := h.calls.trans hasks.calls.symm
  makers m hm := ⟨(h.makers m hm).1, getElem?_submittedWith (h.makers m hm).2 asked⟩
  ordered := h.ordered
  dialogs := h.dialogs
  unanswered hd hhand hpending := hasks.unanswered.trans (h.unanswered hd hhand hpending)

/-- What asks nothing of the queue. -/
theorem InTurn.unasked (h : s.InTurn) {session : Session} (hasks : Asks s.session session [])
    (sent : List (Nat × TapEvent)) : InTurn { s with session, sent } := by
  have hsame : s.submittedWith [] = s.submitted := by
    unfold submittedWith
    split
    · exact List.append_nil _
    · rfl
  have hasked := h.asks hasks sent
  rwa [hsame] at hasked

/-- The calls that are noted are those of one maker. -/
theorem makers_noted (s : Shift) (maker : Option (Nat × Asked)) (desk : Desk) :
    ∃ n, (s.noted maker desk).makers =
      s.makers ++ (List.replicate n maker).filterMap id := by
  refine ⟨(desk.calls.drop s.session.desk.calls.length).length, ?_⟩
  rw [Shift.makers, noted, List.filterMap_append, List.filterMap_map]
  refine congrArg (s.makers ++ ·) ?_
  generalize desk.calls.drop s.session.desk.calls.length = more
  induction more with
  | nil => rfl
  | cons c more ih =>
      rw [List.length_cons, List.replicate_succ, List.filterMap_cons, List.filterMap_cons, ih]
      rfl

/-- The calls that are noted are those of the last confirmation taken, or of none. -/
theorem InTurn.noted (h : s.InTurn) {maker : Option (Nat × Asked)} {desk : Desk}
    (hgrows : s.session.desk.calls <+: desk.calls)
    (hmaker : ∀ m, maker = some m → m.1 + 1 = s.taken ∧ s.submitted[m.1]? = some m.2)
    (hunanswered : s.session.desk.unanswered = true → desk.unanswered = true) :
    (s.noted maker desk).InTurn := by
  obtain ⟨n, hmakers⟩ := s.makers_noted maker desk
  have hnew : ∀ m ∈ (List.replicate n maker).filterMap id, maker = some m := by
    intro m hm
    obtain ⟨maker', hmem, hm⟩ := List.mem_filterMap.mp hm
    rw [← List.eq_of_mem_replicate hmem]
    exact hm
  exact {
    current := h.current
    taken_le := h.taken_le
    waiting := h.waiting
    running := h.running
    hand := h.hand
    calls := by
      obtain ⟨more, hmore⟩ := hgrows
      simp only [Shift.noted, List.map_append, h.calls, ← hmore, List.drop_left, List.map_map]
      exact congrArg _ (List.map_id _)
    makers := by
      intro m hm
      rw [hmakers] at hm
      rcases List.mem_append.mp hm with hold | hm
      · exact h.makers m hold
      · obtain ⟨htaken, hasked⟩ := hmaker m (hnew m hm)
        exact ⟨Nat.lt_of_succ_le (Nat.le_of_eq htaken), hasked⟩
    ordered := by
      rw [hmakers, List.pairwise_append]
      refine ⟨h.ordered, ?_, fun m hm m' hm' => ?_⟩
      · cases maker with
        | none => rw [List.filterMap_replicate_of_none rfl]; exact .nil
        | some m =>
            have hsame : (List.replicate n (some m)).filterMap id = List.replicate n m :=
              List.filterMap_replicate_of_some rfl
            rw [hsame, List.pairwise_replicate]
            exact .inr (Nat.le_refl _)
      · have hlast := (hmaker m' (hnew m' hm')).1
        have hfirst := (h.makers m hm).1
        omega
    dialogs := h.dialogs
    unanswered := fun hd hhand hpending => hunanswered (h.unanswered hd hhand hpending) }

/-- The confirmation in hand gets to another stage. -/
theorem InTurn.stage (h : s.InTurn) {hd : Hand} (hhand : s.hand = some hd) (stage : Stage)
    (queue : Queue.Serial Asked Pending) (hworker : queue.worker = s.session.queue.worker)
    (hwaiting : queue.waiting = s.session.queue.waiting)
    (hcurrent : queue.current = Hand.pending? { hd with stage }) (dialogs : List Nat)
    (hdialogs : dialogs = (Hand.pending? { hd with stage } |>.map fun _ => hd.number).toList)
    (hasking : Hand.pending? { hd with stage } ≠ none → s.session.desk.unanswered = true) :
    InTurn { s with
      session := { s.session with queue }
      hand := some { hd with stage }
      dialogs } where
  current := hcurrent
  taken_le := h.taken_le
  waiting hrunning := (h.waiting (hworker ▸ hrunning)).trans (congrArg jobs hwaiting.symm)
  running _ := hworker.trans (h.running (by rw [hhand]; nofun))
  hand hd' hhand' := by
    cases hhand'
    exact h.hand hd hhand
  calls := h.calls
  makers := h.makers
  ordered := h.ordered
  dialogs := hdialogs
  unanswered hd' hhand' hpending := by
    cases hhand'
    exact hasking (Option.isSome_iff_ne_none.mp hpending)

/-- The worker has nothing in hand any more. -/
theorem InTurn.emptied (h : s.InTurn) (hcurrent : s.session.queue.current = none) {desk : Desk}
    (hcalls : desk.calls = s.session.desk.calls) (ended : List Ended) :
    InTurn { s with
      session := { s.session with desk }
      hand := none
      dialogs := []
      ended } where
  current := hcurrent
  taken_le := h.taken_le
  waiting := h.waiting
  running hhand := absurd rfl hhand
  hand _ hhand := by cases hhand
  calls := h.calls.trans hcalls.symm
  makers := h.makers
  ordered := h.ordered
  dialogs := rfl
  unanswered _ hhand := by cases hhand

/-! ## one beat -/

/-- The dialog that waits is that of the confirmation in hand. -/
theorem InTurn.current_hand (h : s.InTurn) {hd : Hand} (hhand : s.hand = some hd) :
    s.session.queue.current = hd.pending? := by
  rw [h.current, hhand]
  rfl

/-- A dialog is open for the confirmation in hand or for none. -/
theorem InTurn.dialogs_hand (h : s.InTurn) {hd : Hand} (hhand : s.hand = some hd) :
    s.dialogs = (hd.pending?.map fun _ => hd.number).toList := by
  rw [h.dialogs, hhand]
  rfl

/-- Where no dialog waits, the slot of the dialog is free. -/
theorem InTurn.closed (h : s.InTurn) (hnone : s.hand.bind Hand.pending? = none) :
    InTurn { s with
      session := { s.session with desk := { s.session.desk with unanswered := false } } } where
  current := h.current
  taken_le := h.taken_le
  waiting := h.waiting
  running := h.running
  hand := h.hand
  calls := h.calls
  makers := h.makers
  ordered := h.ordered
  dialogs := h.dialogs
  unanswered hd hhand hpending := by
    have hhand' : s.hand = some hd := hhand
    rw [hhand', Option.bind_some] at hnone
    rw [hnone] at hpending
    cases hpending

/-- A choice goes to the dialog of the confirmation in hand. -/
theorem InTurn.reply (h : s.InTurn) (choice : Dialog.Choice) : (s.reply choice).InTurn := by
  rw [Shift.reply]
  split
  · dsimp only
    split
    · next number asked p hhand =>
      have hdialogs : s.dialogs = [number] := h.dialogs_hand hhand
      have hnext := h.stage hhand
        (.concluding (Remedy.conclude s.session.desk.messages asked.id p choice))
        s.session.queue.finish rfl rfl rfl [] rfl (fun hasking => absurd rfl hasking)
      have hfilter : s.dialogs.filter (· != number) = [] := by
        rw [hdialogs]
        simp
      rw [hfilter]
      exact hnext.closed rfl
    · next hnot =>
      refine h.closed ?_
      cases hhand : s.hand with
      | none => rfl
      | some hd =>
          obtain ⟨number, asked, stage⟩ := hd
          cases stage with
          | asking p => exact absurd hhand (hnot number asked p)
          | checking plan => rfl
          | concluding plan => rfl
  · exact h

/-- What is lost makes no call. -/
theorem foldl_lose_calls (items : List (Queue.Item Asked)) (d : Desk) :
    (items.foldl lose d).calls = d.calls := by
  induction items generalizing d with
  | nil => rfl
  | cons item items ih =>
      refine (ih (lose d item)).trans ?_
      cases item <;> exact d.resolve_calls ..

/-- After a stop nothing is in the queue, and no worker runs. -/
theorem stop_queue (session : Session)
    (h : session.queue.current ≠ none → session.queue.worker = .running) :
    session.stop.queue.current = none ∧ session.stop.queue.worker ≠ .running := by
  rw [Session.stop, Queue.Serial.stop]
  by_cases hrunning : session.queue.worker = .running
  · rw [if_pos hrunning]
    exact ⟨rfl, nofun⟩
  · rw [if_neg hrunning]
    exact ⟨Decidable.not_not.mp fun hcurrent => hrunning (h hcurrent), hrunning⟩

/-- A stop drops the confirmation in hand and all that wait. -/
theorem InTurn.stop (h : s.InTurn) : s.stop.InTurn := by
  rw [Shift.stop]
  split
  · have hbusy : s.session.queue.current ≠ none → s.session.queue.worker = .running := by
      intro hcurrent
      refine h.running fun hhand => hcurrent ?_
      rw [h.current, hhand]
      rfl
    obtain ⟨hcurrent, hworker⟩ := stop_queue s.session hbusy
    exact {
      current := hcurrent
      taken_le := h.taken_le
      waiting := fun hrunning => absurd hrunning hworker
      running := fun hhand => absurd rfl hhand
      hand := fun _ hhand => by cases hhand
      calls := h.calls.trans (foldl_lose_calls _ _).symm
      makers := h.makers
      ordered := h.ordered
      dialogs := by
        rw [h.dialogs]
        cases s.hand with
        | none => rfl
        | some hd => cases hd.pending? <;> simp
      unanswered := fun _ hhand => by cases hhand }
  · exact h

theorem InTurn.edit (h : s.InTurn) (c : Store.Change) (mishaps : List (Option Mishap)) :
    (s.edit c mishaps).InTurn := by
  rw [Shift.edit]
  split
  · exact h
  · next store _ =>
      have hcalls := s.session.desk.changed_calls mishaps store c
      have hasks : Asks s.session
          { s.session with desk := (s.session.desk.changed mishaps store c).2 } [] :=
        asks_nothing rfl hcalls rfl
      exact h.unasked hasks s.sent

theorem InTurn.send (h : s.InTurn) (events : List TapEvent) : (s.send events).InTurn :=
  h.unasked (asks_nothing rfl rfl rfl) _

/-- Nothing from outside comes between confirmations. -/
theorem InTurn.outside (h : s.InTurn) (e : Step) (mishaps : List (Option Mishap)) :
    (s.outside e mishaps).InTurn := by
  cases e with
  | write path content => exact h.unasked (onFiles_asks s.session _) s.sent
  | makeDirectory path => exact h.unasked (onFiles_asks s.session _) s.sent
  | clear path => exact h.unasked (onFiles_asks s.session _) s.sent
  | insert p => exact h.unasked (onMemory_asks s.session _) s.sent
  | mode mode => exact h.unasked (onMemory_asks s.session _) s.sent
  | failEnable => exact h.unasked (onMemory_asks s.session _) s.sent
  | add p => exact h.edit _ mishaps
  | update p => exact h.edit _ mishaps
  | notify id =>
      have haside := Remedy.offer_aside s.session.desk.messages id
      have hgrows := Desk.carryOut_records.run_prefix
        (Remedy.offer s.session.desk.messages id) s.session.desk
      exact h.noted hgrows (fun _ hmaker => nomatch hmaker)
        (Desk.untouched_of_aside haside s.session.desk).unanswered.trans
  | confirm id identity =>
      have hasks := ask_asks { s.session with tickets := s.session.tickets + 1 }
        ⟨id, identity, some s.session.tickets⟩
      exact h.asks ⟨hasks.current, hasks.worker, hasks.waiting, hasks.calls, hasks.unanswered⟩ s.sent
  | flush => exact h.unasked (flush_asks s.session) s.sent
  | reply choice => exact h.reply choice
  | route e =>
      cases e with
      | send events => exact h.send events
      | _ =>
          refine h.unasked (route_asks s.session ?_) s.sent
          exact fun _ hsend => nomatch hsend
  | tap =>
      rw [Shift.outside]
      split
      · exact h
      · exact h.send _
  | stop => exact h.stop

theorem InTurn.listen (h : s.InTurn) (channel : Nat) : (s.listen channel).InTurn := by
  rw [Shift.listen]
  split
  · exact h
  · exact h.asks (hear_asks s.session _) _

/-- The worker takes an item off the queue. -/
theorem InTurn.take (h : s.InTurn) {s' : Shift} (hhand : s.hand = none)
    (htake : s.take? = some s') : s'.InTurn := by
  have hdialogs : s.dialogs = [] := by rw [h.dialogs, hhand]; rfl
  unfold take? at htake
  dsimp only at htake
  split at htake
  · next asked waiting hrunning hwaiting =>
      cases htake
      have hdrop : s.submitted.drop s.taken = asked :: jobs waiting := by
        rw [h.waiting hrunning, hwaiting]
        rfl
      have hnext : s.submitted[s.taken]? = some asked := by
        rw [← List.head?_drop, hdrop]
        rfl
      exact {
        current := h.current.trans (by rw [hhand]; rfl)
        taken_le := (List.getElem?_eq_some_iff.mp hnext).1
        waiting := fun _ => by rw [← List.tail_drop, hdrop]; rfl
        running := fun _ => hrunning
        hand := fun _ hhand => by cases hhand; exact ⟨rfl, hnext⟩
        calls := h.calls
        makers := fun m hm => ⟨Nat.lt_succ_of_lt (h.makers m hm).1, (h.makers m hm).2⟩
        ordered := h.ordered
        dialogs := hdialogs
        unanswered := fun _ hhand hpending => by cases hhand; cases hpending }
  · next ticket waiting hrunning hwaiting =>
      cases htake
      exact {
        current := h.current
        taken_le := h.taken_le
        waiting := fun _ => by rw [h.waiting hrunning, hwaiting]; rfl
        running := h.running
        hand := h.hand
        calls := h.calls
        makers := h.makers
        ordered := h.ordered
        dialogs := h.dialogs
        unanswered := h.unanswered }
  · next hrunning hwaiting =>
      split at htake
      · cases htake
      · cases htake
        exact {
          current := h.current
          taken_le := h.taken_le
          waiting := fun hdrained => nomatch hdrained
          running := fun hsome => absurd hhand hsome
          hand := h.hand
          calls := h.calls.trans (s.session.desk.traced_calls _).symm
          makers := h.makers
          ordered := h.ordered
          dialogs := h.dialogs
          unanswered := h.unanswered }
  · cases htake

/-- The calls of the confirmation in hand are noted as its own. -/
theorem InTurn.called (h : s.InTurn) {hd : Hand} (hhand : s.hand = some hd) {desk : Desk}
    (hgrows : s.session.desk.calls <+: desk.calls)
    (hunanswered : s.session.desk.unanswered = true → desk.unanswered = true) :
    (s.noted (some (hd.number, hd.asked)) desk).InTurn :=
  h.noted hgrows (fun _ hmaker => by cases hmaker; exact h.hand hd hhand) hunanswered

/-- A request is made by the confirmation in hand. -/
theorem InTurn.request (h : s.InTurn) {hd : Hand} (hhand : s.hand = some hd)
    (hbusy : hd.pending? = none) (r : Remedy.Request) (next : r.Answer → Stage)
    (hnext : ∀ answer, Hand.pending? { hd with stage := next answer } = none)
    (mishaps : List (Option Mishap)) : (s.request hd r next mishaps).InTurn := by
  have hdialogs : s.dialogs = [] := by rw [h.dialogs_hand hhand, hbusy]; rfl
  have hgrows : s.session.desk.calls <+:
      ((Desk.carryOutAmid mishaps r).run s.session.desk).2.calls := by
    rw [Desk.carryOutAmid_records mishaps r s.session.desk]
    exact List.prefix_append _ _
  have hcalled := h.called hhand hgrows
    (s.session.desk.carryOutAmid_unanswered mishaps r).trans
  refine hcalled.stage hhand (next _) s.session.queue rfl rfl ?_ s.dialogs ?_ ?_
  · rw [hnext, ← hbusy]
    exact h.current_hand hhand
  · rw [hdialogs, hnext]
    rfl
  · intro hasking
    exact absurd (hnext _) hasking

/-- A confirmation opens its dialog only while no other dialog waits. -/
theorem InTurn.openDialog (h : s.InTurn) {hd : Hand} (hhand : s.hand = some hd)
    (hbusy : hd.pending? = none) (p : Profile) : (s.openDialog hd p).InTurn := by
  have hnone : s.session.queue.current = none := (h.current_hand hhand).trans hbusy
  have hdialogs : s.dialogs = [] := by rw [h.dialogs_hand hhand, hbusy]; rfl
  let asked := s.session.desk.called (.dialog (Remedy.question s.session.desk.messages p))
  have hgrows : s.session.desk.calls <+: asked.calls := by
    rw [Desk.called_calls]
    exact List.prefix_append _ _
  rw [Shift.openDialog]
  dsimp only
  split
  · next choice answers _ =>
      have hcalled : (s.noted (some (hd.number, hd.asked)) { asked with answers }).InTurn :=
        h.called hhand hgrows id
      exact hcalled.stage hhand
        (.concluding (Remedy.conclude s.session.desk.messages hd.asked.id p choice))
        s.session.queue rfl rfl hnone s.dialogs hdialogs fun hasking => absurd rfl hasking
  · have hcalled : (s.noted (some (hd.number, hd.asked)) { asked with unanswered := true }).InTurn :=
      h.called hhand hgrows fun _ => rfl
    refine hcalled.stage hhand (.asking p) { s.session.queue with current := some ⟨hd.asked, p⟩ }
      rfl rfl rfl (s.dialogs ++ [hd.number]) ?_ fun _ => rfl
    rw [hdialogs]
    rfl

/-- The confirmation in hand ends before the next one is taken. -/
theorem InTurn.finish (h : s.InTurn) {hd : Hand} (hhand : s.hand = some hd)
    (hbusy : hd.pending? = none) (outcome : Remedy.Outcome) : (s.finish hd outcome).InTurn := by
  have hdialogs : s.dialogs = [] := by rw [h.dialogs_hand hhand, hbusy]; rfl
  have hnone : s.session.queue.current = none := (h.current_hand hhand).trans hbusy
  have hemptied := h.emptied hnone (s.session.desk.resolve_calls hd.asked.ticket (.outcome outcome))
    (s.ended ++ [⟨hd.number, hd.asked, outcome⟩])
  rwa [← hdialogs] at hemptied

/-- The worker goes on with the confirmation in hand. -/
theorem InTurn.goOn (h : s.InTurn) {s' : Shift} {hd : Hand} {mishaps : List (Option Mishap)}
    (hhand : s.hand = some hd) (hgo : s.goOn? hd mishaps = some s') : s'.InTurn := by
  obtain ⟨number, asked, stage⟩ := hd
  unfold goOn? at hgo
  split at hgo
  · next hstage =>
      cases hstage
      cases hgo
      exact h.request hhand rfl _ _ (fun _ => rfl) mishaps
  · next hstage =>
      cases hstage
      cases hgo
      exact h.finish hhand rfl _
  · next hstage =>
      cases hstage
      cases hgo
      exact h.openDialog hhand rfl _
  · cases hgo
  · next hstage =>
      cases hstage
      cases hgo
      exact h.request hhand rfl _ _ (fun _ => rfl) mishaps
  · next hstage =>
      cases hstage
      cases hgo
      exact h.finish hhand rfl _

/-- **Every beat keeps the order.** -/
theorem InTurn.beat (h : s.InTurn) (b : Beat) : (s.beat b).InTurn := by
  cases b with
  | outside e mishaps => exact h.outside e mishaps
  | listen channel => exact h.listen channel
  | work mishaps =>
      rw [Shift.beat]
      cases hwork : s.work? mishaps with
      | none => exact h
      | some s' =>
          rw [Shift.work?] at hwork
          split at hwork
          · next hhand => exact h.take hhand hwork
          · next hd hhand => exact h.goOn hhand hwork

theorem InTurn.run (h : s.InTurn) (beats : List Beat) : (s.run beats).InTurn := by
  induction beats generalizing s with
  | nil => exact h
  | cons b beats ih => exact ih (h.beat b)

/-- In the beginning nothing has been taken on. -/
theorem begin_inTurn (desk : Desk) (router : Router) (tickets : Nat) :
    (begin desk router tickets).InTurn := by
  have hmakers : (begin desk router tickets).makers = [] := by
    rw [Shift.makers, begin, List.filterMap_map, List.filterMap_eq_nil_iff]
    exact fun _ _ => rfl
  exact {
    current := rfl
    taken_le := Nat.le_refl _
    waiting := fun _ => rfl
    running := fun hhand => absurd rfl hhand
    hand := fun _ hhand => by cases hhand
    calls := by
      rw [begin, List.map_map]
      exact List.map_id _
    makers := fun m hm => by rw [hmakers] at hm; cases hm
    ordered := by rw [hmakers]; exact .nil
    dialogs := rfl
    unanswered := fun _ hhand => by cases hhand }

/-- **Confirmations never overlap and never overtake**, whatever happens outside and whenever it
does. -/
theorem confirmations_in_turn (desk : Desk) (router : Router) (tickets : Nat) (beats : List Beat) :
    let s := (begin desk router tickets).run beats
    -- the calls that confirmations have made, each with its maker
    let made := s.made.filterMap fun m => m.maker.map fun maker => (maker, m.call)
    -- no call is left out of the record
    s.made.map Made.call = s.session.desk.calls ∧
    -- the number of a confirmation is its place in the order of submission
    (∀ n asked c, ((n, asked), c) ∈ made → s.submitted[n]? = some asked) ∧
    -- between two calls of one confirmation there is no call of another, and the calls of one that
    -- was submitted later come later
    (∀ before a between b after, made = before ++ a :: between ++ b :: after →
      a.1.1 ≤ b.1.1 ∧ (a.1.1 = b.1.1 → ∀ c ∈ between, c.1.1 = a.1.1)) ∧
    -- at most one dialog waits, and it is that of the confirmation in hand
    s.dialogs.length ≤ 1 ∧
    (∀ n ∈ s.dialogs, ∃ asked p, s.hand = some ⟨n, asked, .asking p⟩ ∧
      s.session.desk.unanswered = true) := by
  intro s made
  have h : s.InTurn := (begin_inTurn desk router tickets).run beats
  have hmakers : made.map Prod.fst = s.makers := by
    rw [List.map_filterMap]
    refine congrArg (s.made.filterMap ·) (funext fun m => ?_)
    cases m.maker <;> rfl
  refine ⟨h.calls, ?_, ?_, ?_, ?_⟩
  · intro n asked c hmem
    have hmaker : (n, asked) ∈ s.makers := hmakers ▸ List.mem_map_of_mem hmem
    exact (h.makers _ hmaker).2
  · intro before a between b after hmade
    have hordered : made.Pairwise fun m m' => m.1.1 ≤ m'.1.1 := by
      have hpairs := h.ordered
      rw [← hmakers, List.pairwise_map] at hpairs
      exact hpairs
    rw [hmade] at hordered
    obtain ⟨hfront, -, hlast⟩ := List.pairwise_append.mp hordered
    obtain ⟨hfirst, -⟩ := List.pairwise_cons.mp (List.pairwise_append.mp hfront).2.1
    refine ⟨hlast a (by simp) b List.mem_cons_self, fun heq c hc => ?_⟩
    have hac := hfirst c hc
    have hcb := hlast c (by simp [hc]) b List.mem_cons_self
    omega
  · rw [h.dialogs]
    cases s.hand.bind fun h => h.pending?.map fun _ => h.number <;> simp
  · intro n hn
    rw [h.dialogs, Option.mem_toList, Option.bind_eq_some_iff] at hn
    obtain ⟨⟨number, asked, stage⟩, hhand, hn⟩ := hn
    cases stage with
    | checking plan => cases hn
    | concluding plan => cases hn
    | asking p =>
        cases hn
        exact ⟨asked, p, hhand, h.unanswered _ hhand rfl⟩

end Shift

end MacConsent.Session
