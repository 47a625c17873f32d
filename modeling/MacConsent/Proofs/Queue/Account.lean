import MacConsent.Proofs.Queue.Turns

/-!
# MacConsent.Proofs.Queue.Account

A yard with an account of what was asked of it.  Steps from outside and turns of
the worker come in any order (`Beat`); the account keeps the jobs that were taken
on, and where each flush stands among them.  It is kept from what the steps gave
back, never from what stands in the queue.

`History` is what ties the two: the items that came to the queue in one row, of
which a front part is done, one job may be in hand, and the rest is behind.  Each
beat moves the borders in the row or adds to its end (`Told.beat`).
-/

namespace MacConsent.Queue

/-- Something that happens in the life of a yard. -/
inductive Beat
  /-- Something from outside. -/
  | outside (e : Yard.Step)
  /-- The worker takes a turn, if there is one to take. -/
  | work
deriving DecidableEq, Repr

/-- A yard, and what was asked of it. -/
structure Account where
  yard : Yard := {}
  /-- The names of the jobs that were taken on, in the order in which they were submitted. -/
  accepted : List String := []
  /-- The ticket of each flush, and how many jobs had been taken on before it. -/
  flushes : List (Nat × Nat) := []

/-- The names of the orders that were served. -/
def servedNames (orders : List Order) (results : List Served) : List String :=
  (orders.zip results).filterMap fun (order, result) =>
    match result with
    | .ok () => some order.name
    | .error _ => none

/-- The jobs a step was told are taken on. -/
def Yard.takenOn : Yard.Step → Yard.Answer → List String
  | .submit orders, .submitted results => servedNames orders results
  | _, _ => []

/-- The ticket a step was given. -/
def Yard.Answer.tickets : Yard.Answer → List Nat
  | .ticket n => [n]
  | _ => []

namespace Account

/-- The account after one beat. -/
def beat (a : Account) : Beat → Account
  | .outside e =>
    let (answer, yard) := a.yard.act e
    { yard
      accepted := a.accepted ++ Yard.takenOn e answer
      flushes := a.flushes ++ answer.tickets.map fun ticket => (ticket, a.accepted.length) }
  | .work => { a with yard := a.yard.turn?.getD a.yard }

/-- The account after a number of beats. -/
def run (a : Account) (beats : List Beat) : Account := beats.foldl beat a

/-- A new yard after a number of beats. -/
def after (beats : List Beat) : Account := ({} : Account).run beats

end Account

/-! ## rows of items -/

/-- The names of the jobs among items, in order. -/
def jobNames (items : List (Item GatedJob)) : List String :=
  items.filterMap fun
    | .job job => some job.name
    | .barrier _ => none

/-- The tickets of the barriers among items, each with the number of jobs before it. -/
def barriers (before : Nat) : List (Item GatedJob) → List (Nat × Nat)
  | [] => []
  | .job _ :: items => barriers (before + 1) items
  | .barrier ticket :: items => (ticket, before) :: barriers before items

/-- What a job reports from its start to its end. -/
def course (job : String) : List Report := [.started job, .ended job]

section Rows

variable (items items' : List (Item GatedJob)) (job : GatedJob) (ticket n : Nat)

@[simp] theorem jobNames_job : jobNames (.job job :: items) = job.name :: jobNames items := rfl

@[simp] theorem jobNames_barrier : jobNames (.barrier ticket :: items) = jobNames items := rfl

@[simp] theorem jobNames_append : jobNames (items ++ items') = jobNames items ++ jobNames items' :=
  List.filterMap_append

/-- The jobs of the first row count for the barriers of the second. -/
@[simp] theorem barriers_append :
    barriers n (items ++ items') =
      barriers n items ++ barriers (n + (jobNames items).length) items' := by
  induction items generalizing n with
  | nil => rfl
  | cons item items ih =>
      cases item with
      | job job =>
          rw [List.cons_append, barriers, ih, barriers, jobNames_job, List.length_cons,
            Nat.add_right_comm, Nat.add_assoc]
      | barrier ticket =>
          rw [List.cons_append, barriers, ih, barriers, jobNames_barrier, List.cons_append]

end Rows

/-! ## histories -/

/-- What became of the items that came to a queue. -/
structure History where
  /-- The jobs that ended and the barriers that were passed. -/
  done : List (Item GatedJob) := []
  /-- The job that has begun and has not ended. -/
  hand : Option GatedJob := none
  behind : List (Item GatedJob) := []
  /-- The flushes that found no worker, with the number of jobs before each. -/
  late : List (Nat × Nat) := []

namespace History

/-- All items, in the order in which they came. -/
def items (h : History) : List (Item GatedJob) := h.done ++ h.hand.toList.map .job ++ h.behind

/-- What the jobs have reported. -/
def reports (h : History) : List Report :=
  (jobNames h.done).flatMap course ++ h.hand.toList.map fun job => .started job.name

/-- The flushes that were served. -/
def served (h : History) : List (Nat × Served) := (tickets h.done).map fun n => (n, .ok ())

/-- The flushes that are lost if the worker is stopped. -/
def lost (h : History) : List (Nat × Served) :=
  (tickets h.behind ++ h.late.map Prod.fst).map fun n => (n, .error .queueClosed)

end History

/-- How far a yard is with the items of a history. -/
inductive Fate (y : Yard) (h : History) : Prop
  /-- The worker has something in hand or waits, and the rest stands in the queue. -/
  | running (worker : y.queue.worker = .running) (waiting : y.queue.waiting = h.behind)
      (current : y.queue.current = h.hand) (late : h.late = [])
      (reports : y.track.reports = h.reports) (resolved : y.track.resolved = h.served)
  /-- Everything is done, and nobody can submit any more. -/
  | drained (worker : y.queue.worker = .drained) (released : y.queue.held = false)
      (waiting : y.queue.waiting = []) (current : y.queue.current = none) (hand : h.hand = none)
      (behind : h.behind = []) (late : h.late = [])
      (reports : y.track.reports = h.reports ++ [.noted (.queueDrained yardName)])
      (resolved : y.track.resolved = h.served)
  /-- What was not done is lost. -/
  | stopped (worker : y.queue.worker = .stopped) (waiting : y.queue.waiting = [])
      (current : y.queue.current = none) (reports : y.track.reports = h.reports)
      (resolved : y.track.resolved = h.served ++ h.lost)

/-- An account tells of a history. -/
structure Told (a : Account) (h : History) : Prop where
  accepted : a.accepted = jobNames h.items
  flushes : a.flushes = barriers 0 h.items ++ h.late
  numbered : a.flushes.map Prod.fst = List.range a.yard.flushes
  fate : Fate a.yard h

/-- Two yards between which only gates differ. -/
structure SameWork (y y' : Yard) : Prop where
  queue : y'.queue = y.queue
  reports : y'.track.reports = y.track.reports
  resolved : y'.track.resolved = y.track.resolved

namespace SameWork

variable {y y' : Yard}

/-- Pauses that are made put nothing in the queue. -/
theorem makePauses (y : Yard) (pauses : List (Option String)) :
    SameWork y (y.makePauses pauses).2 ∧ (y.makePauses pauses).2.flushes = y.flushes := by
  induction pauses generalizing y with
  | nil => exact ⟨⟨rfl, rfl, rfl⟩, rfl⟩
  | cons pause pauses ih =>
      cases pause with
      | none => exact ih y
      | some name =>
          obtain ⟨hrest, hflushes⟩ := ih (y.makeGate name)
          exact ⟨⟨hrest.queue, hrest.reports, hrest.resolved⟩, hflushes⟩

/-- A gate that opens puts nothing in the queue. -/
theorem openGate (y : Yard) (name : String) :
    SameWork y (y.openGate name).2 ∧ (y.openGate name).2.flushes = y.flushes := by
  unfold Yard.openGate
  split
  next => exact ⟨⟨rfl, rfl, rfl⟩, rfl⟩
  next => exact ⟨⟨rfl, rfl, rfl⟩, rfl⟩

/-- What leaves the work alone leaves the history true. -/
theorem fate {h : History} (hsame : SameWork y y') (hfate : Fate y h) : Fate y' h := by
  cases hfate with
  | running worker waiting current late reports resolved =>
      exact .running (hsame.queue ▸ worker) (hsame.queue ▸ waiting) (hsame.queue ▸ current) late
        (hsame.reports.trans reports) (hsame.resolved.trans resolved)
  | drained worker released waiting current hand behind late reports resolved =>
      exact .drained (hsame.queue ▸ worker) (hsame.queue ▸ released) (hsame.queue ▸ waiting)
        (hsame.queue ▸ current) hand behind late (hsame.reports.trans reports)
        (hsame.resolved.trans resolved)
  | stopped worker waiting current reports resolved =>
      exact .stopped (hsame.queue ▸ worker) (hsame.queue ▸ waiting) (hsame.queue ▸ current)
        (hsame.reports.trans reports) (hsame.resolved.trans resolved)

end SameWork

/-! ## one beat -/

section Beats

variable {a : Account} {h : History} {y y' : Yard}

/-- Nothing has come to a new yard. -/
theorem Told.new : Told {} {} :=
  ⟨rfl, rfl, rfl, .running rfl rfl rfl rfl rfl rfl⟩

/-- A running worker takes any item on, behind all others. -/
theorem submit?_running {q : Serial GatedJob GatedJob} (hrunning : q.worker = .running)
    (item : Item GatedJob) : q.submit? item = some { q with waiting := q.waiting ++ [item] } :=
  if_pos hrunning

/-- A worker that has stopped takes nothing on. -/
theorem submit?_ended {q : Serial GatedJob GatedJob} (hended : q.worker ≠ .running)
    (item : Item GatedJob) : q.submit? item = none :=
  if_neg hended

theorem History.items_push (h : History) (item : Item GatedJob) :
    { h with behind := h.behind ++ [item] : History }.items = h.items ++ [item] :=
  (List.append_assoc ..).symm

/-- How far a yard is while its worker runs. -/
theorem Fate.of_running (hfate : Fate y h) (hrunning : y.queue.worker = .running) :
    y.queue.waiting = h.behind ∧ y.queue.current = h.hand ∧ h.late = [] ∧
      y.track.reports = h.reports ∧ y.track.resolved = h.served := by
  cases hfate with
  | running _ waiting current late reports resolved =>
      exact ⟨waiting, current, late, reports, resolved⟩
  | drained worker => rw [worker] at hrunning; cases hrunning
  | stopped worker => rw [worker] at hrunning; cases hrunning

/-- What is submitted to a worker that runs comes last. -/
theorem Fate.push (hfate : Fate y h) (hrunning : y.queue.worker = .running)
    (item : Item GatedJob) :
    Fate { y with queue := { y.queue with waiting := y.queue.waiting ++ [item] } }
      { h with behind := h.behind ++ [item] } := by
  obtain ⟨waiting, current, late, reports, resolved⟩ := hfate.of_running hrunning
  exact .running hrunning (congrArg (· ++ [item]) waiting) current late reports resolved

/-- A job that is submitted comes last, or is refused. -/
theorem Told.submit (htold : Told a h) (order : Order) :
    ∃ h', Told ⟨(a.yard.submit order).2,
      a.accepted ++ servedNames [order] [(a.yard.submit order).1], a.flushes⟩ h' := by
  obtain ⟨hsame, hflushes⟩ := SameWork.makePauses a.yard order.pauses
  simp only [Yard.submit]
  generalize a.yard.makePauses order.pauses = made at hsame hflushes ⊢
  obtain ⟨pauses, y⟩ := made
  have hfate : Fate y h := hsame.fate htold.fate
  have hnumbered : a.flushes.map Prod.fst = List.range y.flushes :=
    hflushes ▸ htold.numbered
  by_cases hrunning : y.queue.worker = .running
  · have hlate : h.late = [] := (hfate.of_running hrunning).2.2.1
    rw [submit?_running hrunning]
    refine ⟨_, ?_, ?_, hnumbered, hfate.push hrunning (.job ⟨order.name, pauses⟩)⟩
    · rw [History.items_push, jobNames_append, ← htold.accepted]
      rfl
    · rw [History.items_push, barriers_append, htold.flushes]
      simp only [hlate, barriers, List.append_nil]
  · rw [submit?_ended hrunning]
    exact ⟨h, (List.append_nil _).trans htold.accepted, htold.flushes, hnumbered, hfate⟩

/-- Of all orders, those that are served come to the row, in their order. -/
theorem Told.submitAll (htold : Told a h) (orders : List Order) :
    ∃ h', Told ⟨(a.yard.submitAll orders).2,
      a.accepted ++ servedNames orders (a.yard.submitAll orders).1, a.flushes⟩ h' := by
  induction orders generalizing a h with
  | nil => exact ⟨h, (List.append_nil _).trans htold.accepted, htold.flushes, htold.numbered, htold.fate⟩
  | cons order orders ih =>
      obtain ⟨h', htold'⟩ := htold.submit order
      have hnames : servedNames (order :: orders) (a.yard.submitAll (order :: orders)).1 =
          servedNames [order] [(a.yard.submit order).1] ++
            servedNames orders ((a.yard.submit order).2.submitAll orders).1 :=
        List.filterMap_append (l := [(order, (a.yard.submit order).1)])
      rw [hnames, ← List.append_assoc]
      exact ih htold'

/-- A flush stands behind all that was taken on, or finds no worker. -/
theorem Told.flush (htold : Told a h) (hheld : a.yard.queue.held = true) :
    ∃ h', Told ⟨a.yard.flush.2, a.accepted,
      a.flushes ++ [(a.yard.flush.1, a.accepted.length)]⟩ h' := by
  have hnumbered : (a.flushes ++ [(a.yard.flushes, a.accepted.length)]).map Prod.fst =
      List.range (a.yard.flushes + 1) := by
    rw [List.map_append, htold.numbered, List.range_succ]
    rfl
  have hsame : SameWork a.yard { a.yard with flushes := a.yard.flushes + 1 } := ⟨rfl, rfl, rfl⟩
  have hfate := hsame.fate htold.fate
  by_cases hrunning : a.yard.queue.worker = .running
  · have hlate : h.late = [] := (hfate.of_running hrunning).2.2.1
    simp only [Yard.flush, submit?_running hrunning]
    refine ⟨_, ?_, ?_, hnumbered, hfate.push hrunning (.barrier a.yard.flushes)⟩
    · rw [History.items_push, jobNames_append, ← htold.accepted]
      exact (List.append_nil _).symm
    · rw [History.items_push, barriers_append, htold.flushes, htold.accepted]
      simp only [hlate, barriers, List.append_nil, Nat.zero_add]
  · simp only [Yard.flush, submit?_ended hrunning]
    cases hfate with
    | running worker => exact absurd worker hrunning
    | drained _ released => rw [released] at hheld; cases hheld
    | stopped worker waiting current reports resolved =>
        refine ⟨{ h with late := h.late ++ [(a.yard.flushes, a.accepted.length)] },
          htold.accepted, ?_, hnumbered, .stopped worker waiting current reports ?_⟩
        · rw [htold.flushes]
          exact List.append_assoc ..
        · have hlost : a.yard.track.resolved = h.served ++ h.lost := resolved
          simp only [Track.resolve, hlost, History.lost, History.served, List.map_append,
            List.append_assoc]
          rfl

/-- What is lost when a worker is stopped is told so. -/
theorem resolved_foldl_resolve (tickets : List Nat) (t : Track) (result : Served) :
    (tickets.foldl (fun t n => t.resolve n result) t).resolved =
      t.resolved ++ tickets.map fun n => (n, result) := by
  induction tickets generalizing t with
  | nil => exact (List.append_nil _).symm
  | cons n tickets ih => rw [List.foldl_cons, ih]; exact List.append_assoc ..

/-- A flush that is resolved reports nothing. -/
theorem reports_foldl_resolve (tickets : List Nat) (t : Track) (result : Served) :
    (tickets.foldl (fun t n => t.resolve n result) t).reports = t.reports := by
  induction tickets generalizing t with
  | nil => rfl
  | cons n tickets ih => exact ih _

/-- A second stop does nothing. -/
theorem stop_ended (hended : y.queue.worker ≠ .running) : y.stop = y := by
  simp only [Yard.stop, Serial.stop, if_neg hended]
  rfl

/-- A stop loses what is behind and the job in hand. -/
theorem Fate.stop (hfate : Fate y h) : Fate y.stop h := by
  by_cases hrunning : y.queue.worker = .running
  · obtain ⟨waiting, current, late, reports, resolved⟩ := hfate.of_running hrunning
    simp only [Yard.stop, Serial.stop, if_pos hrunning]
    refine .stopped rfl rfl rfl ?_ ?_
    · rw [reports_foldl_resolve, reports]
    · rw [resolved_foldl_resolve, resolved, waiting, History.lost, late, List.map_nil,
        List.append_nil]
  · rw [stop_ended hrunning]
    exact hfate

/-- Letting go of the queue moves nothing in the row. -/
theorem Fate.release (hfate : Fate y h) : Fate y.release h := by
  cases hfate with
  | running worker waiting current late reports resolved =>
      exact .running worker waiting current late reports resolved
  | drained worker _ waiting current hand behind late reports resolved =>
      exact .drained worker rfl waiting current hand behind late reports resolved
  | stopped worker waiting current reports resolved =>
      exact .stopped worker waiting current reports resolved

/-- What a step from outside does to the account. -/
theorem Told.act (htold : Told a h) (e : Yard.Step) : ∃ h', Told (a.beat (.outside e)) h' := by
  have hnone : ∀ {y : Yard}, y.flushes = a.yard.flushes → Fate y h →
      Told ⟨y, a.accepted ++ [], a.flushes ++ []⟩ h := by
    intro y hflushes hfate
    rw [List.append_nil, List.append_nil]
    exact ⟨htold.accepted, htold.flushes, hflushes ▸ htold.numbered, hfate⟩
  cases e with
  | submit orders =>
      simp only [Account.beat, Yard.act]
      split
      next =>
        obtain ⟨h', htold'⟩ := htold.submitAll orders
        rw [← List.append_nil a.flushes] at htold'
        exact ⟨h', htold'⟩
      next => exact ⟨h, hnone rfl htold.fate⟩
  | flush =>
      simp only [Account.beat, Yard.act]
      split
      next hheld =>
        obtain ⟨h', htold'⟩ := htold.flush hheld
        exact ⟨h', (List.append_nil _).trans htold'.accepted, htold'.flushes, htold'.numbered,
          htold'.fate⟩
      next => exact ⟨h, hnone rfl htold.fate⟩
  | openGate name =>
      obtain ⟨hsame, hflushes⟩ := SameWork.openGate a.yard name
      exact ⟨h, hnone hflushes (hsame.fate htold.fate)⟩
  | stop => exact ⟨h, hnone rfl htold.fate.stop⟩
  | release => exact ⟨h, hnone rfl htold.fate.release⟩

/-- A turn of the worker moves a border in the row of items. -/
theorem Fate.turn (hfate : Fate y h) (hturn : y.turn? = some y') :
    ∃ h', Fate y' h' ∧ h'.late = h.late ∧ jobNames h'.items = jobNames h.items ∧
      barriers 0 h'.items = barriers 0 h.items ∧ y'.flushes = y.flushes := by
  have worker := Yard.running_of_turn? hturn
  obtain ⟨waiting, current, hlate, reports, resolved⟩ := hfate.of_running worker
  obtain ⟨done, hand, behind, late⟩ := h
  cases Yard.Turn.of_turn? hturn with
  | @pause job pause pauses _ hcurrent hpauses hpass =>
      cases current.symm.trans hcurrent
      refine ⟨⟨done, some { job with pauses }, behind, late⟩,
        .running worker waiting rfl hlate reports resolved, rfl, ?_, ?_, rfl⟩
      · simp [History.items]
      · simp [History.items, barriers]
  | @ended job _ hcurrent hpauses =>
      cases current.symm.trans hcurrent
      refine ⟨⟨done ++ [.job job], none, behind, late⟩,
        .running worker waiting rfl hlate ?_ ?_, rfl, ?_, ?_, rfl⟩
      · simp [Yard.ended, Track.report, reports, History.reports, course, jobNames]
      · simpa [Yard.ended, Track.report, History.served, tickets] using resolved
      · simp [History.items]
      · simp [History.items]
  | @began job rest _ hcurrent hwaiting =>
      cases current.symm.trans hcurrent
      cases waiting.symm.trans hwaiting
      refine ⟨⟨done, some job, rest, late⟩,
        .running worker rfl rfl hlate ?_ resolved, rfl, ?_, ?_, rfl⟩
      · simp [Yard.began, Track.report, reports, History.reports]
      · simp [History.items]
      · simp [History.items]
  | @passed ticket rest _ hcurrent hwaiting =>
      cases current.symm.trans hcurrent
      cases waiting.symm.trans hwaiting
      refine ⟨⟨done ++ [.barrier ticket], none, rest, late⟩,
        .running worker rfl hcurrent hlate ?_ ?_, rfl, ?_, ?_, rfl⟩
      · simpa [Yard.passed, yardWork, Track.resolve, History.reports, jobNames] using reports
      · simp [Yard.passed, yardWork, Track.resolve, resolved, History.served, tickets]
      · simp [History.items]
      · simp [History.items]
  | drained _ hcurrent hwaiting hheld =>
      cases current.symm.trans hcurrent
      cases waiting.symm.trans hwaiting
      refine ⟨⟨done, none, [], late⟩,
        .drained rfl hheld hwaiting hcurrent rfl rfl hlate ?_ resolved, rfl, rfl, rfl, rfl⟩
      simp [Yard.drained, yardWork, Track.report, reports]

/-- **Every beat is told.** -/
theorem Told.beat (htold : Told a h) (b : Beat) : ∃ h', Told (a.beat b) h' := by
  cases b with
  | outside e => exact htold.act e
  | work =>
      cases hturn : a.yard.turn? with
      | none =>
          simp only [Account.beat, hturn, Option.getD_none]
          exact ⟨h, htold⟩
      | some y =>
          simp only [Account.beat, hturn, Option.getD_some]
          obtain ⟨h', hfate, hlate, hnames, hbarriers, hflushes⟩ := htold.fate.turn hturn
          exact ⟨h', hnames ▸ htold.accepted, hlate ▸ hbarriers ▸ htold.flushes,
            hflushes ▸ htold.numbered, hfate⟩

/-- **The account of a run is that of some history.** -/
theorem Told.run (htold : Told a h) (beats : List Beat) : ∃ h', Told (a.run beats) h' := by
  induction beats generalizing a h with
  | nil => exact ⟨h, htold⟩
  | cons b beats ih =>
      obtain ⟨h', htold'⟩ := htold.beat b
      exact ih htold'

end Beats

end MacConsent.Queue
