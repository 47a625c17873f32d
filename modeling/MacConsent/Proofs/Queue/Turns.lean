import MacConsent.Queue.Gated

/-!
# MacConsent.Proofs.Queue.Turns

The worker of a yard, turn by turn.  In a turn it begins a job, passes one pause
of the job in hand, ends that job, passes a barrier, or notes that it has run dry
(`Yard.turn?`).  Between two turns anything may happen outside.  A yard that
settles does nothing else: it takes turns until there is none left to take
(`Yard.leads_settle`).
-/

namespace MacConsent.Queue

/-! ## turns in general -/

section Turns

variable {σ : Type} {turn? : σ → Option σ} {s s' s'' : σ}

/-- The state after a number of turns, as far as there are turns to take. -/
def turns (turn? : σ → Option σ) : Nat → σ → σ
  | 0, s => s
  | n + 1, s => turns turn? n ((turn? s).getD s)

/-- Turns lead from one state to another. -/
def Leads (turn? : σ → Option σ) (s s' : σ) : Prop := ∃ n, turns turn? n s = s'

theorem Leads.refl (s : σ) : Leads turn? s s := ⟨0, rfl⟩

/-- A turn, and those that follow. -/
theorem Leads.turn (h : turn? s = some s') (h' : Leads turn? s' s'') : Leads turn? s s'' := by
  obtain ⟨n, rfl⟩ := h'
  refine ⟨n + 1, ?_⟩
  rw [turns, h, Option.getD_some]

theorem Leads.trans (h : Leads turn? s s') (h' : Leads turn? s' s'') : Leads turn? s s'' := by
  obtain ⟨n, rfl⟩ := h
  obtain ⟨m, rfl⟩ := h'
  refine ⟨n + m, ?_⟩
  induction n generalizing s with
  | zero => rw [Nat.zero_add]; rfl
  | succ n ih => rw [Nat.succ_add]; exact ih

/-- **Where turns lead.** If every turn leaves less to do and keeps where a state settles, and a
state without a turn to take is where it settles, then turns lead each state to where it
settles, and there are no more turns to take there. -/
theorem Leads.settle {settle : σ → σ} {todo : σ → Nat} {Fine : σ → Prop}
    (hless : ∀ s s', turn? s = some s' → todo s' < todo s)
    (hfine : ∀ s s', turn? s = some s' → Fine s')
    (hsame : ∀ s s', turn? s = some s' → settle s' = settle s)
    (hstuck : ∀ s, Fine s → turn? s = none → settle s = s) (s : σ) (hs : Fine s) :
    Leads turn? s (settle s) ∧ turn? (settle s) = none := by
  induction hn : todo s using Nat.strongRecOn generalizing s with
  | _ n ih =>
      cases hturn : turn? s with
      | none =>
          rw [hstuck s hs hturn]
          exact ⟨.refl s, hturn⟩
      | some s' =>
          have hrest := ih _ (hn ▸ hless s s' hturn) s' (hfine s s' hturn) rfl
          rw [hsame s s' hturn] at hrest
          exact ⟨.turn hturn hrest.1, hrest.2⟩

end Turns

namespace Yard

variable {y y' : Yard}

/-! ## what a turn does -/

/-- The yard with a job in hand. -/
def inHand (y : Yard) (job : GatedJob) : Yard :=
  { y with queue := { y.queue with current := some job } }

/-- The job in hand is begun. -/
def began (y : Yard) (job : GatedJob) (waiting : List (Item GatedJob)) : Yard :=
  { y with
    queue := { y.queue with waiting, current := some job }
    track := y.track.report (.started job.name) }

/-- The job in hand is done. -/
def ended (y : Yard) (job : GatedJob) : Yard :=
  { y with queue := y.queue.finish, track := y.track.report (.ended job.name) }

/-- A barrier is passed. -/
def passed (y : Yard) (ticket : Nat) (waiting : List (Item GatedJob)) : Yard :=
  { y with queue := { y.queue with waiting }, track := yardWork.pass ticket y.track }

/-- The worker has run dry. -/
def drained (y : Yard) : Yard :=
  { y with queue := { y.queue with worker := .drained }, track := yardWork.drain y.track }

/-- The yard after the next turn of its worker. There is none if the worker waits at a gate or for
something to do, or if it has ended. -/
def turn? (y : Yard) : Option Yard :=
  match y.queue.worker, y.queue.current with
  | .running, some job =>
    match job.pauses with
    | [] => some (y.ended job)
    | pause :: pauses =>
      if y.track.isPassable pause then some (y.inHand { job with pauses }) else none
  | .running, none =>
    match y.queue.waiting with
    | .job job :: waiting => some (y.began job waiting)
    | .barrier ticket :: waiting => some (y.passed ticket waiting)
    | [] => if y.queue.held then none else some y.drained
  | _, _ => none

/-- What a turn may be. -/
inductive Turn (y : Yard) : Yard → Prop
  /-- The job in hand passes a pause. -/
  | pause {job : GatedJob} {pause : Pause} {pauses : List Pause}
      (hrunning : y.queue.worker = .running) (hcurrent : y.queue.current = some job)
      (hpauses : job.pauses = pause :: pauses) (hpass : y.track.isPassable pause = true) :
      Turn y (y.inHand { job with pauses })
  | ended {job : GatedJob} (hrunning : y.queue.worker = .running)
      (hcurrent : y.queue.current = some job) (hpauses : job.pauses = []) : Turn y (y.ended job)
  | began {job : GatedJob} {waiting : List (Item GatedJob)} (hrunning : y.queue.worker = .running)
      (hcurrent : y.queue.current = none) (hwaiting : y.queue.waiting = .job job :: waiting) :
      Turn y (y.began job waiting)
  | passed {ticket : Nat} {waiting : List (Item GatedJob)} (hrunning : y.queue.worker = .running)
      (hcurrent : y.queue.current = none) (hwaiting : y.queue.waiting = .barrier ticket :: waiting) :
      Turn y (y.passed ticket waiting)
  | drained (hrunning : y.queue.worker = .running) (hcurrent : y.queue.current = none)
      (hwaiting : y.queue.waiting = []) (hheld : y.queue.held = false) : Turn y y.drained

theorem Turn.of_turn? (h : y.turn? = some y') : Turn y y' := by
  unfold turn? at h
  split at h
  next job hrunning hcurrent =>
    split at h
    next hpauses =>
      cases h
      exact .ended hrunning hcurrent hpauses
    next pause pauses hpauses =>
      split at h
      next hpass =>
        cases h
        exact .pause hrunning hcurrent hpauses hpass
      next => cases h
  next hrunning hcurrent =>
    split at h
    next job waiting hwaiting =>
      cases h
      exact .began hrunning hcurrent hwaiting
    next ticket waiting hwaiting =>
      cases h
      exact .passed hrunning hcurrent hwaiting
    next hwaiting =>
      split at h
      next => cases h
      next hheld =>
        cases h
        exact .drained hrunning hcurrent hwaiting (Bool.eq_false_iff.mpr hheld)
  next => cases h

/-- Only a worker that runs takes turns. -/
theorem running_of_turn? (h : y.turn? = some y') : y.queue.worker = .running := by
  cases Turn.of_turn? h <;> assumption

/-- A worker that runs and has no turn to take is at a gate that is shut with the job in hand, or
waits for something to do. -/
theorem stuck_of_turn? (h : y.turn? = none) (hrunning : y.queue.worker = .running) :
    (∃ job n, y.queue.current = some job ∧ job.pauses.head? = some (.gate n) ∧
      n ∈ y.track.shut) ∨
    (y.queue.current = none ∧ y.queue.waiting = [] ∧ y.queue.held = true) := by
  unfold turn? at h
  split at h
  next job _ hcurrent =>
    left
    split at h
    next => cases h
    next pause pauses hpauses =>
      split at h
      next => cases h
      next hpass =>
        cases pause with
        | turn => exact absurd rfl hpass
        | gate n =>
            refine ⟨job, n, hcurrent, by rw [hpauses]; rfl, ?_⟩
            simpa [Track.isPassable] using hpass
  next _ hcurrent =>
    right
    split at h
    next => cases h
    next => cases h
    next hwaiting =>
      split at h
      next hheld => exact ⟨hcurrent, hwaiting, hheld⟩
      next => cases h
  next hjob hidle =>
    cases hcurrent : y.queue.current with
    | some job => exact (hjob job hrunning hcurrent).elim
    | none => exact (hidle hrunning hcurrent).elim

/-! ## turns and settling -/

/-- How many turns an item takes. -/
def turnsOf : Item GatedJob → Nat
  | .job job => job.pauses.length + 2
  | .barrier _ => 1

/-- How many turns a yard has before it, at most. -/
def todo (y : Yard) : Nat :=
  y.queue.waiting.foldr (turnsOf · + ·) 0 +
  (y.queue.current.elim 0 fun job => job.pauses.length + 1) +
  if y.queue.worker = .running then 1 else 0

/-- A job is in hand only while the worker runs. -/
def Fine (y : Yard) : Prop := y.queue.current ≠ none → y.queue.worker = .running

theorem todo_lt_of_turn? (h : y.turn? = some y') : y'.todo < y.todo := by
  cases Turn.of_turn? h with
  | pause hrunning hcurrent hpauses hpass =>
      simp [todo, inHand, hrunning, hcurrent, hpauses]
  | ended hrunning hcurrent hpauses =>
      simp [todo, Yard.ended, Serial.finish, hrunning, hcurrent]
  | began hrunning hcurrent hwaiting =>
      simp [todo, turnsOf, Yard.began, hrunning, hcurrent, hwaiting]
      omega
  | passed hrunning hcurrent hwaiting =>
      simp [todo, turnsOf, Yard.passed, hrunning, hcurrent, hwaiting]
  | drained hrunning hcurrent hwaiting hheld =>
      simp [todo, Yard.drained, hrunning, hcurrent, hwaiting]

theorem fine_of_turn? (h : y.turn? = some y') : y'.Fine := by
  cases Turn.of_turn? h with
  | pause hrunning => exact fun _ => hrunning
  | ended hrunning => exact fun _ => hrunning
  | began hrunning => exact fun _ => hrunning
  | passed hrunning => exact fun _ => hrunning
  | drained hrunning hcurrent => exact fun h => absurd hcurrent h

/-- Settling goes on where a turn has begun. -/
theorem settle_of_turn? (h : y.turn? = some y') : y'.settle = y.settle := by
  cases Turn.of_turn? h with
  | pause hrunning hcurrent hpauses hpass =>
      simp only [settle, inHand, hcurrent, Track.goOn, hpauses, List.dropWhile_cons, hpass, if_true,
        Serial.finish]
  | ended hrunning hcurrent hpauses =>
      simp only [settle, Yard.ended, hcurrent, Track.goOn, hpauses, List.dropWhile_nil,
        Serial.finish]
  | @began job waiting hrunning hcurrent hwaiting =>
      simp only [settle, Yard.began, hcurrent, Serial.settle, hrunning, hwaiting, Serial.consume,
        yardWork, Track.start, Serial.finish]
      cases (y.track.report (.started job.name)).goOn job with
      | mk track job? => cases job? <;> rfl
  | passed hrunning hcurrent hwaiting =>
      simp only [settle, Yard.passed, hcurrent, Serial.settle, hrunning, hwaiting, Serial.consume]
  | drained hrunning hcurrent hwaiting hheld =>
      simp only [settle, Yard.drained, hcurrent, Serial.settle, hrunning, hwaiting, Serial.consume,
        hheld]
      rfl

/-- A yard without a turn to take has settled. -/
theorem settle_of_stuck (hfine : y.Fine) (h : y.turn? = none) : y.settle = y := by
  by_cases hrunning : y.queue.worker = .running
  · rcases stuck_of_turn? h hrunning with ⟨job, n, hcurrent, hhead, hshut⟩ | ⟨hcurrent, hwaiting, hheld⟩
    · obtain ⟨pauses, hpauses⟩ := List.head?_eq_some_iff.mp hhead
      have hstays : y.track.goOn job = (y.track, some job) := by
        have hgate : y.track.isPassable (.gate n) = false := by
          simpa [Track.isPassable] using hshut
        rw [Track.goOn, hpauses, List.dropWhile_cons_of_neg (Bool.eq_false_iff.mp hgate)]
        simp only [← hpauses]
      simp only [settle, hcurrent, hstays]
      rw [← hcurrent]
    · simp only [settle, hcurrent, Serial.settle, hrunning, hwaiting, Serial.consume, hheld, if_true]
      rw [← hcurrent, ← hrunning, ← hwaiting, ← hheld]
  · have hcurrent : y.queue.current = none := Decidable.not_not.mp fun h => hrunning (hfine h)
    have hsame : y.queue.settle yardWork y.track = (y.queue, y.track) := by
      unfold Serial.settle
      split
      next hrunning' _ => exact absurd hrunning' hrunning
      next => rfl
    simp only [settle, hcurrent, hsame]

/-- **Settling is taking turns.** -/
theorem leads_settle (hfine : y.Fine) : Leads turn? y y.settle ∧ y.settle.turn? = none :=
  Leads.settle (fun _ _ => todo_lt_of_turn?) (fun _ _ => fine_of_turn?)
    (fun _ _ => settle_of_turn?) (fun _ => settle_of_stuck) y hfine

end Yard

end MacConsent.Queue
