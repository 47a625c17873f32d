import MacConsent.Proofs.Router.Exchange

/-!
# MacConsent.Proofs.Router.Listeners

What the listeners of a router make of what is sent.  A turn of a listener is
about its own channel and keeps an exchange orderly; so whatever is asked of the
router, and whenever listeners take their turns, each event is received once and
in order (`Exchange.delivered_once_in_order`).  An exchange whose listeners take
turns settles, and then those run whose channels are held.
-/

namespace MacConsent.Exchange

variable {x x' : Exchange} {channel other : Nat}

/-! ## turns of listeners -/

/-- A listener has no turn to take if it has ended, or while it waits for those who hold its
channel. -/
theorem turn?_eq_none_iff :
    x.turn? channel = none ↔
      (x.line channel).listening = false ∨
        (x.line channel).waiting = [] ∧ x.router.isHeld channel = true := by
  unfold turn?
  obtain ⟨waiting, listening⟩ := x.line channel
  cases listening <;> cases waiting <;> simp

/-- What a listener may do in a turn. -/
inductive Turn (x : Exchange) (channel : Nat) : Exchange → Prop
  | takes {event : TapEvent} {waiting : List TapEvent}
      (hline : x.line channel = ⟨event :: waiting, true⟩) : Turn x channel (x.took channel event waiting)
  | ends (hline : x.line channel = ⟨[], true⟩) (hheld : x.router.isHeld channel = false) :
      Turn x channel (x.setLine channel {})

theorem Turn.of_turn? (h : x.turn? channel = some x') : Turn x channel x' := by
  unfold turn? at h
  split at h
  · next hline =>
      cases h
      exact .takes hline
  · next hline =>
      split at h
      · cases h
      · next hheld =>
          cases h
          exact .ends hline (Bool.eq_false_iff.2 hheld)
  · cases h

/-- A turn is about one channel. -/
theorem Turn.elsewhere (h : Turn x channel x') :
    x'.router = x.router ∧ x'.sent = x.sent ∧
      ∀ other, other ≠ channel →
        x'.line other = x.line other ∧ x'.receivedOn other = x.receivedOn other := by
  cases h with
  | takes hline =>
      refine ⟨rfl, rfl, fun other hother => ⟨line_setLine_of_ne hother, ?_⟩⟩
      simp [receivedOn, took, filter_tagged_of_ne (Ne.symm hother)]
  | ends hline hheld => exact ⟨rfl, rfl, fun other hother => ⟨line_setLine_of_ne hother, rfl⟩⟩

theorem Orderly.turn (h : x.Orderly) (hturn : Turn x channel x') : x'.Orderly := by
  intro other
  obtain ⟨hrouter, hsent, helsewhere⟩ := hturn.elsewhere
  by_cases hother : other = channel
  · subst hother
    obtain ⟨hheld, -, hfresh, haccount⟩ := h other
    cases hturn with
    | takes hline =>
        refine ⟨fun _ => ?_, fun hended => ?_, fun hle => ?_, ?_⟩
        · simp [took]
        · simp [took] at hended
        · exact absurd (hfresh hle) (by simp [hline])
        · rw [hline, wanted_cons] at haccount
          simpa [receivedOn, sentOn, took, setLine, filter_tagged] using haccount
    | ends hline hfree =>
        refine ⟨fun hheld' => ?_, fun _ => ?_, fun _ => ?_, ?_⟩
        · cases hfree.symm.trans hheld'
        · simp
        · simp
        · rw [hline] at haccount
          simpa [receivedOn, sentOn, setLine] using haccount
  · obtain ⟨hline, hreceived⟩ := helsewhere other hother
    have hsame : x'.sentOn other = x.sentOn other := by rw [sentOn, hsent, sentOn]
    exact (h other).elsewhere hline hsame hreceived (hrouter ▸ id) (hrouter ▸ Nat.le_refl _)

/-! ## runs -/

/-- **Every beat keeps an exchange orderly.** -/
theorem Orderly.beat (h : x.Orderly) (b : Beat) : (x.beat b).Orderly := by
  cases b with
  | ask e => exact h.ask e
  | listen channel =>
      rw [Exchange.beat]
      cases hturn : x.turn? channel with
      | none => exact h
      | some x' => exact h.turn (.of_turn? hturn)

theorem Orderly.run (h : x.Orderly) (beats : List Beat) : (x.run beats).Orderly := by
  induction beats generalizing x with
  | nil => exact h
  | cons b beats ih => exact ih (h.beat b)

/-- **In an exchange that has settled, the listeners of the channels that are held run**, and no
others; and nothing waits. -/
theorem Orderly.settled (h : x.Orderly) (hsettled : x.Settled) (channel : Nat) :
    (x.line channel).waiting = [] ∧
      ((x.line channel).listening = true ↔ x.router.isHeld channel = true) := by
  rcases turn?_eq_none_iff.1 (hsettled channel) with hended | ⟨hwaiting, hheld⟩
  · refine ⟨(h channel).drained hended, fun hlistening => ?_, (h channel).held⟩
    cases hended.symm.trans hlistening
  · exact ⟨hwaiting, fun _ => hheld, (h channel).held⟩

/-! ## settling -/

/-- A listener takes turns until it has none left to take. -/
theorem exists_turns (x : Exchange) (channel : Nat) :
    ∃ n, let x' := x.run (List.replicate n (.listen channel))
      x'.turn? channel = none ∧ x'.router = x.router ∧
        ∀ other, other ≠ channel → x'.line other = x.line other := by
  generalize hline : x.line channel = line
  obtain ⟨waiting, listening⟩ := line
  cases listening with
  | false => exact ⟨0, turn?_eq_none_iff.2 (.inl (by simp [run, hline])), rfl, fun _ _ => rfl⟩
  | true =>
      induction waiting generalizing x with
      | nil =>
          cases hturn : x.turn? channel with
          | none => exact ⟨0, hturn, rfl, fun _ _ => rfl⟩
          | some x' =>
              have hends : x.run (List.replicate 1 (.listen channel)) = x.setLine channel {} := by
                change x.beat (.listen channel) = _
                rw [beat, hturn]
                cases Turn.of_turn? hturn with
                | takes hline' => cases hline.symm.trans hline'
                | ends => rfl
              refine ⟨1, ?_⟩
              rw [hends]
              exact ⟨turn?_eq_none_iff.2 (.inl (by simp)), rfl, fun _ => line_setLine_of_ne⟩
      | cons event waiting ih =>
          have hturn : x.turn? channel = some (x.took channel event waiting) := by
            simp only [turn?, hline]
          obtain ⟨hrouter, -, helsewhere⟩ := (Turn.of_turn? hturn).elsewhere
          obtain ⟨n, hnone, hrouter', helsewhere'⟩ :=
            ih (x.took channel event waiting) (line_setLine_self _)
          have hfirst : x.run (List.replicate (n + 1) (.listen channel)) =
              (x.took channel event waiting).run (List.replicate n (.listen channel)) := by
            rw [List.replicate_succ, run, List.foldl_cons, beat, hturn]
            rfl
          refine ⟨n + 1, ?_⟩
          rw [hfirst]
          exact ⟨hnone, hrouter'.trans hrouter, fun other hother =>
            (helsewhere' other hother).trans (helsewhere other hother).1⟩

theorem run_cons (x : Exchange) (b : Beat) (beats : List Beat) :
    x.run (b :: beats) = (x.beat b).run beats := rfl

theorem run_append (x : Exchange) (beats more : List Beat) :
    x.run (beats ++ more) = (x.run beats).run more :=
  List.foldl_append

/-- Listeners with no turn to take have none after the turns of another. -/
theorem turn?_elsewhere (hrouter : x'.router = x.router)
    (hline : x'.line other = x.line other) (h : x.turn? other = none) : x'.turn? other = none := by
  rw [turn?_eq_none_iff] at h ⊢
  rwa [hline, hrouter]

/-- The first channels settle, one after another. -/
theorem exists_settled_below (x : Exchange) (n : Nat) :
    ∃ channels : List Nat, let x' := x.run (channels.map .listen)
      x'.router = x.router ∧ (∀ channel < n, x'.turn? channel = none) := by
  induction n with
  | zero => exact ⟨[], rfl, fun _ hlt => absurd hlt (Nat.not_lt_zero _)⟩
  | succ n ih =>
      obtain ⟨channels, hrouter, hbelow⟩ := ih
      obtain ⟨m, hnone, hrouter', helsewhere⟩ := (x.run (channels.map .listen)).exists_turns n
      refine ⟨channels ++ List.replicate m n, ?_⟩
      rw [List.map_append, List.map_replicate]
      dsimp only
      rw [run_append]
      refine ⟨hrouter'.trans hrouter, fun channel hlt => ?_⟩
      by_cases hlast : channel = n
      · exact hlast ▸ hnone
      · exact turn?_elsewhere hrouter' (helsewhere channel hlast) (hbelow channel (by omega))

/-- **An exchange settles** if its listeners take turns. -/
theorem Orderly.exists_settled (h : x.Orderly) :
    ∃ channels : List Nat, (x.run (channels.map .listen)).Settled := by
  obtain ⟨channels, hrouter, hbelow⟩ := x.exists_settled_below x.router.opened
  refine ⟨channels, fun channel => ?_⟩
  by_cases hlt : channel < x.router.opened
  · exact hbelow channel hlt
  · refine turn?_eq_none_iff.2 (.inl ((h.run _ channel).fresh ?_))
    rw [hrouter]
    exact Nat.le_of_not_lt hlt

/-! ## deliveries -/

/-- **Every event that is sent is received, once and in order**, whatever is asked of the router and
whenever its listeners take their turns; and a router tells by who holds its channels what their
listeners make of it. -/
theorem delivered_once_in_order (beats : List Beat) :
    let x := ({} : Exchange).run beats
    -- what was sent through a channel was received in that order, or it waits for the listener
    (∀ channel,
      x.receivedOn channel ++ wanted (x.line channel).waiting = wanted (x.sentOn channel)) ∧
    -- as long as there is a sender, its channel takes on whatever is sent
    (∀ channel events, x.router.sender = some channel →
      (x.step (.send events)).1 = .deliveries (events.map fun _ => .sent) ∧
      (x.step (.send events)).2.sent = x.sent ++ events.map (channel, ·)) ∧
    -- the answers, the channels and the events sent are those that the router tells of
    (∀ e, (x.step e).1 = (x.router.step e).1 ∧ (x.step e).2.router = (x.router.step e).2.1 ∧
      (x.step e).2.sent =
        x.sent ++ (x.router.step e).2.2.map (x.router.sender.getD 0, ·)) ∧
    -- in the end everything was received, and the listeners of the channels that are held run
    (x.Settled → ∀ channel,
      x.receivedOn channel = wanted (x.sentOn channel) ∧
      ((x.line channel).listening = true ↔
        x.router.own = some channel ∨ x.router.sender = some channel)) ∧
    -- and it comes to that if listeners take turns
    ∃ channels : List Nat, (x.run (channels.map .listen)).Settled := by
  intro x
  have h : x.Orderly := orderly_new.run beats
  refine ⟨fun channel => (h channel).account, fun channel events hsender => ?_, h.step_eq,
    fun hsettled channel => ?_, h.exists_settled⟩
  · obtain ⟨hanswers, hsent⟩ := h.deliverAll_of_sender hsender events
    exact ⟨congrArg Router.Answer.deliveries hanswers, hsent⟩
  · obtain ⟨hwaiting, hlistening⟩ := h.settled hsettled channel
    have haccount := (h channel).account
    rw [hwaiting, wanted_nil, List.append_nil] at haccount
    exact ⟨haccount, hlistening.trans isHeld_iff⟩

end MacConsent.Exchange
