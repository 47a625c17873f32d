import MacConsent.Proofs.Session.Line

/-!
# MacConsent.Proofs.Session.Flush

A flush waits for all that was submitted before it.  Its barrier stands in the
line, and as long as it stands there the confirmations before it are counted: as
many have ended as were submitted, less those that still stand before it
(`Ledger.Barred`).  So when it is passed all of them have ended
(`Shift.ended_of_flushed`), and any of them can be picked from the outcomes, in
their order (`Shift.Served.pick`).
-/

namespace MacConsent.Session

open Desk (Asked)
open Store (Mishap)

/-! ## barriers -/

/-- A barrier with a number of confirmations before it: either it stands in the line, behind those
that have not ended yet, or they all have ended, or it has been lost. -/
inductive Ledger.Barred (ticket n : Nat) (l : Ledger) : Prop
  | waits {front back : List (Queue.Item Asked)} (hrunning : l.worker = .running)
      (hline : l.line = front ++ .barrier ticket :: back) (hfront : .barrier ticket ∉ front)
      (hcount : l.ended.length + (jobs front).length = n)
      (hopen : (ticket, .flushed (.ok ())) ∉ l.resolved)
  | passed (hended : n ≤ l.ended.length)
  | lost (hended : l.worker ≠ .running) (hopen : (ticket, .flushed (.ok ())) ∉ l.resolved)

/-- What is lost has not been waited for. -/
theorem ne_of_loss? {item : Queue.Item Asked} {d : Nat × Resolution} (h : loss? item = some d)
    (ticket : Nat) : d ≠ (ticket, .flushed (.ok ())) := by
  rintro rfl
  cases item with
  | job asked =>
      obtain ⟨ticket', -, hloss⟩ := Option.map_eq_some_iff.1 h
      cases hloss
  | barrier ticket' => cases h

namespace Ledger

variable {l l' : Ledger} {b : Beat} {ticket n : Nat}

/-- What has ended stays so. -/
theorem Change.length_ended_le (h : l.Change b l') : l.ended.length ≤ l'.ended.length := by
  cases h with
  | finished => exact List.length_append ▸ Nat.le_add_right _ _
  | _ => exact Nat.le_refl _

/-- **A flush succeeds by its barrier being passed**, and in no other way. -/
theorem Change.flushed_cases (h : l.Change b l')
    (hok : (ticket, .flushed (.ok ())) ∈ l'.resolved) :
    (ticket, .flushed (.ok ())) ∈ l.resolved ∨
      l'.worker = .running ∧ ∃ rest, l.line = .barrier ticket :: rest := by
  cases h with
  | none => exact .inl hok
  | joined => exact .inl hok
  | drained => exact .inl hok
  | refused item =>
      refine (List.mem_append.1 hok).imp_right fun hlost => ?_
      exact absurd rfl (ne_of_loss? (Option.mem_toList.1 hlost) ticket)
  | passed mishaps hrunning hline =>
      refine (List.mem_append.1 hok).imp_right fun hpassed => ?_
      cases List.mem_singleton.1 hpassed
      exact ⟨hrunning, _, hline⟩
  | finished number outcome =>
      refine (List.mem_append.1 hok).imp_right fun htold => ?_
      obtain ⟨ticket', -, houtcome⟩ := Option.map_eq_some_iff.1 (Option.mem_toList.1 htold)
      cases houtcome
  | stopped =>
      refine (List.mem_append.1 hok).imp_right fun hlost => ?_
      obtain ⟨item, -, hloss⟩ := List.mem_filterMap.1 hlost
      exact absurd rfl (ne_of_loss? hloss ticket)

theorem Barred.ended (h : l.Barred ticket n) (hok : (ticket, .flushed (.ok ())) ∈ l.resolved) :
    n ≤ l.ended.length := by
  cases h with
  | waits hrunning hline hfront hcount hopen => exact absurd hok hopen
  | passed hended => exact hended
  | lost hended hopen => exact absurd hok hopen

theorem Barred.change (h : l.Barred ticket n) (hchange : l.Change b l') : l'.Barred ticket n := by
  cases h with
  | passed hended => exact .passed (hended.trans hchange.length_ended_le)
  | lost hended hopen =>
      refine .lost (mt hchange.running hended) fun hok => ?_
      rcases hchange.flushed_cases hok with hok | ⟨hrunning, -⟩
      · exact hopen hok
      · exact hended (hchange.running hrunning)
  | @waits front back hrunning hline hfront hcount hopen =>
      have hflushed (hok : (ticket, .flushed (.ok ())) ∈ l'.resolved) := hchange.flushed_cases hok
      have hstill (hne : front ≠ []) : (ticket, .flushed (.ok ())) ∉ l'.resolved := fun hok => by
        rcases hflushed hok with hok | ⟨-, rest, hfirst⟩
        · exact hopen hok
        · obtain ⟨item, front, rfl⟩ := List.exists_cons_of_ne_nil hne
          obtain ⟨rfl, -⟩ := List.cons_eq_cons.1 (hline.symm.trans hfirst)
          exact hfront List.mem_cons_self
      cases hchange with
      | none hgives => exact .waits hrunning hline hfront hcount hopen
      | joined item hothers _ hgives =>
          have hlonger : l.line ++ [item] = front ++ .barrier ticket :: (back ++ [item]) := by
            rw [hline, List.append_assoc, List.cons_append]
          exact .waits hrunning hlonger hfront hcount hopen
      | refused item hothers hended hgives => exact absurd hrunning hended
      | passed mishaps _ hpassed =>
          rw [hpassed] at hline
          cases front with
          | nil => exact .passed (Nat.le_of_eq hcount.symm)
          | cons item front =>
              obtain ⟨rfl, rfl⟩ := List.cons_eq_cons.1 hline
              exact .waits hrunning rfl (fun hmem => hfront (List.mem_cons_of_mem _ hmem)) hcount
                (hstill (List.cons_ne_nil _ _))
      | finished number outcome mishaps _ hfinished =>
          rw [hfinished] at hline
          cases front with
          | nil => cases hline
          | cons item front =>
              obtain ⟨rfl, rfl⟩ := List.cons_eq_cons.1 hline
              refine .waits hrunning rfl (fun hmem => hfront (List.mem_cons_of_mem _ hmem)) ?_
                (hstill (List.cons_ne_nil _ _))
              rw [← hcount, List.length_append, List.length_singleton, Nat.add_assoc,
                Nat.add_comm 1]
              rfl
      | stopped mishaps _ =>
          refine .lost nofun fun hok => ?_
          rcases hflushed hok with hok | ⟨⟨⟩, -⟩
          exact hopen hok
      | drained mishaps _ hempty => simp [hempty] at hline

end Ledger

namespace Shift

variable {s : Shift}

/-! ## a flush -/

/-- A barrier that is put up stands behind all that was submitted. -/
theorem barred_flush {given : List Resolution} (hturn : s.InTurn)
    (haccounted : s.ledger.Accounted given) (hserved : s.Served) {n : Nat}
    (hn : s.session.queue.worker = .running → n = s.submitted.length)
    (mishaps : List (Option Mishap)) :
    (s.beat (.outside .flush mishaps)).ledger.Barred s.session.tickets n := by
  have hchange := change hturn (.outside .flush mishaps)
  have hopen : (s.session.tickets, .flushed (.ok ())) ∉ s.session.desk.resolved := fun hok => by
    have hmem : s.session.tickets ∈ s.session.desk.resolved.map Prod.fst :=
      List.mem_map_of_mem (f := Prod.fst) hok
    have hlt := List.mem_range.1 (haccounted.account.subset (List.mem_append_left _ hmem))
    exact Nat.lt_irrefl _ (haccounted.tickets ▸ hlt)
  generalize (s.beat (.outside .flush mishaps)).ledger = l at hchange
  cases hchange with
  | none hgives => cases hgives
  | joined item hothers hrunning hgives =>
      obtain rfl : item = .barrier s.session.tickets := by
        cases item with
        | job asked =>
            obtain ⟨ticket, -, hloss⟩ := Option.map_eq_some_iff.1 hgives
            cases hloss
        | barrier ticket =>
            cases hgives
            rfl
      refine .waits hrunning rfl (fun hmem => ?_) ?_ hopen
      · have hloss := haccounted.losses _ (List.mem_filterMap.2 ⟨_, hmem, rfl⟩)
        have hlt := (List.getElem?_eq_some_iff.1 hloss).1
        exact Nat.lt_irrefl _ (haccounted.tickets ▸ hlt)
      · exact (hserved.count hturn hrunning).trans (hn hrunning).symm
  | refused item hothers hended hgives =>
      refine .lost hended fun hok => ?_
      rcases List.mem_append.1 hok with hok | hok
      · exact hopen hok
      · exact ne_of_loss? (Option.mem_toList.1 hok) _ rfl

theorem barred_run {ticket n : Nat} (hturn : s.InTurn) (h : s.ledger.Barred ticket n)
    (beats : List Beat) : (s.run beats).ledger.Barred ticket n := by
  induction beats generalizing s with
  | nil => exact h
  | cons b beats ih => exact ih (hturn.beat b) (h.change (change hturn b))

/-- **A flush that succeeds comes after the outcomes of all that was submitted before it.** -/
theorem ended_of_flushed {given : List Resolution} (hturn : s.InTurn)
    (haccounted : s.ledger.Accounted given) (hserved : s.Served) (mishaps : List (Option Mishap))
    (after : List Beat)
    (hok : (s.session.tickets, .flushed (.ok ())) ∈
      ((s.beat (.outside .flush mishaps)).run after).session.desk.resolved) :
    s.session.queue.worker = .running ∧
      s.submitted.length ≤ ((s.beat (.outside .flush mishaps)).run after).ended.length := by
  have hended {n : Nat} (hn : s.session.queue.worker = .running → n = s.submitted.length) :
      n ≤ ((s.beat (.outside .flush mishaps)).run after).ended.length :=
    (barred_run (hturn.beat _) (barred_flush hturn haccounted hserved hn mishaps) after).ended hok
  refine ⟨?_, hended fun _ => rfl⟩
  -- without a worker, the barrier would stand behind any number of confirmations
  by_contra hstopped
  exact Nat.not_succ_le_self _ (hended fun hrunning => absurd hrunning hstopped)

/-! ## outcomes -/

theorem Served.length_le (h : s.Served) : s.ended.length ≤ s.submitted.length := by
  cases hlength : s.ended.length with
  | zero => exact Nat.zero_le _
  | succ n =>
      have hlast : n ∈ s.ended.map Ended.number := by
        rw [h.numbers, hlength]
        exact List.mem_range.2 (Nat.lt_succ_self n)
      obtain ⟨e, he, rfl⟩ := List.mem_map.1 hlast
      exact (List.getElem?_eq_some_iff.1 (h.asked e he)).1

/-- What ascends between two bounds is a part of the numbers between them. -/
theorem sublist_range' {ns : List Nat} {k n : Nat} (hordered : ns.Pairwise (· < ·))
    (hbounds : ∀ m ∈ ns, k ≤ m ∧ m < k + n) : ns.Sublist (List.range' k n) := by
  induction n generalizing k ns with
  | zero =>
      cases ns with
      | nil => exact List.nil_sublist _
      | cons m ns =>
          have hm := hbounds m List.mem_cons_self
          omega
  | succ n ih =>
      rw [List.range'_succ]
      cases ns with
      | nil => exact List.nil_sublist _
      | cons m ns =>
          obtain ⟨hlater, hrest⟩ := List.pairwise_cons.1 hordered
          have hm := hbounds m List.mem_cons_self
          by_cases hfirst : m = k
          · subst hfirst
            refine (ih hrest fun i hi => ?_).cons_cons m
            have hi₁ := hlater i hi
            have hi₂ := hbounds i (List.mem_cons_of_mem m hi)
            omega
          · refine (ih hordered fun i hi => ?_).cons k
            have hi₁ := hbounds i hi
            rcases List.mem_cons.1 hi with rfl | hi
            · omega
            · have hi₂ := hlater i hi
              omega

/-- The confirmations of some numbers, once all of them have ended. -/
theorem Served.pick (h : s.Served) {ns : List Nat} (hordered : ns.Pairwise (· < ·))
    (hlt : ∀ n ∈ ns, n < s.ended.length) {asked : List Asked}
    (hasked : ns.map (fun n => s.submitted[n]?) = asked.map some) :
    ∃ ended : List Ended, ended.Sublist s.ended ∧ ended.map Ended.number = ns ∧
      ended.map Ended.asked = asked := by
  have hsub : ns.Sublist (List.range s.ended.length) := by
    rw [List.range_eq_range']
    exact sublist_range' hordered fun n hn => ⟨Nat.zero_le n, by rw [Nat.zero_add]; exact hlt n hn⟩
  rw [← h.numbers, List.sublist_map_iff] at hsub
  obtain ⟨ended, hended, rfl⟩ := hsub
  refine ⟨ended, hended, rfl, (List.map_inj_right fun _ _ => Option.some.inj).1 ?_⟩
  rw [← hasked, List.map_map, List.map_map]
  exact List.map_congr_left fun e he => (h.asked e (hended.subset he)).symm

end Shift

end MacConsent.Session
