import MacConsent.CommandLine.Program
import MacConsent.Proofs.Remedy.Requests

/-!
# MacConsent.Proofs.CommandLine.Offer

What the program does with the notification of an offer, on any host.  Taking it
up is one confirmation, for the network and the identity that the offer was made
for (`Host.tap_run`); and the program does nothing after it, so it ends when the
confirmation has come to its outcome (`Host.perform_notify`).
-/

namespace MacConsent.CommandLine

open Remedy (Plan)

variable {m : Type → Type} [Monad m] [LawfulMonad m]

/-- A notification of an offer that is taken off the board leads to one confirmation. -/
theorem Host.tap_run (h : Host m) (icons : Dialog.IconSet) {offer : Offer} {n : Notification}
    {shelf : Shelf} (hfound : shelf.board.find? noticeNumber = some n)
    (htap : n.tapAction = offer.tapEvent) :
    (h.tap icons).run shelf = (do
      h.backing.trace (.detailsRequested offer.networkId)
      let (_, shelf) ← (h.confirm icons offer.networkId (some offer.identity)).run
        { shelf with board := shelf.board.remove noticeNumber }
      return ((), shelf)) := by
  have hhear : Router.hear offer.tapEvent =
      (.detailsRequested offer.networkId, some (offer.networkId, some offer.identity)) := by
    rw [Router.hear, target?_tapEvent]
  simp [Host.tap, Console.take, hfound, htap, hhear]

/-- What is offered for a network that is saved. -/
theorem Host.offer_run (h : Host m) {id : NetworkId} {p : Profile}
    {shelf : Shelf} (hfound : shelf.store.roster.find? id = some p) :
    ((Remedy.offer {} id).run h.carryOut).run shelf = (do
      let offer : Offer := ⟨id, p.identity⟩
      let (board, line, notes) :=
        Console.post shelf.board noticeNumber (Remedy.notice {} p offer)
      h.writeLine line
      notes.forM h.backing.trace
      h.backing.trace (.offered offer)
      return (some offer, { shelf with board })) := by
  obtain ⟨next, hoffer, hsome⟩ : ∃ next, Remedy.offer {} id = .call (.look id) next ∧
      next (some p) = .call (.post noticeNumber (Remedy.notice {} p ⟨id, p.identity⟩)) fun _ =>
        .call (.trace (.offered ⟨id, p.identity⟩)) fun _ => .done (some ⟨id, p.identity⟩) :=
    ⟨_, rfl, rfl⟩
  have hlook : (h.carryOut (.look id)).run shelf = pure (some p, shelf) := by
    simp [Host.carryOut, hfound]
  have hpost (n : Notification) : (h.carryOut (.post noticeNumber n)).run shelf = (do
      let (board, line, notes) := Console.post shelf.board noticeNumber n
      h.writeLine line
      notes.forM h.backing.trace
      return ((), { shelf with board })) := rfl
  rw [hoffer, Plan.run, StateT.run_bind, hlook, pure_bind, hsome, Plan.run, StateT.run_bind, hpost]
  simp [Plan.run, Host.carryOut]

/-- **What the program does for a network that is saved**, if its notification is taken up: it goes
through one confirmation, for the network and the identity of the offer, and then it is done. -/
theorem Host.remedy_run (h : Host m) (icons : Dialog.IconSet) (shelf : Shelf) {id : NetworkId}
    {p : Profile} (hfound : shelf.store.roster.find? id = some p) :
    (h.remedy icons id false).run shelf = (do
      let (_, offered) ← ((Remedy.offer {} id).run h.carryOut).run shelf
      h.backing.trace (.detailsRequested id)
      let (_, confirmed) ← (h.confirm icons id (some p.identity)).run
        { offered with board := offered.board.remove noticeNumber }
      return ((), confirmed)) := by
  let offer : Offer := ⟨id, p.identity⟩
  let board := shelf.board.post noticeNumber (Remedy.notice {} p offer)
  have hposted : board.find? noticeNumber = some (Remedy.notice {} p offer) :=
    shelf.board.find?_post ..
  have hevent : (Remedy.notice {} p offer).tapAction = offer.tapEvent := rfl
  have htap : (h.tap icons).run { shelf with board } = _ := h.tap_run icons hposted hevent
  rw [Host.remedy, StateT.run_bind, h.offer_run hfound]
  simp [Console.post, offer, board, htap]

/-- The command ends after its one confirmation. -/
theorem Host.perform_notify (h : Host m) (icons : Dialog.IconSet) {live : Store.Durable}
    {id : NetworkId} {p : Profile} (hfound : live.roster.find? id = some p) :
    h.perform icons live (.notify id false) = (do
      let (_, offered) ← ((Remedy.offer {} id).run h.carryOut).run { store := live }
      h.backing.trace (.detailsRequested id)
      let _ ← (h.confirm icons id (some p.identity)).run
        { offered with board := offered.board.remove noticeNumber }
      return .done) := by
  rw [Host.perform, h.remedy_run icons { store := live } hfound]
  simp

end MacConsent.CommandLine
