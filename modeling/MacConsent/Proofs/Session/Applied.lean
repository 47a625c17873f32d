import MacConsent.Proofs.Session.Kept
import MacConsent.Proofs.Session.Settling

/-!
# MacConsent.Proofs.Session.Applied

Applied means durably disabled (`Shift.applied_durable`).  Nobody but the store
changes its document, and nobody else touches a profile while a confirmation is
just changing it (`Shift.Undisturbed`); all else may happen at any time, and any
write or rename may fail.  The second part holds by itself whenever all that comes
from outside comes where the worker is suspended (`Shift.Timely.undisturbed`).  Then whatever the store holds is in its document at
every moment of a shift, and each confirmation in hand is certain of what its
plan ensures (`Shift.Backed`).  So when one ends as applied, randomization is off
for its network, in the store and in any that is opened on the document.
-/

namespace MacConsent.Session

open Desk (Asked)
open Remedy (Outcome Plan Request Sight sighted)
open Store (Mishap)

/-! ## what is seen of a confirmation in hand -/

/-- Whether a call has enabled a network. -/
def Call.enables : Call → Bool
  | .enable _ _ (.ok ()) => true
  | _ => false

/-- A call enables a profile exactly if its request does. -/
theorem any_enables_of? (r : Request) (answer : r.Answer) :
    (Call.of? r answer).toList.any Call.enables = r.enables answer := by
  cases r with
  | enable id uid => cases answer <;> rfl
  | _ => rfl

/-- Whether a confirmation is about to change the profile of its network, or has just done so. -/
def Hand.IsChanging (h : Hand) : Prop :=
  match h.stage with
  | .concluding _ => True
  | _ => False

/-- How a confirmation in hand is about to end, if it is. -/
def Hand.outcome? (h : Hand) : Option Outcome :=
  match h.stage with
  | .checking (.done (.error fault)) => some (.invalidated fault)
  | .concluding (.done outcome) => some outcome
  | _ => none

/-- What a confirmation in hand is certain of. -/
def Hand.Certain (h : Hand) (sight : Sight) : Prop :=
  match h.stage with
  | .checking plan =>
    plan.Ensures (sighted h.asked.id False)
      (fun checked t => t.enabled = false ∧ ∀ p, checked = .ok p → p.id = h.asked.id) sight
  | .asking p => sight.enabled = false ∧ p.id = h.asked.id
  | .concluding plan => plan.Ensures (sighted h.asked.id True) Outcome.Tells sight

/-- It stays certain of that, whatever others do to its network. -/
theorem Hand.Certain.others {h : Hand} {x y : Sight} (hcertain : h.Certain x)
    (hxy : (sighted h.asked.id h.IsChanging).others x y) : h.Certain y := by
  obtain ⟨number, asked, stage⟩ := h
  cases stage with
  | checking plan => exact Plan.Ensures.others hcertain ⟨hxy.1, fun hno => hno.elim⟩
  | asking p => exact ⟨hxy.1.trans hcertain.1, hcertain.2⟩
  | concluding plan => exact Plan.Ensures.others hcertain hxy

namespace Shift

/-- Whether the calls of a confirmation have enabled a network. -/
def hasEnabled (s : Shift) (n : Nat) : Bool :=
  s.made.any fun m => m.maker.any (·.1 == n) && m.call.enables

/-- What is seen of the network of a confirmation. -/
def sight (s : Shift) (n : Nat) (asked : Asked) : Sight :=
  ⟨s.session.desk.store.find? asked.id, s.hasEnabled n⟩

/-- Whether a confirmation has enabled a profile is read from the calls noted for it. -/
theorem hasEnabled_noted (s : Shift) (maker : Option (Nat × Asked)) (desk : Desk) (n : Nat) :
    (s.noted maker desk).hasEnabled n =
      (s.hasEnabled n || maker.any (·.1 == n) &&
        (desk.calls.drop s.session.desk.calls.length).any Call.enables) := by
  rw [hasEnabled, noted, List.any_append, List.any_map]
  refine congrArg (s.hasEnabled n || ·) ?_
  change ((desk.calls.drop _).any fun c => maker.any (·.1 == n) && c.enables) = _
  cases maker.any (·.1 == n)
  · simp
  · rfl

/-- The confirmation that is taken in hand next has made no call yet. -/
theorem InTurn.hasEnabled_taken {s : Shift} (h : s.InTurn) : s.hasEnabled s.taken = false := by
  rw [hasEnabled, List.any_eq_false]
  rintro m hm htaken
  rw [Bool.and_eq_true, Option.any_eq_true] at htaken
  obtain ⟨⟨maker, hmaker, hnumber⟩, -⟩ := htaken
  have hlt := (h.makers maker (List.mem_filterMap.2 ⟨m, hm, hmaker⟩)).1
  rw [beq_iff_eq.1 hnumber] at hlt
  exact Nat.lt_irrefl _ hlt

/-! ## what others leave alone -/

/-- A beat leaves the document at a path to the store, and the profile that a confirmation is just
changing to the confirmation, whose code is not suspended between its dialog and its end. -/
def LeavesAlone (path : Files.Path) (s : Shift) : Beat → Prop
  | .outside e mishaps =>
    match e with
    | .write .. | .makeDirectory _ | .clear _ =>
      (s.outside e mishaps).session.desk.tree.read path = s.session.desk.tree.read path
    | .update p => ∀ h, s.hand = some h → h.IsChanging → p.id ≠ h.asked.id
    | _ => True
  | _ => True

/-- Each beat of a run leaves alone what it has to. -/
def Undisturbed (path : Files.Path) : Shift → List Beat → Prop
  | _, [] => True
  | s, b :: beats => s.LeavesAlone path b ∧ (s.beat b).Undisturbed path beats

/-- A beat leaves the document at a path to the store. -/
def LeavesDocument (path : Files.Path) (s : Shift) : Beat → Prop
  | .outside e mishaps =>
    match e with
    | .write .. | .makeDirectory _ | .clear _ =>
      (s.outside e mishaps).session.desk.tree.read path = s.session.desk.tree.read path
    | _ => True
  | _ => True

/-- In a run only the store changes the document at a path. -/
def OwnsDocument (path : Files.Path) : Shift → List Beat → Prop
  | _, [] => True
  | s, b :: beats => s.LeavesDocument path b ∧ (s.beat b).OwnsDocument path beats

/-- Where the worker is suspended, no confirmation is just changing its profile. -/
theorem not_isChanging_of_isSuspended {s : Shift} {hd : Hand} (h : s.isSuspended = true)
    (hhand : s.hand = some hd) : ¬hd.IsChanging := by
  obtain ⟨number, asked, stage⟩ := hd
  rw [isSuspended, hhand] at h
  cases stage with
  | concluding plan => cases h
  | _ => exact id

/-- **Nobody cuts in on a change where the worker is suspended.** -/
theorem Timely.undisturbed {path : Files.Path} {s : Shift} {beats : List Beat} (h : s.Timely beats)
    (hdocument : s.OwnsDocument path beats) : s.Undisturbed path beats := by
  induction beats generalizing s with
  | nil => trivial
  | cons b beats ih =>
      refine ⟨?_, ih h.2 hdocument.2⟩
      have hleaves := hdocument.1
      cases b with
      | outside e mishaps =>
          cases e with
          | update p =>
              exact fun hd hhand hchanging =>
                absurd hchanging (not_isChanging_of_isSuspended (h.1 rfl) hhand)
          | _ => exact hleaves
      | _ => trivial

/-! ## the invariant -/

/-- The profiles of the store are in its document, and the confirmation in hand is certain of what
its plan ensures. -/
structure Backed (path : Files.Path) (s : Shift) : Prop where
  keeps : ∃ live, live.path = path ∧ s.session.desk.Keeps live
  certain : ∀ h, s.hand = some h → h.Certain (s.sight h.number h.asked)

variable {path : Files.Path} {s s' : Shift}

/-- Others act, and the confirmation in hand remains certain. -/
theorem Backed.around (h : s.Backed path) (hhand : s'.hand = s.hand)
    (hkeeps : ∃ live, live.path = path ∧ s'.session.desk.Keeps live)
    (hothers : ∀ hd, s.hand = some hd → (sighted hd.asked.id hd.IsChanging).others
      (s.sight hd.number hd.asked) (s'.sight hd.number hd.asked)) : s'.Backed path where
  keeps := hkeeps
  certain hd hhd := (h.certain hd (hhand ▸ hhd)).others (hothers hd (hhand ▸ hhd))

/-- What leaves the store and its files alone. -/
theorem Backed.untouched (h : s.Backed path) (hhand : s'.hand = s.hand)
    (hsame : s.session.desk.Untouched s'.session.desk)
    (henabled : ∀ n, s'.hasEnabled n = s.hasEnabled n) : s'.Backed path := by
  obtain ⟨live, hpath, hkeeps⟩ := h.keeps
  have hkeeps' : s'.session.desk.Keeps live :=
    ⟨hsame.store.trans hkeeps.store, hsame.tree ▸ hkeeps.backed⟩
  refine h.around hhand ⟨live, hpath, hkeeps'⟩ fun hd _ => ?_
  refine ⟨henabled hd.number, fun _ p hp => ?_⟩
  rw [← hp]
  exact congrArg (·.find? hd.asked.id) hsame.store

/-- The worker has nothing in hand any more. -/
theorem Backed.emptied (h : s.Backed path) (hhand : s'.hand = none)
    (hsame : s.session.desk.Untouched s'.session.desk) : s'.Backed path where
  keeps := by
    obtain ⟨live, hpath, hkeeps⟩ := h.keeps
    exact ⟨live, hpath, hsame.store.trans hkeeps.store, hsame.tree ▸ hkeeps.backed⟩
  certain hd hhd := by rw [hhand] at hhd; cases hhd

/-! ## beats of others -/

/-- Taps leave the document alone. -/
theorem Backed.listen (h : s.Backed path) (channel : Nat) : (s.listen channel).Backed path := by
  rw [Shift.listen]
  split
  · exact h
  · next event _ => exact h.untouched rfl (hear_frame s.session event).2 fun _ => rfl

/-- Files that are changed elsewhere leave the document as it is. -/
theorem Backed.files (h : s.Backed path) {f : Files.Tree → Except Files.Fault Files.Tree}
    (hsound : ∀ t t' : Files.Tree, t.Sound → f t = .ok t' → t'.Sound)
    (hread : (s.session.onFiles f).2.desk.tree.read path = s.session.desk.tree.read path) :
    Backed path { s with session := (s.session.onFiles f).2 } := by
  obtain ⟨live, rfl, hkeeps⟩ := h.keeps
  refine h.around rfl ⟨live, rfl, onFiles_keeps hkeeps hsound hread⟩ fun hd _ => ⟨rfl, ?_⟩
  intro _ p hp
  rw [← hp]
  exact congrArg (·.find? hd.asked.id) (s.session.onFiles_frame f).2

/-- What happens to stores in memory is none of a document. -/
theorem Backed.memory (h : s.Backed path) (f : Store.Memory → Store.Memory) :
    Backed path { s with session := (s.session.onMemory f).2 } := by
  obtain ⟨live, -, hkeeps⟩ := h.keeps
  rw [onMemory_of_keeps hkeeps]
  exact h

/-- A direct change is made as ever, unless it is one of the profile that a confirmation is just
changing. -/
theorem Backed.edit (h : s.Backed path) (c : Store.Change) (mishaps : List (Option Mishap))
    (hapart : ∀ hd, s.hand = some hd → hd.IsChanging → ∀ (r : Store.Roster) p q,
      r.find? hd.asked.id = some p → c.profile? r = .ok q → q.id ≠ hd.asked.id) :
    (s.edit c mishaps).Backed path := by
  obtain ⟨live, rfl, hkeeps⟩ := h.keeps
  obtain ⟨live', hkeeps', hpath, hcases⟩ := Desk.changed_keeps hkeeps mishaps c
  have hedit : s.edit c mishaps = { s with
      session := { s.session with desk := (s.session.desk.changed mishaps live c).2 } } := by
    rw [Shift.edit, hkeeps.store]
  rw [hedit]
  refine h.around rfl ⟨live', hpath, hkeeps'⟩ fun hd hhd => ⟨rfl, fun hchanging p hp => ?_⟩
  have hfound : live.roster.find? hd.asked.id = some p := (hkeeps.find? _).symm.trans hp
  refine (hkeeps'.find? hd.asked.id).trans ?_
  rcases hcases with ⟨q, hq, -, hroster⟩ | ⟨fault, -, rfl⟩
  · have hne := hapart hd hhd hchanging live.roster p q hfound hq
    rw [hroster, Store.Roster.find?_insert_of_ne _ hne, hfound]
  · exact hfound

/-- A stop leaves the document alone. -/
theorem Backed.stop (h : s.Backed path) : s.stop.Backed path := by
  rw [Shift.stop]
  split
  · exact h.emptied rfl (foldl_lose_untouched _ _)
  · exact h

/-- A confirmation that gets the choice of its dialog goes on to its change. -/
theorem certain_concluding {messages : Messages} {h : Hand} {p : Profile} {sight : Sight}
    (henabled : sight.enabled = false) (hid : p.id = h.asked.id) (choice : Dialog.Choice) :
    Hand.Certain
      { h with stage := .concluding (Remedy.conclude messages h.asked.id p choice) } sight :=
  Remedy.conclude_ensures hid henabled choice

/-- After the choice the plan of the confirmation is certain of what it ensures. -/
theorem Backed.reply (h : s.Backed path) (choice : Dialog.Choice) :
    (s.reply choice).Backed path := by
  have hkeeps : ∃ live, live.path = path ∧
      Desk.Keeps { s.session.desk with unanswered := false } live := by
    obtain ⟨live, hpath, hkeeps⟩ := h.keeps
    exact ⟨live, hpath, hkeeps.store, hkeeps.backed⟩
  rw [Shift.reply]
  split
  · dsimp only
    split
    · next number asked p hhand =>
      obtain ⟨henabled, hid⟩ := h.certain _ hhand
      refine ⟨hkeeps, fun hd hhd => ?_⟩
      cases hhd
      exact certain_concluding (h := ⟨number, asked, .asking p⟩) henabled hid choice
    · exact h.around rfl hkeeps fun hd _ => ⟨rfl, fun _ _ hp => hp⟩
  · exact h

/-- A profile that is added gets an id under which there is none. -/
theorem id_ne_of_add {r : Store.Roster} {id : NetworkId} {p q new : Profile}
    (hfound : r.find? id = some p) (hnew : (Store.Change.add new).profile? r = .ok q) :
    q.id ≠ id := by
  rw [Store.Change.profile?] at hnew
  split at hnew
  · cases hnew
  · next free hfree =>
      cases hnew
      rintro rfl
      cases hfound.symm.trans (Store.Roster.find?_of_freeId hfree)

/-- What others do leaves the document that of the store, if they leave it alone. -/
theorem Backed.outside (h : s.Backed path) (e : Step) (mishaps : List (Option Mishap))
    (halone : s.LeavesAlone path (.outside e mishaps)) : (s.outside e mishaps).Backed path := by
  cases e with
  | write place content =>
      refine h.files (f := fun t => t.write place content) (fun t t' hsound hwrite => ?_) halone
      obtain ⟨-, -, -, -, hwritten, -⟩ := Files.Tree.write_effect hwrite
      exact hwritten hsound
  | makeDirectory place =>
      simp only [LeavesAlone, Shift.outside, act] at halone ⊢
      exact h.files (fun _ _ hsound hmake => hsound.makeDirectory hmake) halone
  | clear place =>
      exact h.files (f := fun t => t.clear place) (fun _ _ hsound hclear => hsound.clear hclear)
        halone
  | insert p => exact h.memory fun m => m.insert p
  | mode mode => exact h.memory fun m => { m with mode }
  | failEnable => exact h.memory fun m => { m with failEnable := true }
  | add p => exact h.edit _ mishaps fun _ _ _ _ _ _ hfound hnew => id_ne_of_add hfound hnew
  | update p =>
      refine h.edit _ mishaps fun hd hhd hchanging r _ q _ hq => ?_
      obtain ⟨-, -, rfl⟩ := (Store.Change.profile?_update_eq_ok directUid).1 hq
      exact halone hd hhd hchanging
  | notify id =>
      have haside := Remedy.offer_aside s.session.desk.messages id
      refine h.untouched rfl (Desk.untouched_of_aside haside s.session.desk) fun n => ?_
      exact (s.hasEnabled_noted none _ n).trans (Bool.or_false _)
  | confirm id identity =>
      have hask := ask_frame { s.session with tickets := s.session.tickets + 1 }
        ⟨id, identity, some s.session.tickets⟩
      exact h.untouched rfl hask.2 fun _ => rfl
  | flush => exact h.untouched rfl (flush_frame s.session).2 fun _ => rfl
  | reply choice => exact h.reply choice
  | route e =>
      have hroute := hearAll_frame { s.session with router := (s.session.router.step e).2.1 }
        (s.session.router.step e).2.2
      cases e with
      | send events => exact h.untouched rfl (.refl _) fun _ => rfl
      | _ => exact h.untouched rfl hroute.2 fun _ => rfl
  | tap =>
      rw [Shift.outside]
      split
      · exact h
      · exact h.untouched rfl (.refl _) fun _ => rfl
  | stop => exact h.stop

/-! ## beats of the worker -/

/-- The confirmation that is taken is certain of its check. -/
theorem Backed.take (h : s.Backed path) (hturn : s.InTurn) (hhand : s.hand = none)
    (htake : s.take? = some s') : s'.Backed path := by
  unfold take? at htake
  dsimp only at htake
  split at htake
  · next asked waiting _ _ =>
      cases htake
      refine ⟨h.keeps, fun hd hhd => ?_⟩
      cases hhd
      exact Remedy.check_ensures asked.identity hturn.hasEnabled_taken
  · next ticket waiting _ _ =>
      cases htake
      exact h.emptied hhand (s.session.desk.resolve_untouched (some ticket) _)
  · split at htake
    · cases htake
    · cases htake
      exact h.emptied hhand (s.session.desk.traced_untouched _)
  · cases htake

/-- A request in hand is carried out, whatever befalls the files, and leads to what is certain of
its answer. -/
theorem Backed.request (h : s.Backed path) {hd : Hand} (r : Request) (next : r.Answer → Stage)
    (mishaps : List (Option Mishap)) {changing : Prop}
    (hnext : ∀ answer t,
      (sighted hd.asked.id changing).effect r answer (s.sight hd.number hd.asked) t →
        Hand.Certain { hd with stage := next answer } t) :
    (s.request hd r next mishaps).Backed path := by
  obtain ⟨live, rfl, hkeeps⟩ := h.keeps
  obtain ⟨live', hkeeps', hpath, hturns⟩ := Desk.carryOutAmid_keeps hkeeps mishaps r hd.asked.id
  have hcalls := Desk.carryOutAmid_records mishaps r s.session.desk
  rw [← hkeeps.find?, ← hkeeps'.find?] at hturns
  obtain ⟨answer, desk, hrun⟩ : ∃ answer desk,
      (Desk.carryOutAmid mishaps r).run s.session.desk = (answer, desk) := ⟨_, _, rfl⟩
  rw [hrun] at hkeeps' hturns hcalls
  have hrequest : s.request hd r next mishaps =
      ({ s with hand := some { hd with stage := next answer } } : Shift).noted
        (some (hd.number, hd.asked)) desk := by
    simp only [Shift.request, hrun]
  rw [hrequest]
  refine ⟨⟨live', hpath, hkeeps'⟩, fun hd' hhd' => ?_⟩
  cases hhd'
  refine hnext answer _ ⟨hturns, ?_⟩
  refine (hasEnabled_noted _ _ _ _).trans ?_
  rw [hcalls, List.drop_left, any_enables_of?]
  simp [sight, hasEnabled]

/-- The profile that was checked is the one of the network that was asked for. -/
theorem Backed.openDialog (h : s.Backed path) {hd : Hand} {p : Profile}
    (henabled : s.hasEnabled hd.number = false) (hid : p.id = hd.asked.id) :
    (s.openDialog hd p).Backed path := by
  obtain ⟨live, rfl, hkeeps⟩ := h.keeps
  let asked := s.session.desk.called (.dialog (Remedy.question s.session.desk.messages p))
  have hcalls : asked.calls.drop s.session.desk.calls.length =
      [.dialog (Remedy.question s.session.desk.messages p)] := by
    rw [Desk.called_calls, List.drop_left]
  -- a dialog that is opened enables nothing
  have hnone : ∀ (s' : Shift) (desk : Desk), s'.session.desk = s.session.desk → s'.made = s.made →
      desk.calls = asked.calls →
      (s'.noted (some (hd.number, hd.asked)) desk).hasEnabled hd.number = false := by
    intro s' desk hdesk hmade hsame
    rw [hasEnabled_noted, hdesk, hsame, hcalls, hasEnabled, hmade]
    exact Bool.or_eq_false_iff.2 ⟨henabled, Bool.and_false _⟩
  rw [Shift.openDialog]
  dsimp only
  split
  · next choice answers _ =>
      refine ⟨⟨live, rfl, hkeeps.store, hkeeps.backed⟩, fun hd' hhd' => ?_⟩
      cases hhd'
      exact certain_concluding (hnone _ _ rfl rfl rfl) hid choice
  · refine ⟨⟨live, rfl, hkeeps.store, hkeeps.backed⟩, fun hd' hhd' => ?_⟩
    cases hhd'
    exact ⟨hnone _ _ rfl rfl rfl, hid⟩

theorem Backed.finish (h : s.Backed path) (hd : Hand) (outcome : Outcome) :
    (s.finish hd outcome).Backed path :=
  h.emptied rfl (s.session.desk.resolve_untouched hd.asked.ticket _)

/-- The confirmation in hand goes on and is certain of what is left of its plan. -/
theorem Backed.goOn (h : s.Backed path) {hd : Hand} {mishaps : List (Option Mishap)}
    (hhand : s.hand = some hd) (hgo : s.goOn? hd mishaps = some s') : s'.Backed path := by
  have hcertain := h.certain hd hhand
  obtain ⟨number, asked, stage⟩ := hd
  unfold goOn? at hgo
  split at hgo
  · next r next hstage =>
      cases hstage
      cases hgo
      exact h.request r _ mishaps (hcertain _ ⟨rfl, fun _ _ hp => hp⟩)
  · cases hgo
    exact h.finish _ _
  · next p hstage =>
      cases hstage
      cases hgo
      have hchecked : s.hasEnabled number = false ∧ ∀ q, Except.ok p = .ok q → q.id = asked.id :=
        hcertain _ ⟨rfl, fun hno => hno.elim⟩
      exact h.openDialog hchecked.1 (hchecked.2 p rfl)
  · cases hgo
  · next r next hstage =>
      cases hstage
      cases hgo
      exact h.request r _ mishaps (hcertain _ ⟨rfl, fun _ _ hp => hp⟩)
  · cases hgo
    exact h.finish _ _

/-- **Every beat keeps what the store holds in its document**, and what is certain. -/
theorem Backed.beat (h : s.Backed path) (hturn : s.InTurn) (b : Beat)
    (halone : s.LeavesAlone path b) : (s.beat b).Backed path := by
  cases b with
  | outside e mishaps => exact h.outside e mishaps halone
  | listen channel => exact h.listen channel
  | work mishaps =>
      rw [Shift.beat]
      cases hwork : s.work? mishaps with
      | none => exact h
      | some s' =>
          rw [Shift.work?] at hwork
          split at hwork
          · next hhand => exact h.take hturn hhand hwork
          · next hd hhand => exact h.goOn hhand hwork

/-- **Undisturbed, the document is that of the store all along.** -/
theorem Backed.run (h : s.Backed path) (hturn : s.InTurn) {beats : List Beat}
    (halone : s.Undisturbed path beats) : (s.run beats).Backed path := by
  induction beats generalizing s with
  | nil => exact h
  | cons b beats ih => exact ih (h.beat hturn b halone.1) (hturn.beat b) halone.2

theorem begin_backed {desk : Desk} {live : Store.Durable} (h : desk.Keeps live) (router : Router)
    (tickets : Nat) : (begin desk router tickets).Backed live.path :=
  ⟨⟨live, rfl, h⟩, fun _ hhand => nomatch hhand⟩

/-! ## endings -/

/-- Nothing from outside ends a confirmation. -/
theorem outside_ended (s : Shift) (e : Step) (mishaps : List (Option Mishap)) :
    (s.outside e mishaps).ended = s.ended := by
  cases e with
  | reply choice =>
      rw [Shift.outside, Shift.reply]
      split
      · dsimp only
        split <;> rfl
      · rfl
  | stop =>
      rw [Shift.outside, Shift.stop]
      split <;> rfl
  | add p =>
      rw [Shift.outside, Shift.edit]
      split <;> rfl
  | update p =>
      rw [Shift.outside, Shift.edit]
      split <;> rfl
  | route e => cases e <;> rfl
  | tap =>
      rw [Shift.outside]
      split <;> rfl
  | _ => rfl

theorem take?_ended (htake : s.take? = some s') : s'.ended = s.ended := by
  unfold take? at htake
  dsimp only at htake
  split at htake
  · cases htake; rfl
  · cases htake; rfl
  · split at htake <;> cases htake
    rfl
  · cases htake

/-- The worker goes on with a confirmation, or that one comes to its end. -/
theorem goOn?_ended {hd : Hand} {mishaps : List (Option Mishap)}
    (hgo : s.goOn? hd mishaps = some s') :
    s'.ended = s.ended ∨ ∃ outcome, hd.outcome? = some outcome ∧ s' = s.finish hd outcome := by
  obtain ⟨number, asked, stage⟩ := hd
  unfold goOn? at hgo
  split at hgo
  · cases hgo
    exact .inl rfl
  · next fault hstage =>
      cases hstage
      cases hgo
      exact .inr ⟨_, rfl, rfl⟩
  · cases hgo
    refine .inl ?_
    rw [Shift.openDialog]
    dsimp only
    split <;> rfl
  · cases hgo
  · cases hgo
    exact .inl rfl
  · next outcome hstage =>
      cases hstage
      cases hgo
      exact .inr ⟨_, rfl, rfl⟩

/-- Confirmations end only in the worker's hand. -/
theorem exists_hand_of_ended {b : Beat} {e : Ended} (h : (s.beat b).ended = s.ended ++ [e]) :
    ∃ hd, s.hand = some hd ∧ hd.outcome? = some e.outcome ∧ s.beat b = s.finish hd e.outcome ∧
      e.number = hd.number ∧ e.asked = hd.asked := by
  have hmore : (s.beat b).ended ≠ s.ended := by
    rw [h]
    simp
  cases b with
  | outside step mishaps => exact absurd (s.outside_ended step mishaps) hmore
  | listen channel =>
      refine absurd ?_ hmore
      rw [Shift.beat, Shift.listen]
      split <;> rfl
  | work mishaps =>
      rw [Shift.beat] at h hmore ⊢
      cases hwork : s.work? mishaps with
      | none => rw [hwork] at hmore; exact absurd rfl hmore
      | some s' =>
          rw [hwork, Option.getD_some] at h hmore
          rw [Shift.work?] at hwork
          split at hwork
          · exact absurd (take?_ended hwork) hmore
          · next hd hhand =>
              obtain hsame | ⟨outcome, houtcome, rfl⟩ := goOn?_ended hwork
              · exact absurd hsame hmore
              · obtain rfl : e = ⟨hd.number, hd.asked, outcome⟩ :=
                  (List.singleton_inj.1 (List.append_cancel_left h)).symm
                exact ⟨hd, hhand, houtcome, rfl, rfl, rfl⟩

/-- A confirmation that is about to end is certain of what its outcome tells. -/
theorem Backed.tells (h : s.Backed path) {hd : Hand} (hhand : s.hand = some hd) {outcome : Outcome}
    (houtcome : hd.outcome? = some outcome) : outcome.Tells (s.sight hd.number hd.asked) := by
  have hcertain := h.certain hd hhand
  obtain ⟨number, asked, stage⟩ := hd
  unfold Hand.outcome? at houtcome
  split at houtcome
  · cases houtcome
    exact fun happlied => nomatch happlied
  · next hstage =>
      cases hstage
      cases houtcome
      exact hcertain _ ⟨rfl, fun _ _ hp => hp⟩
  · cases houtcome

/-- The calls of a confirmation have enabled a network if one of them is an enabling that has
succeeded. -/
theorem hasEnabled_of_mem {n : Nat} {asked : Asked} {id : NetworkId} {uid : Uid}
    (h : ⟨some (n, asked), .enable id uid (.ok ())⟩ ∈ s.made) : s.hasEnabled n = true :=
  List.any_eq_true.2 ⟨_, h, by simp [Call.enables]⟩

/-- **Applied means durably disabled.**  In every shift that begins with a session over a document,
where nobody else writes the document or cuts in on a change, a confirmation that ends as applied
leaves a profile of its network without randomization, in the store and in any that is then opened on
the document, and the profile is enabled if the enabling of the confirmation has succeeded. -/
theorem applied_durable {path : Files.Path} {tree : Files.Tree} {messages : Messages}
    {answers : List Dialog.Choice} {session : Session} (hsound : tree.Sound)
    (hopen : durable? path tree messages answers = .ok session) (router : Router) (tickets : Nat)
    (beats : List Beat) (b : Beat) :
    let s₀ := begin session.desk router tickets
    let s := s₀.run beats
    let s' := s.beat b
    (s₀.Undisturbed path beats → ∀ e, s'.ended = s.ended ++ [e] → e.outcome = .applied →
      ∃ live opened bench,
        s'.session.desk.store = .durable live ∧
        (Store.Durable.load Store.Backing.bench path).run ⟨s'.session.desk.tree, []⟩ =
          (.ok opened, bench) ∧
        ∀ roster ∈ [live.roster, opened.roster], ∃ p, roster.find? e.asked.id = some p ∧
          p.macPolicy = .disabled ∧
          ((∃ id uid, ⟨some (e.number, e.asked), .enable id uid (.ok ())⟩ ∈ s'.made) →
            p.enabled = true)) ∧
    -- nobody cuts in where all that comes from outside comes while the worker is suspended
    (s₀.Timely beats → s₀.OwnsDocument path beats → s₀.Undisturbed path beats) := by
  intro s₀ s s'
  refine ⟨fun halone e hended happlied => ?_, Timely.undisturbed⟩
  obtain ⟨live₀, rfl, hkeeps₀⟩ := keeps_of_durable? hsound hopen
  have hbacked : s.Backed live₀.path :=
    (begin_backed hkeeps₀ router tickets).run (begin_inTurn _ router tickets) halone
  obtain ⟨hd, hhand, houtcome, hbeat, hnumber, hasked⟩ := exists_hand_of_ended hended
  obtain ⟨p, hfound, hdisabled, henabled⟩ := hbacked.tells hhand houtcome happlied
  have hfinish : s' = s.finish hd e.outcome := hbeat
  rw [hfinish, hnumber, hasked]
  -- an ending changes neither the store nor the files, and makes no call
  obtain ⟨live, hpath, hkeeps⟩ := (hbacked.finish hd e.outcome).keeps
  have hsame := s.session.desk.resolve_untouched hd.asked.ticket (.outcome e.outcome)
  have hlive : live.roster.find? hd.asked.id = some p := by
    rw [← hkeeps.find?, ← hfound]
    exact congrArg (·.find? hd.asked.id) hsame.store
  obtain ⟨opened, bench, hload, hopened⟩ := hkeeps.backed.reopened hlive
  have hcalled : (∃ id uid, ⟨some (hd.number, hd.asked), .enable id uid (.ok ())⟩ ∈ s.made) →
      p.enabled = true := fun ⟨_, _, hmem⟩ => henabled (hasEnabled_of_mem hmem)
  refine ⟨live, opened, bench, hkeeps.store, hpath ▸ hload, ?_⟩
  rw [List.forall_mem_cons, List.forall_mem_singleton]
  exact ⟨⟨p, hlive, hdisabled, hcalled⟩, ⟨p.kept, hopened, hdisabled, hcalled⟩⟩

namespace FullDisk

/-- A network that is saved, and not to be joined unasked. -/
def home : Profile := { id := .first, ssid := "HomeNet", security := .wpa2, enabled := false }

/-- A session over a document that does not exist yet. -/
def opened : Session := { desk := { store := .durable ⟨⟨"profiles.xml"⟩, .empty⟩ } }

/-- The mishap of a write, or of a rename, that finds the disk full. -/
def full : Mishap := { fault := .refused 28, leftover := some (some "<") }

/-- A network is saved, and the dialog for it is accepted. Before that, a draft is left half
written; and when the network is to be enabled, the draft cannot be renamed. -/
def beats : List Beat :=
  [.outside (.add home) [some full], .outside (.add home),
    .outside (.confirm .first (some "HomeNet/WPA2")), .work, .work, .work,
    .outside (.reply .accepted), .work, .work, .work, .work [none, some full], .work, .work, .work]

end FullDisk

/-- Where the disk is full when the network is to be enabled, randomization is off all the same. -/
theorem applied_durable_fullDisk :
    let s := (begin FullDisk.opened.desk {} 0).run FullDisk.beats
    (s.beat .work).ended = s.ended ++ [⟨0, ⟨.first, some "HomeNet/WPA2", some 0⟩, .applied⟩] ∧
    ∃ opened bench p,
      (Store.Durable.load Store.Backing.bench ⟨"profiles.xml"⟩).run
        ⟨(s.beat .work).session.desk.tree, []⟩ = (.ok opened, bench) ∧
      opened.roster.find? .first = some p ∧ p.macPolicy = .disabled := by
  intro s
  have hopen : durable? ⟨"profiles.xml"⟩ {} {} [] = .ok FullDisk.opened := rfl
  have halone : (begin FullDisk.opened.desk {} 0).Undisturbed ⟨"profiles.xml"⟩ FullDisk.beats := by
    simp [FullDisk.beats, Undisturbed, LeavesAlone]
  have hended : (s.beat .work).ended =
      s.ended ++ [⟨0, ⟨.first, some "HomeNet/WPA2", some 0⟩, .applied⟩] := by
    decide +kernel
  obtain ⟨live, opened, bench, -, hload, hrosters⟩ :=
    (applied_durable Files.Tree.sound_empty hopen {} 0 FullDisk.beats .work).1 halone _ hended rfl
  obtain ⟨p, hfound, hdisabled, -⟩ := hrosters opened.roster (by simp)
  exact ⟨hended, opened, bench, p, hload, hfound, hdisabled⟩

end Shift

end MacConsent.Session
