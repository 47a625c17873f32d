import MacConsent.Proofs.Session.Moves
import MacConsent.Proofs.Session.Settling

/-!
# MacConsent.Proofs.Session.Course

How a confirmation goes from its place in the queue to its dialog, call by call
(`Shift.Course`).  It makes no call before the worker has taken it in hand; its
first call is the look at the profile that the store holds then; and when its
check is over, it has opened one dialog, if that profile has the identity that
it was asked for, or it has shown the message that the network was not found and
done nothing else.

What is known of a confirmation from its calls lasts from move to move
(`Shift.Tracks.move`), if it goes on with each of its calls (`Hand.Lasting`).
-/

namespace MacConsent.Session

open Desk (Asked)
open Remedy (Outcome Plan Request)
open Store (Mishap)

/-! ## what is known from the calls -/

/-- What is known of the confirmation in hand from its calls goes on with it, call by call. -/
structure Hand.Lasting (messages : Messages) (known : Hand → List Call → Prop) : Prop where
  taken (number : Nat) (asked : Asked) :
    known ⟨number, asked, .checking (Remedy.check messages asked.id asked.identity)⟩ []
  checked {number : Nat} {asked : Asked} {r : Request} {calls : List Call}
    {next : r.Answer → Plan (Except Remedy.Fault Profile)}
    (h : known ⟨number, asked, .checking (.call r next)⟩ calls) (answer : r.Answer) :
    known ⟨number, asked, .checking (next answer)⟩ (calls ++ (Call.of? r answer).toList)
  opened {number : Nat} {asked : Asked} {p : Profile} {calls : List Call}
    (h : known ⟨number, asked, .checking (.done (.ok p))⟩ calls) :
    known ⟨number, asked, .asking p⟩ (calls ++ [.dialog (Remedy.question messages p)])
  replied {number : Nat} {asked : Asked} {p : Profile} {calls : List Call}
    (h : known ⟨number, asked, .asking p⟩ calls) (choice : Dialog.Choice) :
    known ⟨number, asked, .concluding (Remedy.conclude messages asked.id p choice)⟩ calls
  concluded {number : Nat} {asked : Asked} {r : Request} {calls : List Call}
    {next : r.Answer → Plan Outcome}
    (h : known ⟨number, asked, .concluding (.call r next)⟩ calls) (answer : r.Answer) :
    known ⟨number, asked, .concluding (next answer)⟩ (calls ++ (Call.of? r answer).toList)

namespace Shift

section Known

variable {messages : Messages} {known : Hand → List Call → Prop} {n : Nat} {s s' : Shift} {b : Beat}
  {left left' : Prop}

/-- The confirmation in hand makes a request. -/
theorem Tracks.request (h : s.Tracks n (s.callsOf n = []) (fun hd => known hd (s.callsOf n)) left)
    (hturn : s.InTurn) {hd : Hand} (hhand : s.hand = some hd) (r : Request)
    (next : r.Answer → Stage) (mishaps : List (Option Mishap))
    (hnext : ∀ answer calls, known hd calls →
      known { hd with stage := next answer } (calls ++ (Call.of? r answer).toList))
    (hkept : (s.request hd r next mishaps).callsOf n = s.callsOf n → left → left') :
    (s.request hd r next mishaps).Tracks n ((s.request hd r next mishaps).callsOf n = [])
      (fun hd' => known hd' ((s.request hd r next mishaps).callsOf n)) left' := by
  refine h.further hturn hhand rfl rfl rfl (fun hn hheld => ?_) fun hn => ?_
  · rw [callsOf_request, if_pos hn]
    exact hnext _ _ hheld
  · have hcalls := callsOf_request_of_ne hn s r next mishaps
    exact ⟨hcalls.trans, hkept hcalls⟩

/-- The confirmation in hand opens its dialog. -/
theorem Tracks.opened (hlasting : Hand.Lasting messages known)
    (hwording : s.session.desk.messages = messages)
    (h : s.Tracks n (s.callsOf n = []) (fun hd => known hd (s.callsOf n)) left)
    (hturn : s.InTurn) {number : Nat} {asked : Asked} {p : Profile}
    (hhand : s.hand = some ⟨number, asked, .checking (.done (.ok p))⟩)
    (hkept : (s.openDialog ⟨number, asked, .checking (.done (.ok p))⟩ p).callsOf n = s.callsOf n →
      left → left') :
    let s' := s.openDialog ⟨number, asked, .checking (.done (.ok p))⟩ p
    s'.Tracks n (s'.callsOf n = []) (fun hd => known hd (s'.callsOf n)) left' := by
  obtain ⟨stage, hstage, hcases, hrest⟩ :=
    s.openDialog_rest ⟨number, asked, .checking (.done (.ok p))⟩ p
  refine h.further hturn hhand hstage rfl hrest.taken (fun hn hheld => ?_) fun hn => ?_
  · have hasking := hlasting.opened hheld
    rw [callsOf_openDialog, if_pos hn, hwording]
    rcases hcases with rfl | ⟨choice, rfl⟩
    · exact hasking
    · rw [hwording]
      exact hlasting.replied hasking choice
  · have hcalls := callsOf_openDialog_of_ne hn s p
    exact ⟨hcalls.trans, hkept hcalls⟩

/-- **What is known of a confirmation in hand lasts until it is gone**, and what is known then stays
known. -/
theorem Tracks.move (hlasting : Hand.Lasting messages known)
    (hwording : s.session.desk.messages = messages)
    (h : s.Tracks n (s.callsOf n = []) (fun hd => known hd (s.callsOf n)) left)
    (hturn : s.InTurn) (hmove : s.Move b s')
    (hkept : s'.callsOf n = s.callsOf n →
      (∃ more : List Ended, s'.ended = s.ended ++ more ∧ ∀ e ∈ more, e.number ≠ n) → left → left')
    (hdropped : ∀ asked p, s.hand = some ⟨n, asked, .asking p⟩ →
      known ⟨n, asked, .asking p⟩ (s.callsOf n) → s'.callsOf n = s.callsOf n →
      s'.ended = s.ended → left')
    (hended : ∀ hd outcome, s.hand = some hd → hd.number = n → hd.outcome? = some outcome →
      known hd (s.callsOf n) → s'.callsOf n = s.callsOf n →
      ⟨hd.number, hd.asked, outcome⟩ ∈ s'.ended → left') :
    s'.Tracks n (s'.callsOf n = []) (fun hd => known hd (s'.callsOf n)) left' := by
  have hstill (hsame : s'.ended = s.ended) (hcalls : s'.callsOf n = s.callsOf n) : left → left' :=
    hkept hcalls ⟨[], hsame.trans (List.append_nil _).symm, List.forall_mem_nil _⟩
  have haround (hcalm : s.Calm s') :
      s'.Tracks n (s'.callsOf n = []) (fun hd => known hd (s'.callsOf n)) left' := by
    have hcalls := hcalm.calls n
    exact h.around hcalm.hand hcalm.taken hcalls.trans (fun _ _ _ hheld => hcalls.symm ▸ hheld)
      (hstill hcalm.ended hcalls)
  cases hmove with
  | aside hothers calm => exact haround calm
  | idle mishaps calm => exact haround calm
  | edited mishaps => exact haround (s.edit_calm _ mishaps)
  | replied choice mishaps hhand =>
      refine h.further hturn hhand rfl rfl rfl (fun _ hheld => ?_) fun _ => ⟨id, hstill rfl rfl⟩
      rw [hwording]
      exact hlasting.replied hheld choice
  | stopped mishaps hsuspended =>
      have hcalls := s.callsOf_stop n
      have hsame : s.stop.ended = s.ended := by rw [Shift.stop, if_pos hsuspended]
      exact h.stopped hturn hsuspended
        (fun asked p hhand hheld => hdropped asked p hhand hheld hcalls hsame) hcalls.trans
        (hstill hsame hcalls)
  | took mishaps hhand hwaiting =>
      refine h.took hhand rfl rfl rfl (fun hnone => ?_) id (hstill rfl rfl)
      rw [hwording]
      change known _ (s.callsOf n)
      rw [hnone]
      exact hlasting.taken _ _
  | checked mishaps hhand =>
      exact h.request hturn hhand _ _ mishaps (fun answer _ hheld => hlasting.checked hheld answer)
        (hstill rfl)
  | opened mishaps hhand =>
      obtain ⟨_, _, _, hrest⟩ := s.openDialog_rest _ _
      exact h.opened hlasting hwording hturn hhand (hstill hrest.ended)
  | concluded mishaps hhand =>
      exact h.request hturn hhand _ _ mishaps (fun answer _ hheld => hlasting.concluded hheld answer)
        (hstill rfl)
  | @finished hd outcome mishaps hhand houtcome =>
      refine h.emptied hturn hhand rfl rfl (fun hn hheld => ?_) fun hn => ⟨id, ?_⟩
      · exact hended hd outcome hhand hn houtcome hheld rfl
          (List.mem_append_right _ (List.mem_singleton_self _))
      · exact hkept rfl ⟨_, rfl, by simpa using hn⟩

end Known

end Shift

/-! ## the calls of a confirmation -/

/-- Whether a call opens a dialog. -/
def Call.isDialog : Call → Bool
  | .dialog _ => true
  | _ => false

/-- A request is not a dialog. -/
theorem isDialog_of? (r : Request) (answer : r.Answer) :
    ∀ c ∈ (Call.of? r answer).toList, c.isDialog = false := by
  cases r <;> simp [Call.of?, Call.isDialog]

/-- The calls of a confirmation that has opened its dialog, for a profile of the identity that it was
asked for. -/
def Opened (messages : Messages) (asked : Asked) (calls : List Call) : Prop :=
  ∃ p more, asked.identity = some p.identity ∧
    calls = .get asked.id (some p) :: .dialog (Remedy.question messages p) :: more ∧
    ∀ c ∈ more, c.isDialog = false

/-- The calls of a confirmation that has found no profile of the identity that it was asked for. -/
def Refused (messages : Messages) (asked : Asked) (calls : List Call) : Prop :=
  ∃ found : Option Profile, (∀ p, found = some p → asked.identity ≠ some p.identity) ∧
    calls = [.get asked.id found, .toast messages.networkNotFound]

/-- How far a confirmation in hand has come. -/
def Hand.Follows (h : Hand) (messages : Messages) (calls : List Call) : Prop :=
  match h.stage with
  | .checking plan =>
    (calls = [] → plan = Remedy.check messages h.asked.id h.asked.identity) ∧
      Logs (Checked messages h.asked) plan calls
  | .asking p =>
    h.asked.identity = some p.identity ∧
      calls = [.get h.asked.id (some p), .dialog (Remedy.question messages p)]
  | .concluding _ => Opened messages h.asked calls

section Calls

variable {messages : Messages} {asked : Asked} {found : Option Profile} {calls more : List Call}

/-- A check that has failed has found no profile of the identity that it was asked for. -/
theorem Checked.refused {fault : Remedy.Fault} (h : Checked messages asked calls (.error fault)) :
    Refused messages asked calls := by
  obtain ⟨found, hvalid, rfl⟩ := h
  refine ⟨found, fun p hp hsame => ?_, rfl⟩
  rw [hp, Remedy.validate, if_pos hsame] at hvalid
  cases hvalid

/-- More calls after the dialog change nothing about it. -/
theorem Opened.append (h : Opened messages asked calls) (hmore : ∀ c ∈ more, c.isDialog = false) :
    Opened messages asked (calls ++ more) := by
  obtain ⟨p, more', hsame, rfl, hmore'⟩ := h
  refine ⟨p, more' ++ more, hsame, rfl, fun c hc => ?_⟩
  exact (List.mem_append.1 hc).elim (hmore' c) (hmore c)

/-- What a confirmation has made of the profile that it found. -/
structure Acted (messages : Messages) (asked : Asked) (found : Option Profile)
    (calls : List Call) : Prop where
  /-- One dialog is opened, if it is the profile that was meant. -/
  dialog : calls.countP Call.isDialog = 1 ↔ ∃ p, found = some p ∧ asked.identity = some p.identity
  /-- Otherwise the message that it was not found is shown, and that is all. -/
  message : (∀ p, found = some p → asked.identity ≠ some p.identity) →
    calls = [.get asked.id found, .toast messages.networkNotFound]

theorem Opened.acted (h : Opened messages asked calls) (hfirst : [.get asked.id found] <+: calls) :
    Acted messages asked found calls := by
  obtain ⟨p, more, hsame, rfl, hmore⟩ := h
  obtain ⟨rest, hrest⟩ := hfirst
  cases (List.cons.inj hrest).1
  have hnone : more.countP Call.isDialog = 0 := by
    rw [List.countP_eq_zero]
    exact fun c hc => Bool.not_eq_true _ ▸ hmore c hc
  refine ⟨iff_of_true ?_ ⟨p, rfl, hsame⟩, fun hother => absurd hsame (hother p rfl)⟩
  rw [List.countP_cons_of_neg (by simp [Call.isDialog]), List.countP_cons_of_pos rfl, hnone]

theorem Refused.acted (h : Refused messages asked calls) (hfirst : [.get asked.id found] <+: calls) :
    Acted messages asked found calls := by
  obtain ⟨found', hother, rfl⟩ := h
  obtain ⟨rest, hrest⟩ := hfirst
  cases (List.cons.inj hrest).1
  refine ⟨iff_of_false ?_ ?_, fun _ => rfl⟩
  · simp [Call.isDialog]
  · rintro ⟨p, hp, hsame⟩
    exact hother p hp hsame

/-- A request of a check is followed by the rest of the check; the first one is a call. -/
theorem Hand.Follows.request {number : Nat} {r : Request}
    {next : r.Answer → Plan (Except Remedy.Fault Profile)} {answer : r.Answer}
    (h : Hand.Follows ⟨number, asked, .checking (.call r next)⟩ messages calls) :
    Hand.Follows ⟨number, asked, .checking (next answer)⟩ messages
      (calls ++ (Call.of? r answer).toList) := by
  refine ⟨fun hnone => ?_, h.2 answer⟩
  obtain ⟨hcalls, hcall⟩ := List.append_eq_nil_iff.1 hnone
  -- with no call so far this is the whole check, which begins with one
  have hfirst : Plan.call r next = .call (.look asked.id) _ := h.1 hcalls
  injection hfirst with hr
  subst hr
  cases hcall

/-- What is known of the calls of a confirmation that comes to its outcome. -/
theorem Hand.Follows.ended {hd : Hand} {outcome : Outcome} (h : hd.Follows messages calls)
    (houtcome : hd.outcome? = some outcome) :
    Opened messages hd.asked calls ∨ Refused messages hd.asked calls := by
  obtain ⟨number, asked, stage⟩ := hd
  unfold Hand.outcome? at houtcome
  split at houtcome
  · next hstage =>
      cases hstage
      exact .inr (Checked.refused h.2)
  · next hstage =>
      cases hstage
      exact .inl h
  · cases houtcome

/-- A confirmation goes on from as far as it has come. -/
theorem Hand.Follows.lasting (messages : Messages) :
    Hand.Lasting messages fun hd calls => hd.Follows messages calls where
  taken _ asked := ⟨fun _ => rfl, check_logs messages asked⟩
  checked h _ := h.request
  opened h := by
    obtain ⟨hsame, hfound⟩ := Checked.valid h.2
    exact ⟨hsame, hfound ▸ rfl⟩
  replied h _ := ⟨_, [], h.1, h.2, List.forall_mem_nil _⟩
  concluded h answer := Opened.append h (isDialog_of? _ answer)

end Calls

/-- What stands in a list stands there after more is added. -/
theorem getElem?_mono {α : Type} {as bs : List α} (h : as <+: bs) {i : Nat} {a : α}
    (ha : as[i]? = some a) : bs[i]? = some a := by
  obtain ⟨more, rfl⟩ := h
  rw [List.getElem?_append_left (List.getElem?_eq_some_iff.1 ha).1, ha]

namespace Shift

/-- The calls of a confirmation are those of a confirmation that has come so far. -/
def Accords (s : Shift) (messages : Messages) (n : Nat) (asked : Asked) : Prop :=
  s.Tracks n (s.callsOf n = []) (fun hd => hd.Follows messages (s.callsOf n))
    (Opened messages asked (s.callsOf n) ∨ Refused messages asked (s.callsOf n))

/-- How far a confirmation has come. -/
structure Course (s : Shift) (messages : Messages) (n : Nat) (asked : Asked) : Prop where
  wording : s.session.desk.messages = messages
  submitted : s.submitted[n]? = some asked
  tracks : s.Accords messages n asked

variable {messages : Messages} {n : Nat} {asked : Asked} {s s' : Shift} {b : Beat}

/-- The confirmation in hand is the one that was asked for. -/
theorem Course.asked_eq (h : s.Course messages n asked) (hturn : s.InTurn) {hd : Hand}
    (hhand : s.hand = some hd) (hn : hd.number = n) : hd.asked = asked := by
  have hhd := (hturn.hand hd hhand).2
  rw [hn, h.submitted] at hhd
  exact (Option.some.inj hhd).symm

/-- A confirmation that is gone has opened its dialog, or found no profile to open it for. -/
theorem Course.accords (h : s.Course messages n asked) (hturn : s.InTurn) (hmove : s.Move b s') :
    s'.Accords messages n asked := by
  refine h.tracks.move (Hand.Follows.lasting messages) h.wording hturn hmove
    (fun hcalls _ => hcalls.symm ▸ id) (fun asked' p hhand hheld hcalls _ => ?_)
    fun hd outcome hhand hn houtcome hheld hcalls _ => ?_
  · cases h.asked_eq hturn hhand rfl
    rw [hcalls]
    exact .inl ⟨p, [], hheld.1, hheld.2, List.forall_mem_nil _⟩
  · rw [hcalls]
    exact h.asked_eq hturn hhand hn ▸ hheld.ended houtcome

/-- **Every move keeps a confirmation on its course.** -/
theorem Course.move (h : s.Course messages n asked) (hturn : s.InTurn) (hmove : s.Move b s') :
    s'.Course messages n asked :=
  ⟨hmove.messages.trans h.wording, getElem?_mono hmove.submitted_grows h.submitted,
    h.accords hturn hmove⟩

theorem Course.run (h : s.Course messages n asked) (hturn : s.InTurn) (beats : List Beat) :
    (s.run beats).Course messages n asked :=
  hturn.run_keeps (I := fun s => s.Course messages n asked)
    (fun hturn hmove h => h.move hturn hmove) h beats

/-- A confirmation that was just asked for has made no call. -/
theorem InTurn.callsOf_of_le (h : s.InTurn) (hle : s.taken ≤ n) : s.callsOf n = [] := by
  rw [callsOf, List.map_eq_nil_iff, List.filter_eq_nil_iff]
  intro m hm hmaker
  obtain ⟨maker, hsome, hn⟩ := Option.any_eq_true _ _ |>.1 hmaker
  have hlt := (h.makers maker (List.mem_filterMap.2 ⟨m, hm, hsome⟩)).1
  rw [beq_iff_eq.1 hn] at hlt
  omega

/-- A confirmation that was just asked for is at the start of its course. -/
theorem InTurn.course (h : s.InTurn) (hle : s.taken ≤ n) (hsubmitted : s.submitted[n]? = some asked) :
    s.Course s.session.desk.messages n asked := by
  refine ⟨rfl, hsubmitted, fun _ => h.callsOf_of_le hle, fun hd hhd hn => ?_, fun hlt => ?_⟩
  · have hlt := h.number_lt hhd
    omega
  · omega

/-! ## the first call -/

/-- A confirmation makes its first call: it looks at the profile that the store holds. -/
structure Starts (s : Shift) (mishaps : List (Option Mishap)) (messages : Messages) (n : Nat)
    (asked : Asked) (found : Option Profile) : Prop where
  hand : s.hand = some ⟨n, asked, .checking (Remedy.check messages asked.id asked.identity)⟩
  none : s.callsOf n = []
  holds : s.session.desk.store.find? asked.id = found
  look : (s.beat (.work mishaps)).callsOf n = [.get asked.id found]

/-- A check from its beginning. -/
theorem starts_of_check (hnone : s.callsOf n = [])
    (hhand : s.hand = some ⟨n, asked, .checking (Remedy.check messages asked.id asked.identity)⟩)
    (mishaps : List (Option Mishap)) :
    s.Starts mishaps messages n asked (s.session.desk.store.find? asked.id) := by
  refine ⟨hhand, hnone, rfl, ?_⟩
  obtain ⟨next, hcheck⟩ : ∃ next,
      Remedy.check messages asked.id asked.identity = .call (.look asked.id) next := ⟨_, rfl⟩
  have hbeat : s.beat (.work mishaps) =
      s.request ⟨n, asked, .checking (.call (.look asked.id) next)⟩ (.look asked.id)
        (fun a => .checking (next a)) mishaps := by
    rw [beat, work?, hhand, hcheck]
    rfl
  rw [hbeat, callsOf_request, hnone, if_pos rfl]
  rfl

/-- **The first call of a confirmation is its look at the store.** -/
theorem Course.starts (h : s.Course messages n asked) (hturn : s.InTurn)
    (hnone : s.callsOf n = []) (hsome : (s.beat b).callsOf n ≠ []) :
    ∃ mishaps found, b = .work mishaps ∧ s.Starts mishaps messages n asked found := by
  have hmove := s.move b
  generalize s.beat b = s' at hmove hsome
  have hsame (hcalls : s'.callsOf n = s.callsOf n) : False := hsome (hcalls.trans hnone)
  cases hmove with
  | aside hothers calm => exact (hsame (calm.calls n)).elim
  | idle mishaps calm => exact (hsame (calm.calls n)).elim
  | edited mishaps => exact (hsame ((s.edit_calm _ mishaps).calls n)).elim
  | stopped => exact (hsame (s.callsOf_stop n)).elim
  | @checked number asked' r next mishaps hhand =>
      by_cases hn : number = n
      · have hwhole := (h.tracks.held _ hhand hn).1 hnone
        cases h.asked_eq hturn hhand hn
        cases hn
        rw [hwhole] at hhand
        exact ⟨mishaps, _, rfl, starts_of_check hnone hhand mishaps⟩
      · exact (hsame (callsOf_request_of_ne hn ..)).elim
  | @opened number asked' p mishaps hhand =>
      by_cases hn : number = n
      · obtain ⟨-, hfound⟩ := Checked.valid (h.tracks.held _ hhand hn).2
        cases hnone.symm.trans hfound
      · exact (hsame (callsOf_openDialog_of_ne hn ..)).elim
  | @concluded number asked' r next mishaps hhand =>
      by_cases hn : number = n
      · obtain ⟨p, more, -, hopened, -⟩ := h.tracks.held _ hhand hn
        cases hnone.symm.trans hopened
      · exact (hsame (callsOf_request_of_ne hn ..)).elim
  | _ => exact (hsame rfl).elim

theorem Course.exists_start (h : s.Course messages n asked) (hturn : s.InTurn) {beats : List Beat}
    (hnone : s.callsOf n = []) (hsome : (s.run beats).callsOf n ≠ []) :
    ∃ before mishaps after found, beats = before ++ .work mishaps :: after ∧
      (s.run before).Starts mishaps messages n asked found := by
  induction beats generalizing s with
  | nil => exact absurd hnone hsome
  | cons b beats ih =>
      by_cases hwaits : (s.beat b).callsOf n = []
      · obtain ⟨before, mishaps, after, found, rfl, hstarts⟩ :=
          ih (h.move hturn (s.move b)) (hturn.beat b) hwaits hsome
        exact ⟨b :: before, mishaps, after, found, rfl, hstarts⟩
      · obtain ⟨mishaps, found, rfl, hstarts⟩ := h.starts hturn hnone hwaits
        exact ⟨[], mishaps, beats, found, rfl, hstarts⟩

/-! ## the end of the check -/

/-- A confirmation was taken in hand, and it is past its check. -/
def Decided (s : Shift) (n : Nat) : Prop :=
  n < s.taken ∧ ∀ hd, s.hand = some hd → hd.number = n → ∀ plan, hd.stage ≠ .checking plan

theorem Course.decided (h : s.Course messages n asked) (hturn : s.InTurn) (hdecided : s.Decided n) :
    Opened messages asked (s.callsOf n) ∨ Refused messages asked (s.callsOf n) := by
  obtain ⟨htaken, hpast⟩ := hdecided
  by_cases hinhand : ∃ hd, s.hand = some hd ∧ hd.number = n
  · obtain ⟨⟨number, asked', stage⟩, hhand, hn⟩ := hinhand
    have hheld := h.tracks.held _ hhand hn
    have hasked : asked' = asked := h.asked_eq hturn hhand hn
    subst hasked
    cases stage with
    | checking plan => exact absurd rfl (hpast _ hhand hn plan)
    | asking p => exact .inl ⟨p, [], hheld.1, hheld.2, fun _ hc => nomatch hc⟩
    | concluding plan => exact .inl hheld
  · exact h.tracks.left htaken fun hd hhd hn => hinhand ⟨hd, hhd, hn⟩

/-- **A confirmation that is past its check has acted on the profile that the store held when it made
its first call.** -/
theorem Course.acted (h : s.Course messages n asked) (hturn : s.InTurn) (hnone : s.callsOf n = [])
    {beats : List Beat} (hdecided : (s.run beats).Decided n) :
    ∃ before mishaps after found, beats = before ++ .work mishaps :: after ∧
      (s.run before).Starts mishaps messages n asked found ∧
      Acted messages asked found ((s.run beats).callsOf n) := by
  have hcases := (h.run hturn beats).decided (hturn.run beats) hdecided
  have hsome : (s.run beats).callsOf n ≠ [] := by
    rcases hcases with ⟨p, more, -, hcalls, -⟩ | ⟨found, -, hcalls⟩ <;>
    · rw [hcalls]
      exact List.cons_ne_nil _ _
  obtain ⟨before, mishaps, after, found, rfl, hstarts⟩ := h.exists_start hturn hnone hsome
  have hfirst : [.get asked.id found] <+:
      (s.run (before ++ .work mishaps :: after)).callsOf n := by
    rw [run_append, ← hstarts.look]
    exact callsOf_grows _ after n
  exact ⟨before, mishaps, after, found, rfl, hstarts,
    hcases.elim (Opened.acted · hfirst) (Refused.acted · hfirst)⟩

end Shift

end MacConsent.Session
