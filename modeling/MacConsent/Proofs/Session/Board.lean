import MacConsent.Proofs.Session.Moves
import MacConsent.Proofs.Store.Roster

/-!
# MacConsent.Proofs.Session.Board

What is on display.  Only an offer posts a notification: no request of a confirmation does
(`Shift.IsSilent`), and nothing else that happens touches the board
(`Shift.IsSilent.beat_shown`).  All notifications have one number, so each takes the place of the
one before.

The board therefore shows the notification of the last offer that has found its network, with the
profile as it was found then, whatever has become of the network since
(`Shift.one_live_notification`).
-/

namespace MacConsent

/-- On a board with notifications of one number only, the next one under this number is the only
one left. -/
theorem NoticeBoard.live_post {b : NoticeBoard} {number : UInt32}
    (h : ∀ entry ∈ b.live, entry.1 = number) (n : Notification) :
    (b.post number n).live = [(number, n)] := by
  have hnone : b.live.filter (fun entry => entry.1 != number) = [] :=
    List.filter_eq_nil_iff.2 fun entry hentry => by simp [h entry hentry]
  rw [post, remove, hnone, List.nil_append]

namespace Session

open Remedy (Request)
open Store (Mishap)

namespace Desk

/-- What is on display, and how often something was posted. -/
def shown (d : Desk) : NoticeBoard × Nat := (d.board, d.posts)

theorem shown_blind : Blind shown := ⟨fun _ _ => rfl, fun _ _ => rfl⟩

/-- A silent request shows nothing, whatever goes wrong. -/
theorem carryOutAmid_shown (mishaps : List (Option Mishap)) {r : Request} (h : r.IsSilent)
    (d : Desk) : ((carryOutAmid mishaps r).run d).2.shown = d.shown := by
  cases r with
  | post => exact h.elim
  | _ => cases hstore : d.store <;> simp only [carryOutAmid, StateT.run, hstore] <;> rfl

end Desk

/-! ## what an offer does -/

namespace Desk

/-- The notification of an offer for a profile. -/
def noticeOf (messages : Messages) (p : Profile) : Notification :=
  Remedy.notice messages p ⟨p.id, p.identity⟩

/-- What an offer does at a desk, for the profile that is found. -/
structure Offered (d : Desk) (id : NetworkId) (found : Option Profile) (d' : Desk) : Prop where
  store : d'.store = d.store
  tree : d'.tree = d.tree
  /-- The network is looked up, and the notification of the profile is posted. -/
  calls : d'.calls = d.calls ++ .get id found :: found.toList.map fun p =>
    .post noticeNumber (noticeOf d.messages p)
  shown : d'.shown = found.elim d.shown fun p =>
    (d.board.post noticeNumber (noticeOf d.messages p), d.posts + 1)

/-- **An offer posts the notification of the profile that is found, and does nothing else.** -/
theorem offered (d : Desk) (id : NetworkId) :
    d.Offered id (d.store.find? id) (((Remedy.offer d.messages id).run carryOut).run d).2 := by
  rw [offer_run]
  cases hfound : d.store.find? id with
  | none =>
      refine ⟨rfl, rfl, ?_, rfl⟩
      rw [traced_calls, called_calls]
      rfl
  | some p =>
      obtain rfl : p.id = id := Store.Roster.id_of_find? hfound
      refine ⟨rfl, rfl, ?_, rfl⟩
      rw [traced_calls, called_calls]
      change (d.called (.get p.id (some p))).calls ++ _ = _
      rw [called_calls, List.append_assoc]
      rfl

/-- What is on display, and how often something was posted, after offers that have found
profiles. -/
structure Displays (messages : Messages) (offered : List Profile) (d : Desk) : Prop where
  live : d.board.live =
    (offered.getLast?.map fun p => (noticeNumber, noticeOf messages p)).toList
  posts : d.posts = offered.length

variable {d d' : Desk} {ps : List Profile}

/-- Nothing is posted. -/
theorem Displays.of_shown {messages : Messages} (h : Displays messages ps d)
    (hshown : d'.shown = d.shown) : Displays messages ps d' where
  live := (congrArg (fun shown => shown.1.live) hshown).trans h.live
  posts := (congrArg Prod.snd hshown).trans h.posts

/-- One more offer is made; if it finds a profile, its notification takes the place of the one on
display. -/
theorem Displays.offered (h : Displays d.messages ps d) {id : NetworkId} {found : Option Profile}
    (hoffered : d.Offered id found d') : Displays d.messages (ps ++ found.toList) d' := by
  cases found with
  | none => exact (List.append_nil ps).symm ▸ h.of_shown hoffered.shown
  | some p =>
      have hone : ∀ entry ∈ d.board.live, entry.1 = noticeNumber := by
        intro entry hentry
        rw [h.live, Option.mem_toList] at hentry
        obtain ⟨q, -, rfl⟩ := Option.map_eq_some_iff.1 hentry
        rfl
      refine ⟨?_, ?_⟩
      · have hboard := congrArg (fun shown => shown.1.live) hoffered.shown
        rw [Option.toList_some, List.getLast?_concat]
        exact hboard.trans (NoticeBoard.live_post hone _)
      · have hposts := congrArg Prod.snd hoffered.shown
        rw [Option.toList_some, List.length_append, ← h.posts]
        exact hposts

end Desk

/-! ## silence -/

/-- A change of the files shows nothing. -/
theorem onFiles_shown (s : Session) (f : Files.Tree → Except Files.Fault Files.Tree) :
    (s.onFiles f).2.desk.shown = s.desk.shown := by
  unfold onFiles
  split <;> rfl

theorem onMemory_shown (s : Session) (f : Store.Memory → Store.Memory) :
    (s.onMemory f).2.desk.shown = s.desk.shown := by
  unfold onMemory
  split <;> rfl

/-- The network that a beat makes an offer for. -/
def Beat.offer? : Beat → Option NetworkId
  | .outside (.notify id) _ => some id
  | _ => none

/-- The requests that are left of a confirmation post nothing. -/
def Hand.IsSilent (h : Hand) : Prop :=
  match h.stage with
  | .checking plan => plan.All Request.IsSilent
  | .asking _ => True
  | .concluding plan => plan.All Request.IsSilent

namespace Shift

variable {s s' : Shift} {b : Beat}

/-- The confirmation in hand posts nothing. -/
def IsSilent (s : Shift) : Prop := ∀ hd, s.hand = some hd → hd.IsSilent

/-- Without a confirmation in hand nothing can be shown. -/
theorem isSilent_of_none (h : s.hand = none) : s.IsSilent := by
  intro hd hhd
  rw [h] at hhd
  cases hhd

theorem begin_isSilent (desk : Desk) (router : Router) (tickets : Nat) :
    (begin desk router tickets).IsSilent := isSilent_of_none rfl

theorem IsSilent.of_eq (h : s.IsSilent) (hhand : s'.hand = s.hand) : s'.IsSilent :=
  fun hd hhd => h hd (hhand ▸ hhd)

/-- What a confirmation is left with after any beat posts nothing either. -/
theorem IsSilent.move (h : s.IsSilent) (hmove : s.Move b s') : s'.IsSilent := by
  cases hmove with
  | aside hothers calm => exact h.of_eq calm.hand
  | idle mishaps calm => exact h.of_eq calm.hand
  | edited mishaps => exact h.of_eq (s.edit_calm _ mishaps).hand
  | replied choice mishaps hhand =>
      rintro hd ⟨⟩
      exact Remedy.conclude_silent _ _ _ choice
  | stopped mishaps hsuspended =>
      rw [stop, if_pos hsuspended]
      exact isSilent_of_none rfl
  | took mishaps hhand =>
      rintro hd ⟨⟩
      exact Remedy.check_silent _ _ _
  | checked mishaps hhand =>
      rintro hd ⟨⟩
      exact (h _ hhand).2 _
  | opened mishaps hhand =>
      obtain ⟨stage, hstage, hcases, -⟩ := s.openDialog_rest _ _
      intro hd hhd
      cases hstage.symm.trans hhd
      rcases hcases with rfl | ⟨choice, rfl⟩
      · trivial
      · exact Remedy.conclude_silent _ _ _ choice
  | concluded mishaps hhand =>
      rintro hd ⟨⟩
      exact (h _ hhand).2 _
  | finished mishaps hhand houtcome => exact isSilent_of_none rfl

/-! ## what others do -/

/-- A direct change of the store shows nothing. -/
theorem edit_shown (s : Shift) (c : Store.Change) (mishaps : List (Option Mishap)) :
    (s.edit c mishaps).session.desk.shown = s.session.desk.shown := by
  rw [edit]
  split <;> rfl

/-- A choice shows nothing by itself. -/
theorem reply_shown (s : Shift) (choice : Dialog.Choice) :
    (s.reply choice).session.desk.shown = s.session.desk.shown := by
  rw [reply]
  split
  · dsimp only
    split <;> rfl
  · rfl

/-- **No step but an offer touches the board.** -/
theorem outside_shown (s : Shift) {e : Step} (he : ∀ id, e ≠ .notify id)
    (mishaps : List (Option Mishap)) :
    (s.outside e mishaps).session.desk.shown = s.session.desk.shown := by
  cases e with
  | notify id => exact absurd rfl (he id)
  | write path content => exact onFiles_shown s.session _
  | makeDirectory path => exact onFiles_shown s.session _
  | clear path => exact onFiles_shown s.session _
  | insert p => exact onMemory_shown s.session _
  | mode mode => exact onMemory_shown s.session _
  | failEnable => exact onMemory_shown s.session _
  | add p => exact s.edit_shown _ mishaps
  | update p => exact s.edit_shown _ mishaps
  | confirm id identity => exact Desk.shown_blind.ask ..
  | flush => exact Desk.shown_blind.flush s.session
  | reply choice => exact s.reply_shown choice
  | route e =>
      obtain ⟨sent, hroute⟩ := s.outside_route e mishaps
      rw [hroute]
  | tap =>
      rw [outside]
      split <;> rfl
  | stop =>
      rw [outside, stop]
      split
      · exact Desk.shown_blind.stop s.session
      · rfl

/-- A listener shows nothing. -/
theorem listen_shown (s : Shift) (channel : Nat) :
    (s.listen channel).session.desk.shown = s.session.desk.shown := by
  rw [listen]
  split
  · rfl
  · exact Desk.shown_blind.hear ..

/-- Taking an item shows nothing. -/
theorem take?_shown (h : s.take? = some s') : s'.session.desk.shown = s.session.desk.shown := by
  unfold take? at h
  dsimp only at h
  split at h
  · cases h
    rfl
  · cases h
    exact Desk.shown_blind.resolve s.session.desk (some _) _
  · split at h <;> cases h
    rfl
  · cases h

/-- A dialog is no notification. -/
theorem openDialog_shown (s : Shift) (hd : Hand) (p : Profile) :
    (s.openDialog hd p).session.desk.shown = s.session.desk.shown := by
  rw [openDialog]
  dsimp only
  split <;> rfl

/-- A confirmation that posts nothing goes on without touching the board. -/
theorem goOn?_shown {hd : Hand} (hsilent : hd.IsSilent) {mishaps : List (Option Mishap)}
    (h : s.goOn? hd mishaps = some s') : s'.session.desk.shown = s.session.desk.shown := by
  obtain ⟨number, asked, stage⟩ := hd
  unfold goOn? at h
  split at h
  · next hstage =>
      cases hstage
      cases h
      exact Desk.carryOutAmid_shown mishaps hsilent.1 _
  · cases h
    exact Desk.shown_blind.resolve ..
  · cases h
    exact s.openDialog_shown ..
  · cases h
  · next hstage =>
      cases hstage
      cases h
      exact Desk.carryOutAmid_shown mishaps hsilent.1 _
  · cases h
    exact Desk.shown_blind.resolve ..

/-- **Nothing but an offer touches the board.** -/
theorem IsSilent.beat_shown (h : s.IsSilent) (hb : b.offer? = none) :
    (s.beat b).session.desk.shown = s.session.desk.shown := by
  cases b with
  | outside e mishaps =>
      refine s.outside_shown (fun id he => ?_) mishaps
      rw [he] at hb
      cases hb
  | listen channel => exact s.listen_shown channel
  | work mishaps =>
      rw [beat]
      cases hwork : s.work? mishaps with
      | none => rfl
      | some s' =>
          rw [work?] at hwork
          split at hwork
          · exact take?_shown hwork
          · next hd hhand => exact goOn?_shown (h hd hhand) hwork

/-! ## offers in a run -/

/-- The profile that is found by the offer of a beat, if it makes one. -/
def found? (s : Shift) (b : Beat) : Option Profile := b.offer?.bind s.session.desk.store.find?

/-- The profiles that the offers of beats find, in order. -/
def offers (s : Shift) : List Beat → List Profile
  | [] => []
  | b :: beats => (s.found? b).toList ++ (s.beat b).offers beats

/-- What is on display after offers stays so after a beat, unless it makes one that finds a
profile. -/
theorem IsSilent.beat_displays (hsilent : s.IsSilent) {ps : List Profile}
    (h : Desk.Displays s.session.desk.messages ps s.session.desk) (b : Beat) :
    Desk.Displays s.session.desk.messages (ps ++ (s.found? b).toList) (s.beat b).session.desk := by
  cases hoffer : b.offer? with
  | none =>
      rw [found?, hoffer, Option.bind_none, Option.toList_none, List.append_nil]
      exact h.of_shown (hsilent.beat_shown hoffer)
  | some id =>
      obtain ⟨mishaps, rfl⟩ : ∃ mishaps, b = .outside (.notify id) mishaps := by
        unfold Beat.offer? at hoffer
        split at hoffer <;> cases hoffer
        exact ⟨_, rfl⟩
      exact h.offered (s.session.desk.offered id)

/-- **A run displays the notification of its last offer that has found a profile.** -/
theorem IsSilent.run_displays (hsilent : s.IsSilent) {ps : List Profile}
    (h : Desk.Displays s.session.desk.messages ps s.session.desk) (beats : List Beat) :
    Desk.Displays s.session.desk.messages (ps ++ s.offers beats) (s.run beats).session.desk := by
  induction beats generalizing s ps with
  | nil => exact (List.append_nil ps).symm ▸ h
  | cons b beats ih =>
      have hmessages := (s.move b).messages
      have hrest := ih (hsilent.move (s.move b)) (hmessages ▸ hsilent.beat_displays h b)
      rw [hmessages, List.append_assoc] at hrest
      exact hrest

/-- **There is at most one notification on display, and it is the latest.**  Whatever happens, in
whatever order, the board is empty as long as no offer has found its network, and after that it
shows one notification, under the one number: the texts name the profile as the last such offer has
found it, and a tap asks for its id with its identity.  As often as an offer has found its network,
a notification was posted.  An offer itself changes no profile and no file, and beyond looking its
network up it calls for nothing but that notification. -/
theorem one_live_notification (store : Store.Backend) (messages : Messages) (tree : Files.Tree)
    (answers : List Dialog.Choice) (router : Router) (tickets : Nat) (beats : List Beat) :
    let s₀ := begin { store, messages, tree, answers } router tickets
    let s := s₀.run beats
    s.session.desk.posts = (s₀.offers beats).length ∧
    (match (s₀.offers beats).getLast? with
      | none => s.session.desk.board.live = []
      | some p => ∃ notice, s.session.desk.board.live = [(noticeNumber, notice)] ∧
          notice.title = Template.fill messages.notificationTitle p.ssid ∧
          notice.body = Template.fill messages.notificationBody p.ssid ∧
          notice.tapAction.target? = some (p.id, some p.identity)) ∧
    ∀ id mishaps,
      let s' := s.beat (.outside (.notify id) mishaps)
      let found := s.session.desk.store.find? id
      -- only the desk is touched, and who has made the calls is noted
      s' = { s with session := { s.session with desk := s'.session.desk }, made := s'.made } ∧
      s'.session.desk.store = s.session.desk.store ∧
      s'.session.desk.tree = s.session.desk.tree ∧
      s'.session.desk.calls = s.session.desk.calls ++ .get id found ::
        found.toList.map fun p => .post noticeNumber (Remedy.notice messages p ⟨p.id, p.identity⟩) := by
  intro s₀ s
  have hmessages : s.session.desk.messages = messages := run_messages s₀ beats
  have hstart : Desk.Displays messages [] s₀.session.desk := ⟨rfl, rfl⟩
  have hdisplays : Desk.Displays messages (s₀.offers beats) s.session.desk :=
    IsSilent.run_displays (s := s₀) (begin_isSilent _ router tickets) hstart beats
  refine ⟨hdisplays.posts, ?_, fun id mishaps => ⟨rfl, ?_⟩⟩
  · have hlive := hdisplays.live
    cases hlast : (s₀.offers beats).getLast? with
    | none =>
        rw [hlast] at hlive
        exact hlive
    | some p =>
        rw [hlast] at hlive
        exact ⟨_, hlive, rfl, rfl, target?_tapEvent _⟩
  · have hoffered := s.session.desk.offered id
    exact ⟨hoffered.store, hoffered.tree, hmessages ▸ hoffered.calls⟩

end Shift
end Session
end MacConsent
