import MacConsent.Proofs.Remedy.Requests
import MacConsent.Proofs.Store.Series

/-!
# MacConsent.Proofs.Store.Nameless

Profiles without a name.  An update is refused without one, but a profile that
is added is not asked for one.  So in a store that starts empty there is a
nameless profile exactly if one was added and not updated since
(`nameless_listed_iff`); and that profile can be offered and confirmed, but the
update that its confirmation asks for is refused at any time.
-/

namespace MacConsent.Store

variable {r r' : Roster} {c : Change} {answer : Answer} {log : List (Change × Answer)}
variable {id : NetworkId}

/-- Among profiles there is one of an id and without a name. -/
def ListsNameless (id : NetworkId) (ps : List Profile) : Prop := ∃ p ∈ ps, p.id = id ∧ p.ssid = ""

/-- A change has put another profile under an id. -/
def Replaced (id : NetworkId) (entry : Change × Answer) : Prop :=
  ∃ p uid answer, entry = (.update p uid, .ok answer) ∧ p.id = id

/-- A profile without a name was added under an id, and not replaced since. -/
def AddedNameless (id : NetworkId) (log : List (Change × Answer)) : Prop :=
  ∃ before p after, log = before ++ (.add p, .ok (some id)) :: after ∧ p.ssid = "" ∧
    ∀ entry ∈ after, ¬ Replaced id entry

/-! ## one change -/

theorem not_replaced_add {p : Profile} : ¬ Replaced id (.add p, answer) := by
  rintro ⟨q, uid, given, hentry, -⟩
  cases hentry

theorem not_replaced_enable {other : NetworkId} {uid : Uid} :
    ¬ Replaced id (.enable other uid, answer) := by
  rintro ⟨q, uid', given, hentry, -⟩
  cases hentry

/-- A profile without a name that a change has left was added by it, or it was there before and is
not replaced. -/
theorem Change.Led.nameless_iff {ps : List Profile} (h : c.Led r answer ps) :
    ListsNameless id ps ↔
      (∃ p, (c, answer) = (.add p, .ok (some id)) ∧ p.ssid = "") ∨
        ListsNameless id r.toList ∧ ¬ Replaced id (c, answer) := by
  cases h with
  | failed c fault => simp [Replaced]
  | @added p given hlast =>
      constructor
      · rintro ⟨q, hq, hid, hname⟩
        rcases List.mem_append.1 hq with hq | hq
        · exact .inr ⟨⟨q, hq, hid, hname⟩, not_replaced_add⟩
        · obtain rfl := List.mem_singleton.1 hq
          subst hid
          exact .inl ⟨p, rfl, hname⟩
      · rintro (⟨q, hadded, hname⟩ | ⟨⟨q, hq, hnameless⟩, -⟩)
        · cases hadded
          exact ⟨_, List.mem_append_right _ (List.mem_singleton_self _), rfl, hname⟩
        · exact ⟨q, List.mem_append_left _ hq, hnameless⟩
  | updated p uid hname hthere =>
      constructor
      · rintro ⟨q', hq', hid, hnameless⟩
        obtain ⟨q, hq, rfl⟩ := List.mem_map.1 hq'
        by_cases hqp : q.id = p.id
        · rw [if_pos hqp] at hnameless
          exact absurd hnameless hname
        · rw [if_neg hqp] at hid hnameless
          refine .inr ⟨⟨q, hq, hid, hnameless⟩, ?_⟩
          rintro ⟨p', uid', given, hentry, hid'⟩
          cases hentry
          exact hqp (hid.trans hid'.symm)
      · rintro (⟨q, hadded, -⟩ | ⟨⟨q, hq, hid, hnameless⟩, hkept⟩)
        · cases hadded
        · have hqp : q.id ≠ p.id := fun heq => hkept ⟨p, uid, none, rfl, heq.symm.trans hid⟩
          exact ⟨q, List.mem_map.2 ⟨q, hq, if_neg hqp⟩, hid, hnameless⟩
  | enabled other uid hthere =>
      have hsame : ∀ q : Profile, ((if q.id = other then { q with enabled := true } else q).id = id ∧
          (if q.id = other then { q with enabled := true } else q).ssid = "") ↔
            q.id = id ∧ q.ssid = "" := by
        intro q
        split <;> rfl
      constructor
      · rintro ⟨q', hq', hnameless⟩
        obtain ⟨q, hq, rfl⟩ := List.mem_map.1 hq'
        exact .inr ⟨⟨q, hq, (hsame q).1 hnameless⟩, not_replaced_enable⟩
      · rintro (⟨q, hadded, -⟩ | ⟨⟨q, hq, hnameless⟩, -⟩)
        · cases hadded
        · exact ⟨_, List.mem_map_of_mem hq, (hsame q).2 hnameless⟩

/-! ## a series -/

theorem addedNameless_nil : ¬ AddedNameless id [] := by
  rintro ⟨before, p, after, hlog, -⟩
  exact List.append_ne_nil_of_right_ne_nil _ (List.cons_ne_nil _ _) hlog.symm

theorem addedNameless_cons_iff {entry : Change × Answer} :
    AddedNameless id (entry :: log) ↔
      ((∃ p, entry = (.add p, .ok (some id)) ∧ p.ssid = "") ∧ ∀ later ∈ log, ¬ Replaced id later) ∨
        AddedNameless id log := by
  constructor
  · rintro ⟨before, p, after, hlog, hname, hkept⟩
    cases before with
    | nil =>
        obtain ⟨rfl, rfl⟩ := List.cons.inj hlog
        exact .inl ⟨⟨p, rfl, hname⟩, hkept⟩
    | cons first before =>
        obtain ⟨-, rfl⟩ := List.cons.inj hlog
        exact .inr ⟨before, p, after, rfl, hname, hkept⟩
  · rintro (⟨⟨p, rfl, hname⟩, hkept⟩ | ⟨before, p, after, rfl, hname, hkept⟩)
    · exact ⟨[], p, log, rfl, hname, hkept⟩
    · exact ⟨entry :: before, p, after, rfl, hname, hkept⟩

/-- A profile without a name that a series of changes has left was added by it, or it was there
before, and in either case it was not replaced since. -/
theorem Comes.nameless_iff (h : Comes r log r') :
    ListsNameless id r'.toList ↔
      AddedNameless id log ∨ ListsNameless id r.toList ∧ ∀ entry ∈ log, ¬ Replaced id entry := by
  induction h with
  | nil r => simp [addedNameless_nil]
  | cons h hlog ih =>
      rw [ih, h.led.nameless_iff, addedNameless_cons_iff, List.forall_mem_cons, or_and_right,
        or_left_comm, or_assoc, and_assoc]

/-! ## what becomes of a nameless profile -/

/-- An update is refused for a missing name exactly if there is none, whatever the store holds. -/
theorem update_refused_iff {σ : Type} (b : Backing (StateM σ)) (s : Durable) (p : Profile)
    (uid : Uid) (t : σ) :
    (∃ id, ((s.update b p uid).run t).1 = .error (.rejected id .emptyName)) ↔ p.ssid = "" := by
  rw [Durable.update]
  split
  · next hname => exact ⟨fun _ => hname, fun _ => ⟨p.id, rfl⟩⟩
  · next hname =>
      refine ⟨?_, fun h => absurd h hname⟩
      rintro ⟨id, hrefused⟩
      cases hfound : s.roster.find? p.id with
      | none =>
          rw [hfound] at hrefused
          cases hrefused
      | some old =>
          rw [hfound] at hrefused
          obtain ⟨result, t', hcommit, hresult⟩ := commit_comes b s (s.roster.insert p) t
          dsimp only at hrefused
          rw [StateT.run_bind, hcommit] at hrefused
          rcases hresult with rfl | ⟨fault, rfl⟩ <;> cases hrefused

/-- **When a store lists a profile without a name.**  A store is opened where there is no document
yet, and it is asked for one change after another, whatever its files are and whatever becomes of
them.  It lists a nameless profile exactly if one was added and not replaced since.  Each profile
that is listed passes the check of a confirmation, and an accepted dialog leads to an update; at
any time and whatever the store holds then, the update is refused for a missing name exactly if
the profile has none. -/
theorem nameless_listed_iff {σ : Type} (b : Backing (StateM σ)) {path : Files.Path} {t : σ}
    (hmissing : ((b.read path).run t).1 = .error .missing) (cs : List Change) :
    ∃ opened t₀ log live t₁,
      (Durable.load b path).run t = (.ok opened, t₀) ∧
      (opened.series b cs).run t₀ = ((log, live), t₁) ∧ log.map Prod.fst = cs ∧
      (∀ id, ListsNameless id live.roster.toList ↔ AddedNameless id log) ∧
      ∀ p ∈ live.roster.toList,
        Remedy.validate p.id (some p.identity) (live.roster.find? p.id) = .ok p ∧
        ∀ messages, ∃ next,
          Remedy.conclude messages p.id p .accepted =
            .call (.update p.withDeviceMac Remedy.systemUid) next ∧
          ∀ (later : Durable) (t' : σ),
            (∃ id, ((later.update b p.withDeviceMac Remedy.systemUid).run t').1 =
              .error (.rejected id .emptyName)) ↔ p.ssid = "" := by
  have hopen : ∃ t₀, (Durable.load b path).run t = (.ok ⟨path, .empty⟩, t₀) := by
    rw [Durable.load, StateT.run_bind]
    dsimp only [bind, Id.run]
    rw [hmissing]
    exact ⟨_, rfl⟩
  obtain ⟨t₀, hopen⟩ := hopen
  obtain ⟨log, r, t₁, hseries, hchanges, hcomes⟩ := series_comes b ⟨path, .empty⟩ cs t₀
  refine ⟨_, t₀, log, _, t₁, hopen, hseries, hchanges, fun id => ?_, fun p hp => ⟨?_, ?_⟩⟩
  · have hnone : ¬ ListsNameless id Roster.empty.toList := by
      rintro ⟨q, hq, -⟩
      cases hq
    simp [hcomes.nameless_iff, hnone]
  · rw [Roster.mem_toList_iff.1 hp, Remedy.validate]
    exact if_pos rfl
  · intro messages
    obtain ⟨next, hconclude, -⟩ := Remedy.conclude_accepted messages p.id p
    exact ⟨next, hconclude, fun later t' => update_refused_iff b later p.withDeviceMac _ t'⟩

/-- A profile without a name is saved, and no confirmation of it can change it. -/
theorem nameless_added :
    let nameless : Profile := { id := .first, ssid := "", security := .unsecured }
    ∃ opened t₀ live t₁,
      (Durable.load Backing.bench Durable.defaultPath).run ⟨{}, []⟩ = (.ok opened, t₀) ∧
      (opened.series Backing.bench [.add nameless]).run t₀ =
        (([(.add nameless, .ok (some .first))], live), t₁) ∧
      live.roster.toList = [nameless] ∧
      ∃ id, ((live.update Backing.bench nameless.withDeviceMac Remedy.systemUid).run t₁).1 =
        .error (.rejected id .emptyName) := by
  intro nameless
  have hmissing : ((Backing.bench.read Durable.defaultPath).run ⟨{}, []⟩).1 = .error .missing :=
    rfl
  have hroster : Durable.rosterOf (Files.Tree.read {} Durable.defaultPath) = .ok .empty := rfl
  have hload := Durable.load_run (b := ⟨{}, []⟩) hroster
  have hallowed : (Change.add nameless).profile? .empty = .ok nameless := rfl
  obtain ⟨opened, t₀, log, live, t₁, hopen, hseries, -, -, hlisted⟩ :=
    nameless_listed_iff Backing.bench hmissing [.add nameless]
  obtain ⟨hopened, rfl⟩ := Prod.mk.inj (hopen.symm.trans hload)
  obtain rfl := Except.ok.inj hopened
  obtain ⟨t', hadd⟩ :=
    series_singleton (s := ⟨_, .empty⟩) (t := ⟨{}, _⟩) Durable.writable_defaultPath hallowed
  obtain ⟨hafter, rfl⟩ := Prod.mk.inj (hseries.symm.trans hadd)
  obtain ⟨rfl, rfl⟩ := Prod.mk.inj hafter
  obtain ⟨-, hconfirmed⟩ := hlisted nameless (List.mem_singleton_self _)
  obtain ⟨-, -, hrefused⟩ := hconfirmed {}
  exact ⟨_, _, _, _, hopen, hadd, rfl, (hrefused _ _).2 rfl⟩

end MacConsent.Store
