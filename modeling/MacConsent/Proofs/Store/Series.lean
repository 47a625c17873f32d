import MacConsent.Proofs.Store.Durability

/-!
# MacConsent.Proofs.Store.Series

Changes that a store is asked for one after another.  Its files are any program
over any state: a write or a rename may fail at any time and for any reason, and
others may do to the files what they like.  All the same a change comes to one
of three things (`Change.Comes`): the profiles do not allow it, the files fail
it, or it puts in one profile.  So the profiles that a series of changes leads
to are known from what the changes have given back (`series_comes`).
-/

namespace MacConsent.Store

/-- What a change gives back: the id of the profile, if it adds one. -/
abbrev Answer := Except Fault (Option NetworkId)

namespace Change

variable {m : Type → Type} [Monad m]

/-- Asks for a change: what it gives back, and the store afterwards. -/
def ask (b : Backing m) (s : Durable) : Change → m (Answer × Durable)
  | .add p => do
    match ← s.add b p with
    | .error fault => return (.error fault, s)
    | .ok (id, s) => return (.ok (some id), s)
  | .update p uid => do
    match ← s.update b p uid with
    | .error fault => return (.error fault, s)
    | .ok s => return (.ok none, s)
  | .enable id uid => do
    match ← s.enable b id uid with
    | .error fault => return (.error fault, s)
    | .ok s => return (.ok none, s)

/-- The id that is given back for a profile that a change has put in. -/
def given (p : Profile) : Change → Option NetworkId
  | .add _ => some p.id
  | _ => none

/-- What a change gives back goes by its commit. -/
theorem ask_eq [LawfulMonad m] (b : Backing m) (s : Durable) (c : Change) :
    c.ask b s =
      match c.profile? s.roster with
      | .error fault => return (.error fault, s)
      | .ok p => do
        match ← s.commit b (s.roster.insert p) with
        | .error fault => return (.error fault, s)
        | .ok s =>
          c.notes.forM b.trace
          return (.ok (c.given p), s) := by
  cases c with
  | add p =>
      rw [ask, Durable.add, profile?]
      cases s.roster.freeId with
      | error last => exact pure_bind _ _
      | ok id =>
          simp only [notes, bind_assoc]
          refine bind_congr fun result => ?_
          cases result <;> simp [given]
  | update p uid =>
      rw [ask, Durable.update, profile?]
      split
      · exact pure_bind _ _
      · cases s.roster.find? p.id with
        | none => exact pure_bind _ _
        | some q =>
            simp only [notes, bind_assoc]
            refine bind_congr fun result => ?_
            cases result <;> simp [given]
  | enable id uid =>
      rw [ask, Durable.enable, profile?]
      cases s.roster.find? id with
      | none => exact pure_bind _ _
      | some p =>
          simp only [notes, bind_assoc]
          refine bind_congr fun result => ?_
          cases result <;> simp [given]

/-- Making a change is asking for it, and leaving what it gives back aside. -/
theorem run_eq_ask [LawfulMonad m] (b : Backing m) (s : Durable) (c : Change) :
    c.run b s = (fun after => after.1.map fun _ => after.2) <$> c.ask b s := by
  rw [run_eq, ask_eq]
  cases c.profile? s.roster with
  | error fault => simp [Except.map]
  | ok p =>
      simp only [map_bind]
      refine bind_congr fun result => ?_
      cases result <;> simp [Except.map]

/-- What can come of a change: what it gives back, and the profiles afterwards. -/
inductive Comes (r : Roster) (c : Change) : Answer → Roster → Prop
  /-- The profiles do not allow it. -/
  | refused {fault : Fault} (h : c.profile? r = .error fault) : Comes r c (.error fault) r
  /-- The files fail it. -/
  | failed {p : Profile} (h : c.profile? r = .ok p) (fault : Files.Fault) :
      Comes r c (.error (.files fault)) r
  | made {p : Profile} (h : c.profile? r = .ok p) : Comes r c (.ok (c.given p)) (r.insert p)

/-- What a change leaves of the profiles, in order.  A new profile comes last; otherwise the one
profile that the change is about is changed, and all others stay as they are. -/
inductive Led (r : Roster) : Change → Answer → List Profile → Prop
  | failed (c : Change) (fault : Fault) : Led r c (.error fault) r.toList
  | added (p : Profile) {id : NetworkId} (h : ∀ q ∈ r.toList, q.id < id) :
      Led r (.add p) (.ok (some id)) (r.toList ++ [{ p with id }])
  | updated (p : Profile) (uid : Uid) (hname : p.ssid ≠ "") (h : ∃ q ∈ r.toList, q.id = p.id) :
      Led r (.update p uid) (.ok none) (r.toList.map fun q => if q.id = p.id then p else q)
  | enabled (id : NetworkId) (uid : Uid) (h : ∃ q ∈ r.toList, q.id = id) :
      Led r (.enable id uid) (.ok none)
        (r.toList.map fun q => if q.id = id then { q with enabled := true } else q)

variable {r r' : Roster} {c : Change} {answer : Answer}

/-- **A change leaves all profiles but its own as they are.** -/
theorem Comes.led (h : c.Comes r answer r') : c.Led r answer r'.toList := by
  cases h with
  | refused => exact .failed c _
  | failed => exact .failed c _
  | made h =>
      cases c with
      | add p =>
          rw [profile?] at h
          cases hfree : r.freeId with
          | error last =>
              rw [hfree] at h
              cases h
          | ok id =>
              rw [hfree] at h
              cases h
              have hlast : ∀ q ∈ r.toList, q.id < id := fun q => Roster.lt_of_freeId hfree
              have hlist : (r.insert { p with id }).toList = r.toList ++ [{ p with id }] :=
                insertProfile_of_last hlast
              rw [hlist]
              exact .added p hlast
      | update p uid =>
          obtain ⟨hname, ⟨old, hfound⟩, rfl⟩ := (profile?_update_eq_ok uid).1 h
          rw [Roster.toList_insert_of_find? hfound]
          exact .updated _ uid hname
            ⟨old, List.mem_of_find?_eq_some hfound, Roster.id_of_find? hfound⟩
      | enable id uid =>
          obtain ⟨p, hfound, rfl⟩ := (profile?_enable_eq_ok uid).1 h
          have hid : p.id = id := Roster.id_of_find? hfound
          have hsame : (r.insert { p with enabled := true }).toList =
              r.toList.map fun q => if q.id = id then { q with enabled := true } else q := by
            subst hid
            rw [Roster.toList_insert_of_find? (p := { p with enabled := true }) hfound]
            refine List.map_congr_left fun q hq => ?_
            by_cases hqp : q.id = p.id
            · -- ids are not shared, so the profile that is enabled is the one that was found
              have hfound' := Roster.mem_toList_iff.1 hq
              rw [hqp, hfound] at hfound'
              obtain rfl := Option.some.inj hfound'
              rfl
            · rw [if_neg hqp, if_neg hqp]
          rw [hsame]
          exact .enabled id uid ⟨p, List.mem_of_find?_eq_some hfound, hid⟩

end Change

/-! ## one change -/

section State

variable {σ : Type} (b : Backing (StateM σ))

/-- Whatever the files are, a commit gives a store the new profiles, or the files fail. -/
theorem commit_comes (s : Durable) (next : Roster) (t : σ) :
    ∃ result t', (s.commit b next).run t = (result, t') ∧
      (result = .ok { s with roster := next } ∨ ∃ fault, result = .error (.files fault)) := by
  rw [Durable.commit, StateT.run_bind]
  obtain ⟨written | _, t₁⟩ :=
    (b.write (Durable.draftPath s.path) (Document.write next.toList)).run t
  · exact ⟨_, t₁, rfl, .inr ⟨written, rfl⟩⟩
  · change ∃ result t', StateT.run (b.rename (Durable.draftPath s.path) s.path >>= _) t₁ =
      (result, t') ∧ _
    rw [StateT.run_bind]
    obtain ⟨renamed | _, t₂⟩ := (b.rename (Durable.draftPath s.path) s.path).run t₁
    · exact ⟨_, t₂, rfl, .inr ⟨renamed, rfl⟩⟩
    · exact ⟨_, t₂, rfl, .inl rfl⟩

/-- **A change comes to one of three things**, whatever the files are. -/
theorem Change.ask_comes (s : Durable) (c : Change) (t : σ) :
    ∃ answer r t', (c.ask b s).run t = ((answer, { s with roster := r }), t') ∧
      c.Comes s.roster answer r := by
  rw [ask_eq]
  cases hp : c.profile? s.roster with
  | error fault => exact ⟨_, s.roster, t, rfl, .refused hp⟩
  | ok p =>
      obtain ⟨result, t₁, hcommit, hresult⟩ := commit_comes b s (s.roster.insert p) t
      dsimp only
      rw [StateT.run_bind, hcommit]
      rcases hresult with rfl | ⟨fault, rfl⟩
      · refine ⟨.ok (c.given p), s.roster.insert p, ((c.notes.forM b.trace).run t₁).2, ?_, .made hp⟩
        change StateT.run (c.notes.forM b.trace >>= _) t₁ = _
        rw [StateT.run_bind]
        rfl
      · exact ⟨_, s.roster, t₁, rfl, .failed hp fault⟩

/-- A store that is opened holds what was read, the last profile of each id. -/
theorem load_comes {path : Files.Path} {s : Durable} {t t₀ : σ}
    (h : (Durable.load b path).run t = (.ok s, t₀)) :
    ∃ ps, s = ⟨path, .ofList ps⟩ ∧
      Durable.rosterOf ((b.read path).run t).1 = .ok (.ofList ps) := by
  rw [Durable.load, StateT.run_bind] at h
  dsimp only [bind, Id.run] at h
  cases hroster : Durable.rosterOf ((b.read path).run t).1 with
  | error fault =>
      rw [hroster] at h
      cases h
  | ok r =>
      rw [hroster] at h
      obtain ⟨hs, -⟩ := Prod.mk.inj h
      obtain rfl := Except.ok.inj hs
      exact ⟨r.toList, by rw [Roster.ofList_toList], by rw [Roster.ofList_toList]⟩

/-! ## changes in turn -/

/-- Asks for changes in turn: what each of them has given back, and the store afterwards. -/
def Durable.series (s : Durable) : List Change → StateM σ (List (Change × Answer) × Durable)
  | [] => return ([], s)
  | c :: cs => do
    let (answer, s) ← c.ask b s
    let (log, s) ← s.series cs
    return ((c, answer) :: log, s)

/-- What can come of changes in turn. -/
inductive Comes : Roster → List (Change × Answer) → Roster → Prop
  | nil (r : Roster) : Comes r [] r
  | cons {r r' r'' : Roster} {c : Change} {answer : Answer} {log : List (Change × Answer)}
      (h : c.Comes r answer r') (hlog : Comes r' log r'') : Comes r ((c, answer) :: log) r''

/-- **What a series of changes comes to is known from what they have given back.** -/
theorem series_comes (s : Durable) (cs : List Change) (t : σ) :
    ∃ log r t', (s.series b cs).run t = ((log, { s with roster := r }), t') ∧
      log.map Prod.fst = cs ∧ Comes s.roster log r := by
  induction cs generalizing s t with
  | nil => exact ⟨[], s.roster, t, rfl, rfl, .nil _⟩
  | cons c cs ih =>
      obtain ⟨answer, r₁, t₁, hask, hcomes⟩ := c.ask_comes b s t
      obtain ⟨log, r, t', hseries, hchanges, hlog⟩ := ih { s with roster := r₁ } t₁
      refine ⟨(c, answer) :: log, r, t', ?_, congrArg (c :: ·) hchanges, .cons hcomes hlog⟩
      rw [Durable.series, StateT.run_bind, hask]
      change StateT.run (Durable.series b { s with roster := r₁ } cs >>= _) t₁ = _
      rw [StateT.run_bind, hseries]
      rfl

end State

/-- Where files can be put, a single change that the profiles allow is made. -/
theorem series_singleton {s : Durable} {c : Change} {p : Profile} {t : Bench}
    (hfiles : Durable.Writable t.tree s.path) (hp : c.profile? s.roster = .ok p) :
    ∃ t', (s.series Backing.bench [c]).run t =
      (([(c, .ok (c.given p))], { s with roster := s.roster.insert p }), t') := by
  obtain ⟨tree, hcommit, -⟩ := Durable.commit_ok hfiles (s.roster.insert p)
  refine ⟨⟨tree, t.notes ++ c.notes⟩, ?_⟩
  simp only [Durable.series, Change.ask_eq, hp, StateT.run_bind, hcommit]
  change StateT.run (c.notes.forM Backing.bench.trace >>= _) { t with tree } >>= _ = _
  rw [StateT.run_bind, Backing.forM_trace_bench]
  rfl

end MacConsent.Store
