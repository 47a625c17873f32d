import MacConsent.Proofs.Store.Series
import MacConsent.Notice

/-!
# MacConsent.Proofs.Store.Numbering

The ids that a store gives to new profiles.  They come after all ids that were
there before (`Comes.ids`), and they are the numbers after the largest one, in
turn: neither a failure nor a change of another kind uses one up
(`Comes.assigned_val`).  The number of the invalid id is not left out.  So a
store whose ids are all smaller gives it to a profile at last, and that profile
is what an event without an id then asks about (`invalid_assigned_iff`).
-/

namespace MacConsent.Store

/-- The ids that changes have given to new profiles, in order. -/
def assigned (log : List (Change × Answer)) : List NetworkId :=
  log.filterMap fun entry => entry.2.toOption.join

/-- The number of the next new profile, which need not be an id any more. -/
def Roster.nextNumber (r : Roster) : Int :=
  match r.lastId? with
  | none => 0
  | some last => last.val + 1

variable {r r' : Roster} {c : Change} {answer : Answer} {ps : List Profile}
variable {log : List (Change × Answer)}

/-! ## the ids of a roster -/

theorem Roster.lastId?_eq (r : Roster) : r.lastId? = (r.toList.map Profile.id).getLast? :=
  List.getLast?_map.symm

theorem Roster.val_of_freeId {id : NetworkId} (h : r.freeId = .ok id) : id.val = r.nextNumber := by
  rw [freeId] at h
  rw [nextNumber]
  cases hlast : r.lastId? with
  | none =>
      rw [hlast] at h
      cases h
      rfl
  | some last =>
      rw [hlast] at h
      dsimp only at h ⊢
      split at h
      · next hnext =>
          cases h
          exact NetworkId.val_of_next? hnext
      · cases h

/-- A change keeps all ids, and adds the one that it gives back. -/
theorem Change.Led.ids (h : c.Led r answer ps) :
    ps.map Profile.id = r.toList.map Profile.id ++ answer.toOption.join.toList := by
  cases h with
  | failed c fault => exact (List.append_nil _).symm
  | added p h => exact List.map_append
  | updated p uid hname h =>
      refine (List.map_map.trans (List.map_congr_left fun q _ => ?_)).trans (List.append_nil _).symm
      by_cases hq : q.id = p.id <;> simp [hq]
  | enabled id uid h =>
      refine (List.map_map.trans (List.map_congr_left fun q _ => ?_)).trans (List.append_nil _).symm
      by_cases hq : q.id = id <;> simp [hq]

theorem eq_ok_of_join {id : NetworkId} (h : answer.toOption.join = some id) :
    answer = .ok (some id) := by
  cases answer with
  | error fault => cases h
  | ok given => exact congrArg Except.ok h

/-- An id that is given back has the next number. -/
theorem Change.Comes.val_of_given {id : NetworkId} (h : c.Comes r (.ok (some id)) r') :
    id.val = r.nextNumber := by
  cases c with
  | add p =>
      generalize hanswer : (.ok (some id) : Answer) = answer at h
      cases h with
      | refused | failed => cases hanswer
      | made h =>
          rw [profile?] at h
          cases hfree : r.freeId with
          | error last =>
              rw [hfree] at h
              cases h
          | ok next =>
              rw [hfree] at h
              cases h
              cases hanswer
              exact Roster.val_of_freeId hfree
  | update p uid | enable id uid =>
      generalize hanswer : (.ok (some id) : Answer) = answer at h
      cases h <;> cases hanswer

/-- A change uses up the next number exactly if it gives an id back. -/
theorem Change.Comes.nextNumber (h : c.Comes r answer r') :
    r'.nextNumber = r.nextNumber + answer.toOption.join.toList.length := by
  have hids := h.led.ids
  rw [Roster.nextNumber, Roster.lastId?_eq, hids]
  cases hid : answer.toOption.join with
  | none => simp [Roster.nextNumber, Roster.lastId?_eq]
  | some id =>
      have hval : id.val = r.nextNumber := (eq_ok_of_join hid ▸ h).val_of_given
      simp [hval]

/-! ## the ids of a series -/

theorem assigned_cons (c : Change) (answer : Answer) (log : List (Change × Answer)) :
    assigned ((c, answer) :: log) = answer.toOption.join.toList ++ assigned log := by
  rw [assigned, List.filterMap_cons]
  cases answer.toOption.join <;> rfl

/-- **A series of changes keeps all ids**, and those that it has assigned come after them. -/
theorem Comes.ids (h : Comes r log r') :
    r'.toList.map Profile.id = r.toList.map Profile.id ++ assigned log := by
  induction h with
  | nil r => exact (List.append_nil _).symm
  | cons h hlog ih => rw [ih, h.led.ids, assigned_cons, List.append_assoc]

/-- **New profiles get the next numbers, one after the other.** -/
theorem Comes.assigned_val (h : Comes r log r') {n : Nat} {id : NetworkId}
    (hid : (assigned log)[n]? = some id) : id.val = r.nextNumber + n := by
  induction h generalizing n with
  | nil r => cases hid
  | @cons r r' r'' c answer log h hlog ih =>
      have hnext := h.nextNumber
      rw [assigned_cons] at hid
      cases hgiven : answer.toOption.join with
      | none =>
          rw [hgiven] at hid hnext
          have := ih hid
          simp only [Option.toList_none, List.length_nil] at hnext
          omega
      | some given =>
          rw [hgiven] at hid hnext
          simp only [Option.toList_some, List.length_singleton] at hnext
          cases n with
          | zero =>
              obtain rfl : given = id := Option.some.inj hid
              have := (eq_ok_of_join hgiven ▸ h).val_of_given
              omega
          | succ n =>
              have := ih (n := n) hid
              omega

/-- Which ids a series assigns goes by their numbers. -/
theorem Comes.mem_assigned_iff (h : Comes r log r') (id : NetworkId) :
    id ∈ assigned log ↔
      r.nextNumber ≤ id.val ∧ id.val < r.nextNumber + (assigned log).length := by
  constructor
  · intro hid
    obtain ⟨n, hn, hget⟩ := List.mem_iff_getElem.1 hid
    have := h.assigned_val (List.getElem?_eq_some_iff.2 ⟨hn, hget⟩)
    omega
  · rintro ⟨hle, hlt⟩
    have hn : (id.val - r.nextNumber).toNat < (assigned log).length := by omega
    have hval := h.assigned_val (List.getElem?_eq_getElem hn)
    have hid : (assigned log)[(id.val - r.nextNumber).toNat] = id :=
      NetworkId.ext_val (by omega)
    exact hid ▸ List.getElem_mem hn

/-! ## the invalid id -/

theorem Comes.invalid_mem_assigned_iff (h : Comes r log r') :
    .invalid ∈ assigned log ↔
      ∃ last, r.lastId? = some last ∧ last < .invalid ∧
        NetworkId.invalid.val ≤ last.val + (assigned log).length := by
  rw [h.mem_assigned_iff, Roster.nextNumber]
  cases r.lastId? with
  | none => simp [NetworkId.invalid]
  | some last =>
      have hreach : last.val + 1 ≤ -1 ∧ -1 < last.val + 1 + (assigned log).length ↔
          last.val < -1 ∧ -1 ≤ last.val + (assigned log).length := by omega
      simpa [NetworkId.lt_def, NetworkId.invalid] using hreach

/-- **When the invalid id is given to a profile.**  A store is opened, and it is asked for one
change after another, whatever its files are and whatever becomes of them.  It assigns the invalid
id exactly if the largest id that it has read is smaller, and enough profiles are added to get
there.  In these cases, and in no others, an event without an id asks about a profile that was
added. -/
theorem invalid_assigned_iff {σ : Type} (b : Backing (StateM σ)) {path : Files.Path} {s : Durable}
    {t t₀ : σ} (hload : (Durable.load b path).run t = (.ok s, t₀)) (cs : List Change) :
    ∃ log r t₁, (s.series b cs).run t₀ = ((log, ⟨path, r⟩), t₁) ∧ log.map Prod.fst = cs ∧
      (.invalid ∈ assigned log ↔
        ∃ last, s.roster.lastId? = some last ∧ last < .invalid ∧
          NetworkId.invalid.val ≤ last.val + (assigned log).length) ∧
      ((∃ event : TapEvent, event.networkId = none ∧ ∃ id identity p,
          event.target? = some (id, identity) ∧ id ∈ assigned log ∧ r.find? id = some p) ↔
        .invalid ∈ assigned log) := by
  obtain ⟨ps, rfl, -⟩ := load_comes b hload
  obtain ⟨log, r, t₁, hseries, hchanges, hcomes⟩ := series_comes b ⟨path, .ofList ps⟩ cs t₀
  refine ⟨log, r, t₁, hseries, hchanges, hcomes.invalid_mem_assigned_iff, ?_, fun hassigned => ?_⟩
  · rintro ⟨event, hnone, id, identity, p, htarget, hassigned, -⟩
    rw [TapEvent.target?, hnone] at htarget
    split at htarget
    · obtain ⟨rfl, -⟩ := Prod.mk.inj (Option.some.inj htarget)
      exact hassigned
    · cases htarget
  · have hlisted : .invalid ∈ r.toList.map Profile.id :=
      hcomes.ids ▸ List.mem_append_right _ hassigned
    obtain ⟨p, hp, hid⟩ := List.mem_map.1 hlisted
    exact ⟨⟨showDetailsAction, none, none⟩, rfl, .invalid, none, p, rfl, hassigned,
      hid ▸ Roster.mem_toList_iff.1 hp⟩

/-- Next to a profile of the id -2, the first one that is added gets the invalid id. -/
theorem invalid_assigned_next :
    let stray : Profile := { id := ⟨-2, by decide, by decide⟩, ssid := "Bar", security := .wep }
    let cafe : Profile := { id := .first, ssid := "Cafe", security := .unsecured }
    let tree : Files.Tree := ⟨[(["profiles.xml"], .file (some (Document.write [stray])))]⟩
    ∃ s t₀ r t₁,
      (Durable.load Backing.bench Durable.defaultPath).run ⟨tree, []⟩ = (.ok s, t₀) ∧
      (s.series Backing.bench [.add cafe]).run t₀ =
        (([(.add cafe, .ok (some .invalid))], ⟨Durable.defaultPath, r⟩), t₁) ∧
      ∃ event : TapEvent, event.networkId = none ∧ ∃ id identity p,
        event.target? = some (id, identity) ∧ r.find? id = some p := by
  intro stray cafe tree
  have hroster : Durable.rosterOf (tree.read Durable.defaultPath) = .ok (.ofList [stray.kept]) :=
    Durable.rosterOf_write (.ofList [stray])
  have hload := Durable.load_run (b := ⟨tree, []⟩) hroster
  have hfree : (Roster.ofList [stray.kept]).freeId = .ok .invalid := rfl
  have hcafe : (Change.add cafe).profile? (.ofList [stray.kept]) =
      .ok { cafe with id := .invalid } := by
    rw [Change.profile?, hfree]
  have hfiles : Durable.Writable tree Durable.defaultPath := .of_document _
  obtain ⟨t₁, hadd⟩ := series_singleton (s := ⟨_, _⟩) (t := ⟨tree, _⟩) hfiles hcafe
  obtain ⟨log, r, t₁', hseries, -, -, haddressed⟩ :=
    invalid_assigned_iff Backing.bench hload [.add cafe]
  obtain ⟨hafter, -⟩ := Prod.mk.inj (hseries.symm.trans hadd)
  obtain ⟨rfl, -⟩ := Prod.mk.inj hafter
  obtain ⟨event, hnone, id, identity, p, htarget, -, hfound⟩ :=
    haddressed.2 (List.mem_singleton_self _)
  exact ⟨_, _, r, _, hload, hseries, event, hnone, id, identity, p, htarget, hfound⟩

end MacConsent.Store
