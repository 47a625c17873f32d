import Mathlib
import MacConsent.Proofs.Store.Numbering

/-!
# MacConsent.Proofs.Store.Keyed

A store that keeps its profiles in a table, under keys of their own.  Nothing
about a table says that a profile stands under its own id, or that a new one is
given a larger id than those that are there: a table holds what its changes put
where.  But a table that starts from a document holds the profiles of a roster,
each under its id, and stays that way (`Keyed.series_keyed`), so what is shown
of rosters holds of tables too.
-/

namespace MacConsent.Store

/-- Profiles under keys. -/
abbrev Table := Std.ExtTreeMap NetworkId Profile (compareOn NetworkId.val)

instance : Std.LawfulEqCmp (compareOn NetworkId.val) where
  eq_of_compare h := NetworkId.ext_val (compare_eq_iff_eq.1 h)

namespace Table

/-- The profiles of a table, in the order of their keys. -/
def profiles (t : Table) : List Profile := t.toList.map Prod.snd

/-- The table with a profile under its own id. -/
def put (t : Table) (p : Profile) : Table := t.insert p.id p

/-- The table of profiles that are put in, one after the other. -/
def ofProfiles (ps : List Profile) : Table := ps.foldl put ∅

/-- The key after the last one; if that leaves no room for another, the last one. -/
def keyAfter : Option NetworkId → Except NetworkId NetworkId
  | none => .ok .first
  | some last =>
    match last.next? with
    | some key => .ok key
    | none => .error last

/-- The next key that is free. -/
def freeKey (t : Table) : Except NetworkId NetworkId := keyAfter t.maxKey?

/-- The table after a profile was put under its id. -/
theorem getElem?_put (t : Table) (p : Profile) (id : NetworkId) :
    (t.put p)[id]? = if p.id = id then some p else t[id]? := by
  simp only [put, Std.ExtTreeMap.getElem?_insert, Std.LawfulEqCmp.compare_eq_iff_eq]

/-- Of several profiles under one id, the last stays. -/
theorem getElem?_foldl_put (t : Table) (ps : List Profile) (id : NetworkId) :
    (ps.foldl put t)[id]? = (ps.reverse.find? fun p => p.id == id).or t[id]? := by
  induction ps generalizing t with
  | nil => rfl
  | cons p ps ih =>
      have hp : ([p].find? fun p => p.id == id).or t[id]? = (t.put p)[id]? := by
        rw [getElem?_put, List.find?_singleton]
        by_cases hid : p.id = id <;> simp [hid]
      rw [List.foldl_cons, ih, List.reverse_cons, List.find?_append, Option.or_assoc, hp]

end Table

namespace Roster

/-- The profiles of a roster, each under its id. -/
def table (r : Roster) : Table := .ofProfiles r.toList

variable (r : Roster) {p : Profile} {id : NetworkId}

/-- The table of a roster finds what the roster finds. -/
theorem getElem?_table (id : NetworkId) : r.table[id]? = r.find? id := by
  rw [table, Table.ofProfiles, Table.getElem?_foldl_put, Std.ExtTreeMap.getElem?_empty, Option.or_none,
    ← find?_ofList, ofList_toList]

/-- The keys of the table are the ids of the roster. -/
theorem mem_table_iff : id ∈ r.table ↔ (r.find? id).isSome := by
  rw [← Std.ExtTreeMap.isSome_getElem?_iff_mem, getElem?_table]

/-- The last of each id counts, in a table as in a roster. -/
theorem table_ofList (ps : List Profile) : (ofList ps).table = .ofProfiles ps := by
  refine Std.ExtTreeMap.ext_getElem? fun id => ?_
  rw [getElem?_table, find?_ofList, Table.ofProfiles, Table.getElem?_foldl_put,
    Std.ExtTreeMap.getElem?_empty, Option.or_none]

/-- A profile that is inserted is put under its id. -/
theorem table_insert (p : Profile) : (r.insert p).table = r.table.put p := by
  refine Std.ExtTreeMap.ext_getElem? fun id => ?_
  rw [getElem?_table, find?_insert, Table.getElem?_put, getElem?_table]

theorem table_enabled (h : r.find? id = some p) :
    (r.insert { p with enabled := true }).table =
      r.table.modify id fun q => { q with enabled := true } := by
  refine Std.ExtTreeMap.ext_getElem? fun id' => ?_
  rw [getElem?_table, find?_insert, Std.ExtTreeMap.getElem?_modify]
  simp only [Std.LawfulEqCmp.compare_eq_iff_eq, getElem?_table, h, id_of_find? h, Option.map_some]

/-- The table is in the order of the roster. -/
theorem toList_table : r.table.toList = r.toList.map fun p => (p.id, p) := by
  have hkeys : ∀ a b : NetworkId × Profile,
      compareOn NetworkId.val a.1 b.1 = .lt ↔ a.1 < b.1 := fun a b => by
    rw [NetworkId.lt_def]
    exact Std.compare_eq_lt
  have hsorted : (r.toList.map fun p => (p.id, p)).Pairwise fun a b => a.1 < b.1 :=
    List.pairwise_map.2 r.ascending
  have hsorted' : r.table.toList.Pairwise fun a b => a.1 < b.1 :=
    Std.ExtTreeMap.ordered_keys_toList.imp fun h => (hkeys _ _).1 h
  have hirr : ∀ {a b : NetworkId × Profile}, a.1 < b.1 → a ≠ b := by
    rintro a b hlt rfl
    rw [NetworkId.lt_def] at hlt
    omega
  refine List.Perm.eq_of_pairwise (fun a b _ _ hab hba => ?_) hsorted' hsorted ?_
  · rw [NetworkId.lt_def] at hab hba
    omega
  · refine (List.perm_ext_iff_of_nodup (hsorted'.imp hirr) (hsorted.imp hirr)).2 ?_
    rintro ⟨id, p⟩
    rw [Std.ExtTreeMap.mem_toList_iff_getElem?_eq_some, getElem?_table, List.mem_map]
    constructor
    · intro h
      exact ⟨p, mem_toList_iff.2 (id_of_find? h ▸ h), by rw [id_of_find? h]⟩
    · rintro ⟨q, hq, heq⟩
      cases heq
      exact mem_toList_iff.1 hq

/-- The profiles of the table are those of the roster. -/
theorem profiles_table : r.table.profiles = r.toList := by
  rw [Table.profiles, toList_table, List.map_map]
  exact List.map_id' _

theorem maxKey?_table : r.table.maxKey? = r.lastId? := by
  cases hlast : r.lastId? with
  | none =>
      rw [lastId?, Option.map_eq_none_iff, List.getLast?_eq_none_iff] at hlast
      rw [Std.ExtTreeMap.maxKey?_eq_none_iff, table, hlast]
      rfl
  | some last =>
      rw [Std.ExtTreeMap.maxKey?_eq_some_iff_mem_and_forall]
      constructor
      · obtain ⟨p, hp, rfl⟩ := Option.map_eq_some_iff.1 hlast
        rw [mem_table_iff, mem_toList_iff.1 (List.mem_of_getLast? hp)]
        rfl
      · intro id hid
        obtain ⟨p, hp⟩ := Option.isSome_iff_exists.1 ((r.mem_table_iff).1 hid)
        obtain rfl := id_of_find? hp
        exact Int.isLE_compare.2 (le_of_lastId? hlast (mem_toList_iff.2 hp))

theorem freeKey_table : r.table.freeKey = r.freeId := congrArg Table.keyAfter r.maxKey?_table

end Roster

/-! ## a change of a table -/

/-- The table that a change leads to and the id that it gives back, unless the table does not
allow it. -/
def Change.table? (t : Table) : Change → Except Fault (Option NetworkId × Table)
  | .add p =>
    match t.freeKey with
    | .error last => .error (.rejected last .noFreeId)
    | .ok key => .ok (some key, t.insert key { p with id := key })
  | .update p _ =>
    if p.ssid = "" then .error (.rejected p.id .emptyName)
    else if p.id ∈ t then .ok (none, t.insert p.id p)
    else .error (.unknownProfile p.id)
  | .enable key _ =>
    if key ∈ t then .ok (none, t.modify key fun p => { p with enabled := true })
    else .error (.unknownProfile key)

/-- A change does to the table of a roster what it does to the roster. -/
theorem Change.table?_table (c : Change) (r : Roster) :
    c.table? r.table = (c.profile? r).map fun p => (c.given p, (r.insert p).table) := by
  cases c with
  | add p =>
      rw [table?, profile?, Roster.freeKey_table]
      cases r.freeId with
      | error last => rfl
      | ok id =>
          simp only [Except.map, given, Roster.table_insert]
          rfl
  | update p uid =>
      rw [table?, profile?]
      by_cases hname : p.ssid = ""
      · rw [if_pos hname, if_pos hname]
        rfl
      · rw [if_neg hname, if_neg hname]
        cases hfound : r.find? p.id with
        | none =>
            have hnot : p.id ∉ r.table := by simp [Roster.mem_table_iff, hfound]
            rw [if_neg hnot]
            rfl
        | some q =>
            have hthere : p.id ∈ r.table := by simp [Roster.mem_table_iff, hfound]
            rw [if_pos hthere]
            simp only [Except.map, given, Roster.table_insert]
            rfl
  | enable id uid =>
      rw [table?, profile?]
      cases hfound : r.find? id with
      | none =>
          have hnot : id ∉ r.table := by simp [Roster.mem_table_iff, hfound]
          rw [if_neg hnot]
          rfl
      | some p =>
          have hthere : id ∈ r.table := by simp [Roster.mem_table_iff, hfound]
          rw [if_pos hthere]
          simp only [Except.map, given, r.table_enabled hfound]

/-! ## a store of a table -/

/-- The path of the document, and the table of the profiles. -/
structure Keyed where
  path : Files.Path
  table : Table

/-- The store with its profiles in a table. -/
def Durable.keyed (s : Durable) : Keyed := ⟨s.path, s.roster.table⟩

namespace Keyed

variable {m : Type → Type} [Monad m] (b : Backing m)

/-- The table of a document that was read; a missing document holds no profiles. -/
def tableOf : Except Files.Fault String → Except Fault Table
  | .error .missing => .ok ∅
  | .error fault => .error (.files fault)
  | .ok text =>
    match Document.read text with
    | .error fault => .error (.document fault)
    | .ok ps => .ok (.ofProfiles ps)

/-- The store of the document at a path. -/
def load (path : Files.Path) : m (Except Fault Keyed) := do
  match tableOf (← b.read path) with
  | .error fault => return .error fault
  | .ok table =>
    b.trace (.profilesLoaded path table.profiles.length)
    return .ok ⟨path, table⟩

/-- Writes a table to the document, and only then makes it the table of the store. -/
def commit (s : Keyed) (next : Table) : m (Except Fault Keyed) := do
  match ← b.write (Durable.draftPath s.path) (Document.write next.profiles) with
  | .error fault => return .error (.files fault)
  | .ok () =>
    match ← b.rename (Durable.draftPath s.path) s.path with
    | .error fault => return .error (.files fault)
    | .ok () => return .ok { s with table := next }

/-- Asks for a change: what it gives back, and the store afterwards. -/
def ask (s : Keyed) (c : Change) : m (Answer × Keyed) := do
  match c.table? s.table with
  | .error fault => return (.error fault, s)
  | .ok (given, next) =>
    match ← s.commit b next with
    | .error fault => return (.error fault, s)
    | .ok s =>
      c.notes.forM b.trace
      return (.ok given, s)

/-- Asks for changes in turn: what each of them has given back, and the store afterwards. -/
def series (s : Keyed) : List Change → m (List (Change × Answer) × Keyed)
  | [] => return ([], s)
  | c :: cs => do
    let (answer, s) ← s.ask b c
    let (log, s) ← s.series cs
    return ((c, answer) :: log, s)

variable [LawfulMonad m]

/-- A document opens as the table of its roster. -/
theorem tableOf_eq (found : Except Files.Fault String) :
    tableOf found = (Durable.rosterOf found).map Roster.table := by
  cases found with
  | error fault => cases fault <;> rfl
  | ok text =>
      rw [tableOf, Durable.rosterOf]
      cases Document.read text with
      | error fault => rfl
      | ok ps => exact congrArg Except.ok (Roster.table_ofList ps).symm

/-- A store of a table opens as one of a roster does. -/
theorem load_keyed (path : Files.Path) :
    load b path = (·.map Durable.keyed) <$> Durable.load b path := by
  rw [load, Durable.load, map_bind]
  refine bind_congr fun found => ?_
  rw [tableOf_eq]
  cases Durable.rosterOf found with
  | error fault => simp [Except.map]
  | ok r => simp [Except.map, Durable.keyed, Roster.profiles_table, Roster.size]

/-- **Committing the table is committing the roster.** -/
theorem commit_keyed (s : Durable) (next : Roster) :
    s.keyed.commit b next.table = (·.map Durable.keyed) <$> s.commit b next := by
  rw [commit, Durable.commit, map_bind, Roster.profiles_table]
  refine bind_congr fun written => ?_
  cases written with
  | error fault => simp [Except.map]
  | ok _ =>
      simp only [map_bind]
      refine bind_congr fun renamed => ?_
      cases renamed <;> simp [Except.map, Durable.keyed]

/-- **A change of the table is the change of the roster**, for any backing. -/
theorem ask_keyed (s : Durable) (c : Change) :
    s.keyed.ask b c = Prod.map id Durable.keyed <$> c.ask b s := by
  rw [ask, Change.ask_eq, Durable.keyed, Change.table?_table]
  cases c.profile? s.roster with
  | error fault => simp [Except.map, Durable.keyed]
  | ok p =>
      have hcommit := commit_keyed b s (s.roster.insert p)
      rw [Durable.keyed] at hcommit
      simp only [Except.map, hcommit, map_bind, bind_map_left]
      refine bind_congr fun result => ?_
      cases result <;> simp [Durable.keyed]

/-- **A table that holds the profiles of a roster goes on to do so**, and changes give back the
same. -/
theorem series_keyed {σ : Type} (b : Backing (StateM σ)) (s : Durable) (cs : List Change) :
    s.keyed.series b cs = Prod.map id Durable.keyed <$> s.series b cs := by
  induction cs generalizing s with
  | nil => simp [series, Durable.series]
  | cons c cs ih =>
      rw [series, Durable.series, ask_keyed, map_bind, bind_map_left]
      refine bind_congr fun after => ?_
      simp only [Prod.map, id, ih, map_bind, bind_map_left, map_pure]

end Keyed

/-! ## histories -/

variable {r r' : Roster} {answer : Answer} {last : NetworkId}

/-- A change that fails leaves all profiles as they are. -/
theorem Change.Led.eq_of_error {c : Change} {fault : Fault} {ps : List Profile}
    (h : c.Led r (.error fault) ps) : ps = r.toList := by
  cases h
  rfl

/-- **An addition is rejected exactly if the last id is the largest of all.** -/
theorem Change.Comes.add_rejected_iff {p : Profile} {reason : Refusal}
    (h : (Change.add p).Comes r answer r') :
    answer = .error (.rejected last reason) ↔
      reason = .noFreeId ∧ r.lastId? = some last ∧ last.val = 2147483647 := by
  rw [← Roster.freeId_eq_error_iff]
  cases h with
  | refused h =>
      rw [profile?] at h
      cases hfree : r.freeId with
      | ok id =>
          rw [hfree] at h
          cases h
      | error other =>
          rw [hfree] at h
          cases h
          simp [and_comm, eq_comm]
  | failed h fault | made h =>
      rw [profile?] at h
      cases hfree : r.freeId with
      | error other =>
          rw [hfree] at h
          cases h
      | ok id => simp

/-- The ids that a series has assigned ascend. -/
theorem Comes.assigned_pairwise {log : List (Change × Answer)} (h : Comes r log r') :
    (assigned log).Pairwise fun id id' => id < id' := by
  have hids : (r.toList.map Profile.id ++ assigned log).Pairwise fun id id' => id < id' :=
    h.ids ▸ List.pairwise_map.2 r'.ascending
  exact (List.pairwise_append.1 hids).2.1

/-- **What a store lists, whatever becomes of it.**  A store is opened, and it is asked for one
change after another, whatever its files are and whatever becomes of them.  It lists its profiles
in ascending order of their ids and finds each under its own id, as a store of a table does that
is opened and asked alike.  However it goes on, all ids stay, and those of new profiles come after
them, in ascending order.  The next change leaves all profiles but its own as they are, and an
addition is rejected exactly if the last id is the largest of all. -/
theorem history_frame {σ : Type} (b : Backing (StateM σ)) {path : Files.Path} {s : Durable}
    {t t₀ : σ} (hload : (Durable.load b path).run t = (.ok s, t₀)) (cs : List Change) :
    ∃ log r t₁, (s.series b cs).run t₀ = ((log, ⟨path, r⟩), t₁) ∧ log.map Prod.fst = cs ∧
      r.toList.Pairwise (fun p q => p.id < q.id) ∧
      (∀ id p, r.find? id = some p → p.id = id) ∧
      (∃ opened table, (Keyed.load b path).run t = (.ok opened, t₀) ∧
        (opened.series b cs).run t₀ = ((log, ⟨path, table⟩), t₁) ∧
        table.toList = r.toList.map fun p => (p.id, p)) ∧
      (∀ more, ∃ log' r' t₂, (Durable.series b ⟨path, r⟩ more).run t₁ = ((log', ⟨path, r'⟩), t₂) ∧
        r'.toList.map Profile.id = r.toList.map Profile.id ++ assigned log' ∧
        (assigned log').Pairwise fun id id' => id < id') ∧
      ∀ c : Change, ∃ answer r' t₂, (c.ask b ⟨path, r⟩).run t₁ = ((answer, ⟨path, r'⟩), t₂) ∧
        c.Led r answer r'.toList ∧
        ∀ p, c = .add p → ∀ last reason, answer = .error (.rejected last reason) ↔
          reason = .noFreeId ∧ r.lastId? = some last ∧ last.val = 2147483647 := by
  have hopen : (Keyed.load b path).run t = (.ok s.keyed, t₀) := by
    rw [Keyed.load_keyed, StateT.run_map, hload]
    rfl
  obtain ⟨ps, rfl, -⟩ := load_comes b hload
  obtain ⟨log, r, t₁, hseries, hchanges, hcomes⟩ := series_comes b ⟨path, .ofList ps⟩ cs t₀
  have hkeyed : (Keyed.series b ⟨path, (Roster.ofList ps).table⟩ cs).run t₀ =
      ((log, ⟨path, r.table⟩), t₁) := by
    have hsame := Keyed.series_keyed b ⟨path, .ofList ps⟩ cs
    rw [Durable.keyed] at hsame
    rw [hsame, StateT.run_map, hseries]
    rfl
  refine ⟨log, r, t₁, hseries, hchanges, r.ascending, fun id p => Roster.id_of_find?,
    ⟨_, _, hopen, hkeyed, r.toList_table⟩, fun more => ?_, fun c => ?_⟩
  · obtain ⟨log', r', t₂, hmore, -, hcomes'⟩ := series_comes b ⟨path, r⟩ more t₁
    exact ⟨log', r', t₂, hmore, hcomes'.ids, hcomes'.assigned_pairwise⟩
  · obtain ⟨answer, r', t₂, hask, hcome⟩ := c.ask_comes b ⟨path, r⟩ t₁
    refine ⟨answer, r', t₂, hask, hcome.led, ?_⟩
    rintro p rfl last reason
    exact hcome.add_rejected_iff

/-- Next to a profile of the largest id nothing can be added, and all stays as it is. -/
theorem history_frame_full :
    let last : NetworkId := ⟨2147483647, by decide, by decide⟩
    let bar : Profile := { id := last, ssid := "Bar", security := .wep, enabled := false }
    let tree : Files.Tree := ⟨[(["profiles.xml"], .file (some (Document.write [bar])))]⟩
    ∃ s t₀ r t₁,
      (Durable.load Backing.bench Durable.defaultPath).run ⟨tree, []⟩ = (.ok s, t₀) ∧
      (s.series Backing.bench [.enable last 1000]).run t₀ =
        (([(.enable last 1000, .ok none)], ⟨Durable.defaultPath, r⟩), t₁) ∧
      ∀ p, ∃ t₂, ((Change.add p).ask Backing.bench ⟨Durable.defaultPath, r⟩).run t₁ =
        ((.error (.rejected last .noFreeId), ⟨Durable.defaultPath, r⟩), t₂) := by
  intro last bar tree
  have hroster : Durable.rosterOf (tree.read Durable.defaultPath) = .ok (.ofList [bar.kept]) :=
    Durable.rosterOf_write (.ofList [bar])
  have hload := Durable.load_run (b := ⟨tree, []⟩) hroster
  have hallowed : (Change.enable last 1000).profile? (.ofList [bar.kept]) =
      .ok { bar.kept with enabled := true } := by
    have hfound : (Roster.ofList [bar.kept]).find? last = some bar.kept :=
      (Roster.ofList [bar.kept]).mem_toList_iff.1 (List.mem_singleton_self _)
    rw [Change.profile?, hfound]
  have hfiles : Durable.Writable tree Durable.defaultPath := .of_document _
  obtain ⟨t₁, hdone⟩ := series_singleton (s := ⟨_, _⟩) (t := ⟨tree, _⟩) hfiles hallowed
  obtain ⟨log, r, t₁', hseries, -, -, -, -, -, hnext⟩ :=
    history_frame Backing.bench hload [.enable last 1000]
  obtain ⟨hafter, -⟩ := Prod.mk.inj (hseries.symm.trans hdone)
  obtain ⟨rfl, hlive⟩ := Prod.mk.inj hafter
  have hlast : r.lastId? = some last := by
    rw [(Durable.mk.inj hlive).2]
    rfl
  refine ⟨_, _, r, t₁', hload, hseries, fun p => ?_⟩
  obtain ⟨answer, r', t₂, hask, hled, hrejected⟩ := hnext (.add p)
  obtain rfl := (hrejected p rfl last .noFreeId).2 ⟨rfl, hlast, rfl⟩
  obtain rfl : r' = r := Roster.ext_toList hled.eq_of_error
  exact ⟨t₂, hask⟩

end MacConsent.Store
