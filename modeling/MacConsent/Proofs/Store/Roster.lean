import MacConsent.Proofs.Document.RoundTrip
import MacConsent.Store.Roster

/-!
# MacConsent.Proofs.Store.Roster

A roster is determined by its list: the roster made from the list of a roster is
that roster (`ofList_toList`), and of any other list it keeps the last profile
of each id (`find?_ofList`).  What a document keeps of a roster is a roster
again, since a document keeps every id.
-/

namespace MacConsent.Store

/-- A profile of a larger id than all others comes last. -/
theorem insertProfile_of_last {p : Profile} {ps : List Profile} (h : ∀ q ∈ ps, q.id < p.id) :
    insertProfile p ps = ps ++ [p] := by
  induction ps with
  | nil => rfl
  | cons q qs ih =>
      have hq : q.id < p.id := h q List.mem_cons_self
      have hle : ¬ p.id < q.id := by
        rw [NetworkId.lt_def] at hq ⊢
        omega
      rw [insertProfile, if_neg hle, if_pos hq, ih fun r hr => h r (List.mem_cons_of_mem q hr)]
      rfl

/-- A profile takes the place of the one of its id. -/
theorem insertProfile_of_mem {p q : Profile} {ps : List Profile}
    (h : ps.Pairwise fun a b => a.id < b.id) (hq : q ∈ ps) (hid : q.id = p.id) :
    insertProfile p ps = ps.map fun x => if x.id = p.id then p else x := by
  induction ps with
  | nil => cases hq
  | cons x xs ih =>
      obtain ⟨hx, hxs⟩ := List.pairwise_cons.1 h
      rcases List.mem_cons.1 hq with rfl | hmem
      · have hirr : ¬ p.id < p.id := by
          rw [NetworkId.lt_def]
          omega
        have hlater : ∀ y ∈ xs, (if y.id = p.id then p else y) = y := fun y hy =>
          if_neg fun heq => hirr (by simpa only [hid, heq] using hx y hy)
        rw [insertProfile, hid, if_neg hirr, if_neg hirr, List.map_cons, if_pos hid,
          List.map_congr_left hlater, List.map_id']
      · have hlt : x.id < p.id := hid ▸ hx q hmem
        have hnot : ¬ p.id < x.id ∧ ¬ x.id = p.id := by
          rw [NetworkId.lt_def] at hlt ⊢
          exact ⟨by omega, fun heq => by rw [heq] at hlt; omega⟩
        rw [insertProfile, if_neg hnot.1, if_pos hlt, List.map_cons, if_neg hnot.2, ih hxs hmem]

namespace Roster

theorem ext_toList {r r' : Roster} (h : r.toList = r'.toList) : r = r' := by
  cases r; cases r'; cases h; rfl

/-- Profiles of ascending ids are put in one behind the other. -/
theorem toList_foldl_insert (r : Roster) {ps : List Profile}
    (h : (r.toList ++ ps).Pairwise fun p q => p.id < q.id) :
    (ps.foldl insert r).toList = r.toList ++ ps := by
  induction ps generalizing r with
  | nil => simp
  | cons p ps ih =>
      have hlast : ∀ q ∈ r.toList, q.id < p.id :=
        fun q hq => (List.pairwise_append.1 h).2.2 q hq p List.mem_cons_self
      have hinsert : (r.insert p).toList = r.toList ++ [p] := insertProfile_of_last hlast
      have happend : (r.insert p).toList ++ ps = r.toList ++ p :: ps := by
        rw [hinsert, List.append_assoc, List.singleton_append]
      rw [List.foldl_cons, ih (r.insert p) (happend ▸ h), happend]

/-- The roster of the list of a roster is that roster. -/
theorem ofList_toList (r : Roster) : ofList r.toList = r :=
  ext_toList (toList_foldl_insert empty r.ascending)

/-- What is found after a profile was put in. -/
theorem find?_insert (r : Roster) (p : Profile) (id : NetworkId) :
    (r.insert p).find? id = if p.id = id then some p else r.find? id := by
  split
  · next h =>
      subst h
      exact r.find?_insert_self p
  · next h => exact r.find?_insert_of_ne h

/-- A profile is found under its own id. -/
theorem id_of_find? {r : Roster} {id : NetworkId} {p : Profile} (h : r.find? id = some p) :
    p.id = id := by
  have hid : (p.id == id) = true := List.find?_some (p := fun p : Profile => p.id == id) h
  exact beq_iff_eq.1 hid

/-- Exactly the profiles of a roster are found under their ids. -/
theorem mem_toList_iff {r : Roster} {p : Profile} : p ∈ r.toList ↔ r.find? p.id = some p := by
  refine ⟨fun h => ?_, List.mem_of_find?_eq_some⟩
  rw [find?, List.find?_eq_some_iff_append]
  obtain ⟨before, after, hsplit⟩ := List.append_of_mem h
  refine ⟨beq_self_eq_true p.id, before, after, hsplit, fun q hq => ?_⟩
  have hlt : q.id < p.id :=
    (List.pairwise_append.1 (hsplit ▸ r.ascending)).2.2 q hq p List.mem_cons_self
  rw [Bool.not_eq_true', beq_eq_false_iff_ne]
  rintro heq
  rw [NetworkId.lt_def, heq] at hlt
  omega

/-- No id is larger than the last one. -/
theorem le_of_lastId? {r : Roster} {last : NetworkId} (h : r.lastId? = some last) {p : Profile}
    (hp : p ∈ r.toList) : p.id.val ≤ last.val := by
  obtain ⟨q, hlast, rfl⟩ := Option.map_eq_some_iff.1 h
  obtain ⟨init, hsplit⟩ := List.getLast?_eq_some_iff.1 hlast
  rw [hsplit, List.mem_append, List.mem_singleton] at hp
  rcases hp with hinit | rfl
  · exact Int.le_of_lt ((List.pairwise_append.1 (hsplit ▸ r.ascending)).2.2 p hinit q
      (List.mem_singleton_self q))
  · exact Int.le_refl _

/-- An id that is free is larger than all others. -/
theorem lt_of_freeId {r : Roster} {id : NetworkId} (h : r.freeId = .ok id) {p : Profile}
    (hp : p ∈ r.toList) : p.id < id := by
  rw [freeId] at h
  cases hlast : r.lastId? with
  | none =>
      rw [lastId?, Option.map_eq_none_iff, List.getLast?_eq_none_iff] at hlast
      rw [hlast] at hp
      cases hp
  | some last =>
      rw [hlast] at h
      dsimp only at h
      split at h
      · next next hnext =>
          cases h
          have hsucc := NetworkId.val_of_next? hnext
          have hle := le_of_lastId? hlast hp
          rw [NetworkId.lt_def]
          omega
      · cases h

/-- No id is free exactly if the last one is the largest of all. -/
theorem freeId_eq_error_iff {r : Roster} {last : NetworkId} :
    r.freeId = .error last ↔ r.lastId? = some last ∧ last.val = 2147483647 := by
  rw [freeId]
  cases r.lastId? with
  | none => simp
  | some other =>
      rw [← NetworkId.next?_eq_none_iff]
      cases hnext : other.next? with
      | some id =>
          have hne : other = last → last.next? ≠ none := by
            rintro rfl
            simp [hnext]
          simpa [hnext] using hne
      | none =>
          have heq : other = last → last.next? = none := by
            rintro rfl
            exact hnext
          simpa [hnext] using heq

/-- Of the profiles that are put in one after the other, the last of an id is found. -/
theorem find?_foldl_insert (r : Roster) (ps : List Profile) (id : NetworkId) :
    (ps.foldl insert r).find? id = (ps.reverse.find? fun p => p.id == id).or (r.find? id) := by
  induction ps generalizing r with
  | nil => rfl
  | cons p ps ih =>
      have hp : ([p].find? fun p => p.id == id).or (r.find? id) = (r.insert p).find? id := by
        rw [find?_insert, List.find?_singleton]
        by_cases hid : p.id = id <;> simp [hid]
      rw [List.foldl_cons, ih, List.reverse_cons, List.find?_append, Option.or_assoc, hp]

/-- Of a list of profiles, a roster keeps the last of each id. -/
theorem find?_ofList (ps : List Profile) (id : NetworkId) :
    (ofList ps).find? id = ps.reverse.find? fun p => p.id == id := by
  rw [ofList, find?_foldl_insert]
  exact Option.or_none

/-- The roster with its profiles changed, but not their ids. -/
def map (r : Roster) (f : Profile → Profile) (hf : ∀ p, (f p).id = p.id) : Roster where
  toList := r.toList.map f
  ascending := List.pairwise_map.2 (r.ascending.imp fun hlt => by simpa only [hf] using hlt)

theorem find?_map (r : Roster) {f : Profile → Profile} (hf : ∀ p, (f p).id = p.id)
    (id : NetworkId) : (r.map f hf).find? id = (r.find? id).map f := by
  have hsame : ((fun p : Profile => p.id == id) ∘ f) = fun p => p.id == id := by
    funext p
    simp only [Function.comp_apply, hf]
  rw [find?, find?, map, List.find?_map, hsame]

/-- Putting in a profile of an id that is there changes that one profile. -/
theorem toList_insert_of_find? {r : Roster} {p q : Profile} (h : r.find? p.id = some q) :
    (r.insert p).toList = r.toList.map fun x => if x.id = p.id then p else x :=
  insertProfile_of_mem r.ascending (List.mem_of_find?_eq_some h) (id_of_find? h)

/-- Of two profiles that take the same place, the later one stays. -/
theorem insert_insert {r : Roster} {p p' q : Profile} (h : r.find? p.id = some q)
    (hid : p'.id = p.id) : (r.insert p).insert p' = r.insert p' := by
  have hthere : (r.insert p).find? p'.id = some p := hid ▸ r.find?_insert_self p
  refine ext_toList ?_
  rw [toList_insert_of_find? hthere, toList_insert_of_find? h, toList_insert_of_find? (hid ▸ h),
    List.map_map]
  refine List.map_congr_left fun x _ => ?_
  by_cases hx : x.id = p.id <;> simp [hx, hid]

/-- What a document keeps of a roster. -/
def kept (r : Roster) : Roster where
  toList := r.toList.map Profile.kept
  ascending := List.pairwise_map.2 r.ascending

/-- A document that a roster was written to gives back what a document keeps of it. -/
theorem read_write (r : Roster) :
    (Document.read (Document.write r.toList)).map ofList = .ok r.kept := by
  rw [Document.read_write]
  exact congrArg Except.ok (ofList_toList r.kept)

end Roster

end MacConsent.Store
