import MacConsent.Network.Profile

/-!
# MacConsent.Store.Roster

Profiles in ascending order of their ids, at most one for each id. Putting in a
profile replaces the one of the same id and touches no other
(`find?_insert_self`, `find?_insert_of_ne`); a roster made from a list keeps the
last profile of each id.
-/

namespace MacConsent.Store

/-- Puts a profile among profiles of ascending ids. -/
def insertProfile (p : Profile) : List Profile → List Profile
  | [] => [p]
  | q :: qs =>
    if p.id < q.id then p :: q :: qs
    else if q.id < p.id then q :: insertProfile p qs
    else p :: qs

theorem mem_insertProfile {p r : Profile} {ps : List Profile} (h : r ∈ insertProfile p ps) :
    r = p ∨ r ∈ ps := by
  induction ps with
  | nil => simpa [insertProfile] using h
  | cons q qs ih =>
    unfold insertProfile at h
    split at h
    · simpa using h
    · split at h
      · rcases List.mem_cons.1 h with h | h
        · exact .inr (List.mem_cons.2 (.inl h))
        · exact (ih h).imp_right (List.mem_cons_of_mem q)
      · exact (List.mem_cons.1 h).imp_right (List.mem_cons_of_mem q)

theorem pairwise_insertProfile (p : Profile) {ps : List Profile}
    (h : ps.Pairwise fun a b => a.id < b.id) :
    (insertProfile p ps).Pairwise fun a b => a.id < b.id := by
  induction ps with
  | nil => simp [insertProfile]
  | cons q qs ih =>
    obtain ⟨hq, hqs⟩ := List.pairwise_cons.1 h
    unfold insertProfile
    split
    · next hlt =>
      refine List.pairwise_cons.2 ⟨fun r hr => ?_, h⟩
      rcases List.mem_cons.1 hr with rfl | hr
      · exact hlt
      · exact Int.lt_trans hlt (hq r hr)
    · next hle =>
      split
      · next hgt =>
        refine List.pairwise_cons.2 ⟨fun r hr => ?_, ih hqs⟩
        rcases mem_insertProfile hr with rfl | hr
        · exact hgt
        · exact hq r hr
      · next hge =>
        have heq : p.id = q.id := by
          apply NetworkId.ext_val
          simp only [NetworkId.lt_def] at hle hge
          omega
        exact List.pairwise_cons.2 ⟨fun r hr => heq ▸ hq r hr, hqs⟩

/-- Profiles in ascending order of their ids. -/
structure Roster where
  toList : List Profile
  ascending : toList.Pairwise fun p q => p.id < q.id
deriving DecidableEq

namespace Roster

/-- No profiles. -/
def empty : Roster := ⟨[], List.Pairwise.nil⟩

/-- The roster with a profile, in place of the one of the same id. -/
def insert (r : Roster) (p : Profile) : Roster :=
  ⟨insertProfile p r.toList, pairwise_insertProfile p r.ascending⟩

/-- The roster of a list of profiles; of those of one id the last one counts. -/
def ofList (ps : List Profile) : Roster := ps.foldl insert empty

/-- The roster without the profile of an id. -/
def erase (r : Roster) (id : NetworkId) : Roster :=
  ⟨r.toList.filter fun p => p.id != id, r.ascending.filter _⟩

/-- The profile of an id. -/
def find? (r : Roster) (id : NetworkId) : Option Profile := r.toList.find? fun p => p.id == id

/-- The number of profiles. -/
def size (r : Roster) : Nat := r.toList.length

/-- The largest id. -/
def lastId? (r : Roster) : Option NetworkId := r.toList.getLast?.map (·.id)

/-- The next id that is free; without one, the id that leaves no room for another. -/
def freeId (r : Roster) : Except NetworkId NetworkId :=
  match r.lastId? with
  | none => .ok .first
  | some last =>
    match last.next? with
    | some id => .ok id
    | none => .error last

theorem find?_insertProfile (p : Profile) (id : NetworkId) {ps : List Profile}
    (h : ps.Pairwise fun a b => a.id < b.id) :
    (insertProfile p ps).find? (fun q => q.id == id) =
      if p.id = id then some p else ps.find? fun q => q.id == id := by
  induction ps with
  | nil => by_cases hp : p.id = id <;> simp [insertProfile, hp]
  | cons q qs ih =>
    obtain ⟨hq, hqs⟩ := List.pairwise_cons.1 h
    unfold insertProfile
    split
    · by_cases hp : p.id = id <;> simp [hp]
    · next hle =>
      split
      · next hgt =>
        by_cases hqi : q.id = id
        · have hne : p.id ≠ id := by
            intro heq
            rw [NetworkId.lt_def, heq, hqi] at hgt
            omega
          simp [hqi, hne]
        · simp [hqi, ih hqs]
      · next hge =>
        have heq : p.id = q.id := by
          apply NetworkId.ext_val
          simp only [NetworkId.lt_def] at hle hge
          omega
        by_cases hp : p.id = id
        · simp [hp]
        · have hqi : ¬ q.id = id := heq ▸ hp
          simp [hp, hqi]

/-- A profile that was put in is found under its id. -/
theorem find?_insert_self (r : Roster) (p : Profile) : (r.insert p).find? p.id = some p := by
  simp [insert, find?, find?_insertProfile p p.id r.ascending]

/-- Putting in a profile changes nothing for other ids. -/
theorem find?_insert_of_ne (r : Roster) {p : Profile} {id : NetworkId} (h : p.id ≠ id) :
    (r.insert p).find? id = r.find? id := by
  simp [insert, find?, find?_insertProfile p id r.ascending, h]

end Roster

end MacConsent.Store
