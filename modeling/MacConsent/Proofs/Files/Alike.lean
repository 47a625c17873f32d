import MacConsent.Proofs.Files.Tree

/-!
# MacConsent.Proofs.Files.Alike

Two trees of files that have the same directories and files at the same places,
where only the contents of files may differ, as far as a relation of contents
allows.  Where a path leads does not depend on contents (`Alike.locate_eq`), so
what succeeds in one tree succeeds in the other and leaves them alike, and what
fails there fails here for the same reason.
-/

namespace MacConsent

/-- Results that are the same fault, or values of a relation. -/
inductive ResultsAlike {ε α : Type} (S : α → α → Prop) : Except ε α → Except ε α → Prop
  | error (fault : ε) : ResultsAlike S (.error fault) (.error fault)
  | ok {a a' : α} (h : S a a') : ResultsAlike S (.ok a) (.ok a')

/-- Results that are equal under a view are alike under it. -/
theorem ResultsAlike.of_map {ε α β : Type} {f : α → β} {result result' : Except ε α}
    (h : result.map f = result'.map f) :
    ResultsAlike (fun a a' => f a = f a') result result' := by
  cases result with
  | error fault =>
      cases result' with
      | error fault' =>
          cases h
          exact .error fault
      | ok a' => cases h
  | ok a =>
      cases result' with
      | error fault' => cases h
      | ok a' => exact .ok (Except.ok.inj h)

namespace Files

variable (R : Option String → Option String → Prop)

/-- The same kind of entry, and files of related contents. -/
inductive Entry.Alike : Entry → Entry → Prop
  | directory : Alike .directory .directory
  | file {content content' : Option String} (h : R content content') :
      Alike (.file content) (.file content')

namespace Tree

/-- Trees that differ in the contents of files only, and there by related contents. -/
def Alike (t t' : Tree) : Prop :=
  ∀ place, Option.Rel (Entry.Alike R) (t.find? place) (t'.find? place)

namespace Alike

variable {R} {t t' : Tree} (h : t.Alike R t')

theorem refl (hR : ∀ content, R content content) (t : Tree) : t.Alike R t := by
  intro place
  cases t.find? place with
  | none => exact .none
  | some entry =>
      cases entry with
      | directory => exact .some .directory
      | file content => exact .some (.file (hR content))

include h

/-- Alike trees have the same directories. -/
theorem find?_eq_directory_iff (place : Place) :
    t.find? place = some .directory ↔ t'.find? place = some .directory := by
  have hplace := h place
  generalize t.find? place = found, t'.find? place = found' at hplace
  cases hplace with
  | none => simp
  | some hentry => cases hentry <;> simp

/-- Alike trees are entered alike. -/
theorem enter_eq (place : Place) (part : String) : t.enter place part = t'.enter place part := by
  have hplace := h place
  unfold enter
  generalize t.find? place = found, t'.find? place = found' at hplace
  cases hplace with
  | none => rfl
  | some hentry => cases hentry <;> rfl

/-- A path leads to the same place in alike trees. -/
theorem follow_eq (place : Place) (parts : List String) :
    t.follow place parts = t'.follow place parts := by
  induction parts generalizing place with
  | nil => rfl
  | cons part parts ih =>
      rw [follow, follow, h.enter_eq]
      cases t'.enter place part with
      | error fault => rfl
      | ok next => exact ih next

/-- A path leads to the same place in both trees. -/
theorem locate_eq (path : Path) : t.locate path = t'.locate path := by
  have hfollow : t.follow = t'.follow := funext fun place => funext (h.follow_eq place)
  unfold locate
  rw [hfollow]

/-! ## changes of one place -/

/-- Alike entries may be put at any place within the tree. -/
theorem put {place : Place} (hplace : place.all isOutward = false) {entry entry' : Entry}
    (hentry : entry.Alike R entry') : (t.put place entry).Alike R (t'.put place entry') := by
  intro q
  rw [find?_put hplace, find?_put hplace]
  split
  · exact .some hentry
  · exact h q

theorem put_of_not_directory {place : Place} (hplace : t.find? place ≠ some .directory)
    {entry entry' : Entry} (hentry : entry.Alike R entry') :
    (t.put place entry).Alike R (t'.put place entry') :=
  h.put (not_outward hplace) hentry

/-- An entry may be removed anywhere. -/
theorem remove (place : Place) : (t.remove place).Alike R (t'.remove place) := by
  intro q
  cases hpre : place.isPrefixOf q with
  | false =>
      rw [find?_remove hpre, find?_remove hpre]
      exact h q
  | true =>
      have hgone : ∀ t : Tree, (t.remove place).find? q =
          if q.all isOutward then some .directory else none := by
        intro t
        rw [find?, Tree.remove, lookup_filter (fun e => !place.isPrefixOf e), hpre]
        rfl
      rw [hgone, hgone]
      split
      · exact .some .directory
      · exact .none

/-! ## changes of files -/

/-- Writing alike contents succeeds in both trees or fails alike. -/
theorem write (path : Path) {content content' : Option String} (hcontent : R content content') :
    ResultsAlike (Alike R) (t.write path content) (t'.write path content') := by
  unfold Tree.write
  rw [h.locate_eq]
  cases t'.locate path with
  | error fault => exact .error fault
  | ok spot =>
      cases spot with
      | directory => exact .error _
      | named place asDirectory =>
          simp only [← h.find?_eq_directory_iff]
          split
          · exact .error _
          · next hspot => exact .ok (h.put_of_not_directory (not_or.1 hspot).2 (.file hcontent))

/-- Renaming succeeds in both trees or fails alike. -/
theorem rename (source target : Path) :
    ResultsAlike (Alike R) (t.rename source target) (t'.rename source target) := by
  unfold Tree.rename
  rw [h.locate_eq, h.locate_eq]
  cases t'.locate source with
  | error fault => exact .error fault
  | ok from? =>
  cases t'.locate target with
  | error fault => exact .error fault
  | ok to? =>
  cases from? with
  | directory => exact .error _
  | named place fromSlash =>
  cases to? with
  | directory => exact .error _
  | named goal toSlash =>
      have hplace := h place
      simp only [← h.find?_eq_directory_iff goal]
      generalize t.find? place = found, t'.find? place = found' at hplace
      cases hplace with
      | none => exact .error _
      | some hentry =>
          cases hentry with
          | directory => exact .error _
          | file hcontent =>
              dsimp only
              split
              · exact .error _
              · split
                · exact .error _
                · next hgoal =>
                    have hfree : (t.remove place).find? goal ≠ some .directory :=
                      fun hfound => hgoal (find?_of_find?_remove hfound)
                    exact .ok ((h.remove place).put_of_not_directory hfree (.file hcontent))

omit h in
/-- Directories are made alike. -/
theorem makeAlong (h : t.Alike R t') (place : Place) (parts : List String) :
    ResultsAlike (Alike R) (t.makeAlong place parts) (t'.makeAlong place parts) := by
  induction parts generalizing t t' place with
  | nil => exact .ok h
  | cons part parts ih =>
      rw [Tree.makeAlong, Tree.makeAlong, h.enter_eq]
      cases t'.enter place part with
      | error fault => exact .error fault
      | ok next =>
          have hnext := h next
          have hfree : t.find? next = none → t.find? next ≠ some .directory := by
            intro hnone
            simp [hnone]
          dsimp only
          generalize hfound : t.find? next = found, t'.find? next = found' at hnext
          cases hnext with
          | none => exact ih (h.put_of_not_directory (hfree hfound) .directory) next
          | some hentry =>
              cases hentry with
              | directory => exact ih h next
              | file hcontent => exact .error _

theorem makeDirectory (path : Path) :
    ResultsAlike (Alike R) (t.makeDirectory path) (t'.makeDirectory path) :=
  h.makeAlong _ _

theorem clear (path : Path) : ResultsAlike (Alike R) (t.clear path) (t'.clear path) := by
  unfold Tree.clear
  rw [h.locate_eq]
  cases t'.locate path with
  | error fault => exact .error fault
  | ok spot =>
      cases spot with
      | directory => exact .error _
      | named place asDirectory =>
          have hplace := h place
          dsimp only
          generalize t.find? place = found, t'.find? place = found' at hplace
          cases hplace with
          | none => exact .error _
          | some hentry => exact .ok (h.remove place)

end Alike

end Tree

end Files

end MacConsent
