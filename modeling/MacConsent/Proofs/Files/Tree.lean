import MacConsent.Files.Tree

/-!
# MacConsent.Proofs.Files.Tree

What changes when a tree of files changes.  Putting a file at a place changes
that place alone (`find?_put`), removing a place changes what stands at it or
below it (`find?_remove`).  Where a path leads depends on directories only: a
path that can be followed still leads to the same place after a file was put
(`locate_put`) or a file was removed (`locate_remove`).
-/

namespace MacConsent.Files.Tree

/-! ## what stands at a place -/

/-- Entries that are left out are not found. -/
theorem lookup_filter (p : Place → Bool) (entries : List (Place × Entry)) (place : Place) :
    (entries.filter fun e => p e.1).lookup place =
      if p place then entries.lookup place else none := by
  induction entries with
  | nil => simp
  | cons e entries ih =>
      obtain ⟨q, entry⟩ := e
      by_cases hq : place = q
      · subst hq
        by_cases hp : p place = true
        · simp [hp]
        · simp [hp, ih]
      · have hne : (place == q) = false := beq_false_of_ne hq
        rw [List.filter_cons, List.lookup_cons, hne]
        split
        · simp [List.lookup_cons, hne, ih]
        · simp [ih]

/-- A place outside the working directory is a directory in every tree. -/
theorem find?_of_outward {place : Place} (h : place.all isOutward = true) (t : Tree) :
    t.find? place = some .directory := by
  rw [find?, if_pos h]

/-- Where no directory stands, the place is not on the way out. -/
theorem not_outward {t : Tree} {place : Place} (h : t.find? place ≠ some .directory) :
    place.all isOutward = false := by
  cases hp : place.all isOutward with
  | false => rfl
  | true => exact absurd (find?_of_outward hp t) h

/-- Putting an entry changes its place alone. -/
theorem find?_put {t : Tree} {place : Place} (h : place.all isOutward = false) (entry : Entry)
    (q : Place) : (t.put place entry).find? q = if q = place then some entry else t.find? q := by
  have hlookup : (t.put place entry).entries.lookup q =
      if q = place then some entry else t.entries.lookup q := by
    rw [put, List.lookup_append, lookup_filter (fun e => e != place)]
    by_cases hq : q = place
    · simp [hq]
    · simp [hq, List.lookup_cons, beq_false_of_ne hq]
  by_cases hq : q = place
  · rw [find?, hlookup, hq, h]
    simp
  · rw [find?, hlookup, find?]
    simp [hq]

/-- Removing a place changes nothing at places that are not at it or below it. -/
theorem find?_remove {t : Tree} {place q : Place} (h : place.isPrefixOf q = false) :
    (t.remove place).find? q = t.find? q := by
  rw [find?, find?, remove, lookup_filter (fun e => !place.isPrefixOf e), h]
  rfl

/-- Removing a place adds nothing. -/
theorem find?_of_find?_remove {t : Tree} {place q : Place} {entry : Entry}
    (h : (t.remove place).find? q = some entry) : t.find? q = some entry := by
  rw [find?, remove, lookup_filter (fun e => !place.isPrefixOf e)] at h
  rw [find?]
  split at h
  · next hout => rw [if_pos hout, h]
  · next hout =>
      split at h
      · rw [if_neg hout, h]
      · cases h

/-! ## following a path -/

/-- A place such that whatever stands around it is a directory. -/
def Rooted (t : Tree) (place : Place) : Prop :=
  ∀ q, q <+: place → q ≠ place → t.find? q = some .directory

/-- The way out of a tree is always there. -/
theorem rooted_of_outward {place : Place} (h : place.all isOutward = true) (t : Tree) :
    Rooted t place := by
  intro q hq _
  refine find?_of_outward ?_ t
  rw [List.all_eq_true] at h ⊢
  exact fun name hname => h name (hq.subset hname)

theorem Rooted.dropLast {t : Tree} {place : Place} (h : Rooted t place) :
    Rooted t place.dropLast := by
  intro q hq hne
  have hpre : q <+: place := hq.trans (List.dropLast_prefix place)
  refine h q hpre ?_
  rintro rfl
  exact hne (hq.eq_of_length_le (List.dropLast_prefix q).length_le)

/-- Within a directory that is rooted, every place is. -/
theorem Rooted.append {t : Tree} {place : Place} (h : Rooted t place)
    (hdir : t.find? place = some .directory) (part : String) : Rooted t (place ++ [part]) := by
  intro q hq hne
  rcases List.prefix_concat_iff.1 hq with heq | hpre
  · exact absurd heq hne
  · by_cases hqp : q = place
    · rw [hqp, hdir]
    · exact h q hpre hqp

theorem Rooted.around {t : Tree} {place : Place} (h : Rooted t place) :
    Rooted t (around place) := by
  unfold Tree.around
  split
  · exact h
  · split
    · next hout =>
        apply rooted_of_outward
        rw [List.all_append, hout]
        rfl
    · exact h.dropLast

/-- Entering a part of a directory leads to a place among directories. -/
theorem Rooted.enter {t : Tree} {place next : Place} {part : String} (h : Rooted t place)
    (he : t.enter place part = .ok next) : Rooted t next := by
  unfold Tree.enter at he
  split at he
  · cases he
  · cases he
  · next hdir =>
      split at he
      · cases he; exact h
      · split at he
        · cases he; exact h.around
        · split at he
          · cases he
          · cases he; exact h.append hdir part

/-- A part of a directory is entered in any tree that has the directory. -/
theorem enter_of_directory {t t' : Tree} {place next : Place} {part : String}
    (h : t.enter place part = .ok next)
    (hdir : t.find? place = some .directory → t'.find? place = some .directory) :
    t'.enter place part = .ok next := by
  unfold enter at h ⊢
  split at h
  · cases h
  · cases h
  · next hfound =>
      rw [hdir hfound]
      exact h

/-- A path that can be followed leads to the same place in any tree that has all directories
which stand among directories. -/
theorem follow_of_directories {t t' : Tree}
    (hdirs : ∀ q, Rooted t q → t.find? q = some .directory → t'.find? q = some .directory)
    {place last : Place} {parts : List String} (hr : Rooted t place)
    (h : t.follow place parts = .ok last) : t'.follow place parts = .ok last := by
  induction parts generalizing place with
  | nil => exact h
  | cons part parts ih =>
      rw [follow] at h ⊢
      cases he : t.enter place part with
      | error f => rw [he] at h; cases h
      | ok next =>
          rw [he] at h
          rw [enter_of_directory he (hdirs place hr)]
          exact ih (hr.enter he) h

/-- The place that a path is followed from. -/
theorem rooted_start (t : Tree) (absolute : Prop) [Decidable absolute] :
    Rooted t (if absolute then ["/"] else []) := by
  split
  · exact rooted_of_outward (by decide) t
  · exact rooted_of_outward rfl t

/-- A path that leads somewhere leads there in any tree that has all directories which stand
among directories. -/
theorem locate_of_directories {t t' : Tree}
    (hdirs : ∀ q, Rooted t q → t.find? q = some .directory → t'.find? q = some .directory)
    {path : Path} {spot : Spot} (h : t.locate path = .ok spot) : t'.locate path = .ok spot := by
  unfold locate at h ⊢
  split at h
  · cases h
  next hnul =>
  split at h
  · cases h
  next hempty =>
  split at h
  · cases h
  next hlong =>
  rw [if_neg hnul, if_neg hempty, if_neg hlong]
  simp only at h ⊢
  split at h
  · exact h
  · next last before _ =>
      split at h
      · cases h
      · next place hfollow =>
          rw [follow_of_directories hdirs (rooted_start t _) hfollow]
          exact h

/-! ## where paths lead after a change -/

/-- A file that is put where no directory stands turns no path away. -/
theorem locate_put {t : Tree} {place : Place} (hplace : t.find? place ≠ some .directory)
    (entry : Entry) {path : Path} {spot : Spot} (h : t.locate path = .ok spot) :
    (t.put place entry).locate path = .ok spot := by
  refine locate_of_directories (fun q _ hq => ?_) h
  have hne : q ≠ place := fun heq => hplace (heq ▸ hq)
  rw [find?_put (not_outward hplace), if_neg hne, hq]

/-- Removing what is no directory turns no path away. -/
theorem locate_remove {t : Tree} {place : Place} (hplace : t.find? place ≠ some .directory)
    {path : Path} {spot : Spot} (h : t.locate path = .ok spot) :
    (t.remove place).locate path = .ok spot := by
  refine locate_of_directories (fun q hr hq => ?_) h
  have hne : place ≠ q := fun heq => hplace (heq ▸ hq)
  have hpre : place.isPrefixOf q = false := by
    cases hp : place.isPrefixOf q with
    | false => rfl
    | true => exact absurd (hr place (List.isPrefixOf_iff_prefix.1 hp) hne) hplace
  rw [find?_remove hpre, hq]

/-! ## writing a file and renaming it -/

/-- A path at which a file stands or can be put. -/
def IsFileSpot (t : Tree) (path : Path) : Prop :=
  ∃ place, t.locate path = .ok (.named place false) ∧ t.find? place ≠ some .directory

/-- A file that is put elsewhere leaves a spot for files as it is. -/
theorem IsFileSpot.put {t : Tree} {path : Path} (h : t.IsFileSpot path) {place : Place}
    (hplace : t.find? place ≠ some .directory) (content : Option String) :
    (t.put place (.file content)).IsFileSpot path := by
  obtain ⟨q, hq, hdir⟩ := h
  refine ⟨q, locate_put hplace _ hq, ?_⟩
  rw [find?_put (not_outward hplace)]
  split
  · exact fun h => nomatch h
  · exact hdir

/-- A file that is removed leaves a spot for files as it is. -/
theorem IsFileSpot.remove {t : Tree} {path : Path} (h : t.IsFileSpot path) {place : Place}
    (hplace : t.find? place ≠ some .directory) : (t.remove place).IsFileSpot path := by
  obtain ⟨q, hq, hdir⟩ := h
  exact ⟨q, locate_remove hplace hq, fun hfound => hdir (find?_of_find?_remove hfound)⟩

/-- A file is written exactly where one can be put. -/
theorem write_eq_ok_iff {t t' : Tree} {path : Path} {content : Option String} :
    t.write path content = .ok t' ↔
      ∃ place, t.locate path = .ok (.named place false) ∧
        t.find? place ≠ some .directory ∧ t' = t.put place (.file content) := by
  unfold write
  constructor
  · intro h
    split at h
    · cases h
    · cases h
    · next place asDirectory hlocate =>
        split at h
        · cases h
        · next hspot =>
            obtain ⟨hslash, hdir⟩ := not_or.1 hspot
            cases h
            rw [Bool.not_eq_true] at hslash
            exact ⟨place, hslash ▸ hlocate, hdir, rfl⟩
  · rintro ⟨place, hlocate, hdir, rfl⟩
    rw [hlocate]
    simp [hdir]

/-- A file is renamed exactly from a path where it stands to one where a file can be put. -/
theorem rename_eq_ok_iff {t t' : Tree} {source target : Path} :
    t.rename source target = .ok t' ↔
      ∃ place content goal, t.locate source = .ok (.named place false) ∧
        t.find? place = some (.file content) ∧ t.locate target = .ok (.named goal false) ∧
        t.find? goal ≠ some .directory ∧ t' = (t.remove place).put goal (.file content) := by
  unfold rename
  constructor
  · intro h
    split at h
    · cases h
    next spot hsource =>
    split at h
    · cases h
    next goalSpot htarget =>
    split at h
    · next place fromSlash goal toSlash =>
        split at h
        · cases h
        · cases h
        · next content hfound =>
            split at h
            · cases h
            next hslash =>
            obtain ⟨hfrom, hto⟩ := not_or.1 hslash
            rw [Bool.not_eq_true] at hfrom hto
            split at h
            · cases h
            next hdir =>
            cases h
            subst hfrom hto
            exact ⟨place, content, goal, hsource, hfound, htarget, hdir, rfl⟩
    · cases h
  · rintro ⟨place, content, goal, hsource, hfound, htarget, hdir, rfl⟩
    rw [hsource]
    simp [hfound, htarget, hdir]

/-- A file that stands at a path is read from it. -/
theorem read_of_file {t : Tree} {path : Path} {place : Place} {text : String}
    (hlocate : t.locate path = .ok (.named place false))
    (hfound : t.find? place = some (.file (some text))) : t.read path = .ok text := by
  rw [read, hlocate]
  simp [hfound]

/-- **A file that is written beside another and renamed over it takes its place**, wherever
files can be put at both paths; and afterwards they still can. -/
theorem write_rename {t : Tree} {source target : Path} (hsource : t.IsFileSpot source)
    (htarget : t.IsFileSpot target) (text : String) :
    ∃ written renamed, t.write source (some text) = .ok written ∧
      written.rename source target = .ok renamed ∧ renamed.read target = .ok text ∧
      renamed.IsFileSpot source ∧ renamed.IsFileSpot target := by
  obtain ⟨place, hplace, hfree⟩ := hsource
  let written := t.put place (.file (some text))
  have hwritten : written.find? place = some (.file (some text)) := by
    rw [find?_put (not_outward hfree), if_pos rfl]
  have hwfree : written.find? place ≠ some .directory := by
    rw [hwritten]
    exact fun h => nomatch h
  obtain ⟨goal, hgoal, hgfree⟩ := htarget.put hfree (some text)
  have hrfree : (written.remove place).find? goal ≠ some .directory :=
    fun hfound => hgfree (find?_of_find?_remove hfound)
  refine ⟨written, (written.remove place).put goal (.file (some text)), ?_, ?_, ?_, ?_, ?_⟩
  · exact write_eq_ok_iff.2 ⟨place, hplace, hfree, rfl⟩
  · exact rename_eq_ok_iff.2
      ⟨place, some text, goal, locate_put hfree _ hplace, hwritten, hgoal, hgfree, rfl⟩
  · refine read_of_file (locate_put hrfree _ (locate_remove hwfree hgoal)) ?_
    rw [find?_put (not_outward hrfree), if_pos rfl]
  · have hspot : written.IsFileSpot source := ⟨place, locate_put hfree _ hplace, hwfree⟩
    exact (hspot.remove hwfree).put hrfree (some text)
  · have hspot : written.IsFileSpot target := ⟨goal, hgoal, hgfree⟩
    exact (hspot.remove hwfree).put hrfree (some text)

end MacConsent.Files.Tree
