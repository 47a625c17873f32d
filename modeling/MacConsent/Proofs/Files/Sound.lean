import MacConsent.Proofs.Files.Name
import MacConsent.Proofs.Files.Tree

/-!
# MacConsent.Proofs.Files.Sound

Trees in which whatever stands somewhere stands in a directory, as in every tree
that the operations lead to.  In such a tree nothing is below a file, so each
operation on files changes the places that it is about and no other: a write the
place that its path names (`write_effect`), and a rename the places of its two
paths (`rename_effect`).
-/

namespace MacConsent.Files.Tree

/-- Whatever stands in the tree stands in a directory. -/
def Sound (t : Tree) : Prop := ∀ place entry, t.find? place = some entry → Rooted t place

/-- The path names a place. -/
def At (t : Tree) (path : Path) (place : Place) : Prop :=
  ∃ asDirectory, t.locate path = .ok (.named place asDirectory)

variable {t t' : Tree} {path : Path} {place : Place}

/-! ## what a path names -/

/-- More directories keep a place rooted. -/
theorem Rooted.mono (h : Rooted t place)
    (hdirs : ∀ q, t.find? q = some .directory → t'.find? q = some .directory) :
    Rooted t' place :=
  fun q hq hne => hdirs q (h q hq hne)

/-- A path leads from rooted places to rooted places. -/
theorem Rooted.follow {parts : List String} {last : Place} (h : Rooted t place)
    (hfollow : t.follow place parts = .ok last) : Rooted t last := by
  induction parts generalizing place with
  | nil => cases hfollow; exact h
  | cons part parts ih =>
      rw [Tree.follow] at hfollow
      split at hfollow
      · cases hfollow
      · next next hnext => exact ih (h.enter hnext) hfollow

/-- The last part of a path is entered from where the others lead. -/
theorem follow_concat {parts : List String} {part : String} {last : Place}
    (h : t.follow place (parts ++ [part]) = .ok last) :
    ∃ parent, t.follow place parts = .ok parent ∧ t.enter parent part = .ok last := by
  induction parts generalizing place with
  | nil =>
      rw [List.nil_append, follow] at h
      split at h
      · cases h
      · next next hnext => exact ⟨place, rfl, h ▸ hnext⟩
  | cons first parts ih =>
      rw [List.cons_append, follow] at h
      split at h
      · cases h
      · next next hnext =>
          rw [follow, hnext]
          exact ih h

/-- A part that names something leads to a place of this name. -/
theorem enter_name {part : String} {next : Place} (h : t.enter place part = .ok next)
    (hidle : Path.isIdle part = false) (hdots : part ≠ "..") : next = place ++ [part] := by
  unfold enter at h
  rw [hidle, if_neg hdots] at h
  split at h
  · cases h
  · cases h
  · rw [if_neg Bool.false_ne_true] at h
    split at h
    · cases h
    · cases h; rfl

/-- A path that leads to a place has a name, which is the place's own, and the place is in a
directory. -/
theorem locate_named {asDirectory : Bool} (h : t.locate path = .ok (.named place asDirectory)) :
    Rooted t place ∧ ∃ name, path.name? = some name ∧ place.getLast? = some name := by
  unfold locate at h
  split at h
  · cases h
  split at h
  · cases h
  split at h
  · cases h
  simp only at h
  split at h
  · cases h
  next name before hdrop =>
  split at h
  · cases h
  next last hfollow =>
  split at h
  · cases h
  next hdots =>
  obtain rfl : last = place := by cases h; rfl
  obtain ⟨hdot, hdots⟩ := not_or.1 hdots
  obtain ⟨slashes, hparts, hslashes, hname⟩ := Path.dropWhile_eq_cons hdrop
  have hidle : Path.isIdle name = false := by simp [Path.isIdle, hdot, by simpa using hname]
  have hsplit : path.split? = some (name, before) := by
    refine Path.split?_eq_some_iff.2 ⟨slashes.reverse, ?_, fun part hpart => ?_, hidle, hdots⟩
    · rw [← List.reverse_reverse path.parts, hparts]
      simp
    · rw [Path.isIdle, hslashes part (List.mem_reverse.1 hpart), Bool.true_or]
  refine ⟨(rooted_start t _).follow hfollow, name, by rw [Path.name?, hsplit]; rfl, ?_⟩
  obtain ⟨parent, -, henter⟩ := follow_concat hfollow
  rw [enter_name henter hidle hdots]
  simp

/-! ## sound trees -/

theorem sound_empty : Sound {} := by
  intro place entry h
  unfold find? at h
  split at h
  · next hout => exact rooted_of_outward hout _
  · cases h

/-- Something new may be put in a directory. -/
theorem Sound.put (h : Sound t) (hplace : t.find? place ≠ some .directory)
    (hrooted : Rooted t place) (entry : Entry) : Sound (t.put place entry) := by
  have hput := find?_put (t := t) (not_outward hplace) entry
  intro q found hq
  have hin : Rooted t q := by
    rw [hput] at hq
    split at hq
    · next heq => exact heq ▸ hrooted
    · exact h q found hq
  refine hin.mono fun dir hdir => ?_
  rwa [hput, if_neg (by rintro rfl; exact hplace hdir)]

/-- Whatever stands somewhere may be taken away with all below it. -/
theorem Sound.remove (h : Sound t) (place : Place) : Sound (t.remove place) := by
  intro q entry hq p hp hne
  have hdir := h q entry (find?_of_find?_remove hq) p hp hne
  cases hout : p.all isOutward with
  | true => exact find?_of_outward hout _
  | false =>
      cases hbelow : place.isPrefixOf p with
      | false => rwa [find?_remove hbelow]
      | true =>
          -- then `q` was below `place` as well, and is gone
          exfalso
          have hqbelow : place.isPrefixOf q = true :=
            List.isPrefixOf_iff_prefix.2 ((List.isPrefixOf_iff_prefix.1 hbelow).trans hp)
          have hqout : q.all isOutward = false := by
            rw [← Bool.not_eq_true, List.all_eq_true]
            intro hall
            rw [← Bool.not_eq_true, List.all_eq_true] at hout
            exact hout fun name hname => hall name (hp.subset hname)
          rw [find?, hqout, Tree.remove, lookup_filter (fun e => !place.isPrefixOf e), hqbelow] at hq
          cases hq

/-- Below a file there is nothing, so it is the only one that goes if it is removed. -/
theorem find?_remove_file (h : Sound t) {content : Option String}
    (hfile : t.find? place = some (.file content)) (q : Place) :
    (t.remove place).find? q = if q = place then none else t.find? q := by
  have hplace : place.all isOutward = false :=
    not_outward (t := t) (by simp [hfile])
  have hgone : ∀ {q : Place}, q.all isOutward = false → place.isPrefixOf q = true →
      (t.remove place).find? q = none := by
    intro q hout hbelow
    rw [find?, hout, Tree.remove, lookup_filter (fun e => !place.isPrefixOf e), hbelow]
    rfl
  by_cases hq : q = place
  · rw [if_pos hq, hq]
    exact hgone hplace (List.isPrefixOf_iff_prefix.2 (List.prefix_refl place))
  · rw [if_neg hq]
    cases hbelow : place.isPrefixOf q with
    | false => exact find?_remove hbelow
    | true =>
        have hnothing : t.find? q = none := by
          rw [Option.eq_none_iff_forall_ne_some]
          intro entry hentry
          have hdir := h q entry hentry place (List.isPrefixOf_iff_prefix.1 hbelow) (Ne.symm hq)
          rw [hfile] at hdir
          cases hdir
        rw [hnothing]
        exact hgone (not_outward (t := t) (by simp [hnothing])) hbelow

/-- Directories may be made along a path. -/
theorem Sound.makeAlong (h : Sound t) (hrooted : Rooted t place) {parts : List String}
    (hmake : t.makeAlong place parts = .ok t') : Sound t' := by
  induction parts generalizing t place with
  | nil => cases hmake; exact h
  | cons part parts ih =>
      rw [Tree.makeAlong] at hmake
      split at hmake
      · cases hmake
      next next hnext =>
      have hin : Rooted t next := hrooted.enter hnext
      split at hmake
      · next hnothing =>
          have hfree : t.find? next ≠ some .directory := by
            rw [hnothing]
            exact fun h => nomatch h
          refine ih (h.put hfree hin .directory) (hin.mono fun q hq => ?_) hmake
          rwa [find?_put (not_outward hfree), if_neg (by rintro rfl; exact hfree hq)]
      · exact ih h hin hmake
      · cases hmake

theorem Sound.makeDirectory (h : Sound t) (hmake : t.makeDirectory path = .ok t') : Sound t' :=
  h.makeAlong (rooted_start t _) hmake

/-- Clearing a place keeps the tree sound. -/
theorem Sound.clear (h : Sound t) (hclear : t.clear path = .ok t') : Sound t' := by
  unfold Tree.clear at hclear
  split at hclear
  · cases hclear
  · cases hclear
  · split at hclear
    · cases hclear
    · cases hclear; exact h.remove _

/-! ## what operations on files change -/

/-- Two trees of the same directories. -/
def SameDirectories (t t' : Tree) : Prop :=
  ∀ q, t'.find? q = some .directory ↔ t.find? q = some .directory

theorem SameDirectories.refl (t : Tree) : SameDirectories t t := fun _ => Iff.rfl

theorem SameDirectories.trans {t'' : Tree} (h : SameDirectories t t')
    (h' : SameDirectories t' t'') : SameDirectories t t'' :=
  fun q => (h' q).trans (h q)

/-- Paths that can be followed lead to the same places in trees of the same directories. -/
theorem SameDirectories.locate_iff (h : SameDirectories t t') {spot : Spot} :
    t'.locate path = .ok spot ↔ t.locate path = .ok spot :=
  ⟨locate_of_directories fun q _ => (h q).1, locate_of_directories fun q _ => (h q).2⟩

/-- A path names one place at most. -/
theorem At.unique {q : Place} (h : t.At path place) (hq : t.At path q) : place = q := by
  obtain ⟨_, h⟩ := h
  obtain ⟨_, hq⟩ := hq
  cases h.symm.trans hq
  rfl

/-- A text is read exactly from a file that holds it. -/
theorem read_eq_ok_iff {text : String} :
    t.read path = .ok text ↔
      ∃ place, t.locate path = .ok (.named place false) ∧
        t.find? place = some (.file (some text)) := by
  refine ⟨fun h => ?_, fun ⟨place, hlocate, hfound⟩ => read_of_file hlocate hfound⟩
  unfold read at h
  split at h
  · cases h
  · cases h
  next place asDirectory hlocate =>
  split at h
  · cases h
  · cases h
  next content hfound =>
  split at h
  · cases h
  next hslash =>
  rw [Bool.not_eq_true] at hslash
  split at h
  · cases h
  · cases h
    exact ⟨place, hslash ▸ hlocate, hfound⟩

/-- Where nothing stands, nothing is read. -/
theorem read_of_nothing (hlocate : t.locate path = .ok (.named place false))
    (hnothing : t.find? place = none) : t.read path = .error .missing := by
  rw [read, hlocate]
  simp only [hnothing]

/-- Putting a file makes no directory, and replaces none. -/
theorem sameDirectories_put (hfree : t.find? place ≠ some .directory) (content : Option String) :
    SameDirectories t (t.put place (.file content)) := by
  intro q
  rw [find?_put (not_outward hfree)]
  split
  · next heq => exact ⟨fun h => (nomatch h), fun h => absurd (heq ▸ h) hfree⟩
  · exact Iff.rfl

/-- **A write changes the place that its path names**, at which no directory stands. -/
theorem write_effect {content : Option String} (h : t.write path content = .ok t') :
    ∃ place, t.locate path = .ok (.named place false) ∧ t.find? place ≠ some .directory ∧
      SameDirectories t t' ∧ (Sound t → Sound t') ∧
      ∀ q, t'.find? q = if q = place then some (.file content) else t.find? q := by
  obtain ⟨place, hlocate, hfree, rfl⟩ := write_eq_ok_iff.1 h
  exact ⟨place, hlocate, hfree, sameDirectories_put hfree content,
    fun hsound => hsound.put hfree (locate_named hlocate).1 _, find?_put (not_outward hfree) _⟩

/-- **A rename changes the places that its paths name**: the file of the first, where nothing is
left, stands at the second. -/
theorem rename_effect (hsound : Sound t) {target : Path} (h : t.rename path target = .ok t') :
    ∃ place content goal, t.locate path = .ok (.named place false) ∧
      t.find? place = some (.file content) ∧ t.locate target = .ok (.named goal false) ∧
      SameDirectories t t' ∧ Sound t' ∧
      ∀ q, t'.find? q =
        if q = goal then some (.file content) else if q = place then none else t.find? q := by
  obtain ⟨place, content, goal, hplace, hfile, hgoal, hfree, rfl⟩ := rename_eq_ok_iff.1 h
  have hremove := find?_remove_file hsound hfile
  have hfree' : (t.remove place).find? goal ≠ some .directory :=
    fun hfound => hfree (find?_of_find?_remove hfound)
  have hdirs : SameDirectories t (t.remove place) := by
    intro q
    rw [hremove]
    split
    · next heq => rw [heq, hfile]; exact ⟨fun h => (nomatch h), fun h => (nomatch h)⟩
    · exact Iff.rfl
  refine ⟨place, content, goal, hplace, hfile, hgoal,
    hdirs.trans (sameDirectories_put hfree' content),
    (hsound.remove place).put hfree' (locate_named (hdirs.locate_iff.2 hgoal)).1 _, fun q => ?_⟩
  rw [find?_put (not_outward hfree'), hremove]

end MacConsent.Files.Tree
