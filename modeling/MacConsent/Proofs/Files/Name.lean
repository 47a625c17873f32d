import Mathlib.Data.List.TakeWhile
import MacConsent.Files.Path
import MacConsent.Proofs.Pieces

/-!
# MacConsent.Proofs.Files.Name

The name of a file under another extension.  The old extension is taken off the
end of the path's spelling, even where slashes or dots follow the name, so the
name may lose less than its extension; but it never loses part of its stem
(`split?_dropExtension`).  So the new path names the stem with the new extension
in the same directory, unless it names nothing (`split?_withExtension`), and an
extension with a dot in it always makes another name (`stem_append_ne`).
-/

namespace MacConsent.Files.Path

open Text (pieces)

variable {p : Path} {name : String} {before : List String}

/-! ## parts -/

theorem pieces_text (p : Path) : pieces '/' p.text.toList = p.parts.map String.toList := by
  simp [parts]

theorem parts_of_pieces {ps : List (List Char)} (h : pieces '/' p.text.toList = ps) :
    p.parts = ps.map String.ofList := by
  rw [parts, h]

theorem not_mem_of_mem_parts {part : String} (h : part ∈ p.parts) : '/' ∉ part.toList := by
  have hpiece : part.toList ∈ pieces '/' p.text.toList := by
    rw [pieces_text]
    exact List.mem_map_of_mem h
  exact Text.not_mem_of_mem_pieces hpiece

/-- Parts without slashes that are joined are the parts of the path. -/
theorem parts_join {ps : List String} (hne : ps ≠ []) (h : ∀ part ∈ ps, '/' ∉ part.toList) :
    (Path.mk (join ps)).parts = ps := by
  have hpieces : pieces '/' (join ps).toList = ps.map String.toList := by
    rw [join, String.toList_ofList]
    refine Text.pieces_joinPieces (by simpa using hne) ?_
    rw [List.forall_mem_map]
    exact h
  rw [parts_of_pieces (p := ⟨join ps⟩) hpieces]
  simp

/-! ## the name of a path -/

/-- The name of the file that a path names, if it names one. -/
def name? (p : Path) : Option String := p.split?.map Prod.fst

/-- What is left of a list begins with the first element that is not dropped. -/
theorem dropWhile_eq_cons {α : Type} {q : α → Bool} {l xs : List α} {x : α}
    (h : l.dropWhile q = x :: xs) :
    ∃ front, l = front ++ x :: xs ∧ (∀ a ∈ front, q a = true) ∧ q x = false := by
  refine ⟨l.takeWhile q, ?_, fun a ha => List.mem_takeWhile_imp ha, ?_⟩
  · rw [← h, List.takeWhile_append_dropWhile]
  · have hhead := List.head?_dropWhile_not q l
    rw [h] at hhead
    exact hhead

/-- A path names the last of its parts that is not idle, unless that is two dots. -/
theorem split?_eq_some_iff :
    p.split? = some (name, before) ↔
      ∃ idle, p.parts = before.reverse ++ name :: idle ∧ (∀ part ∈ idle, isIdle part = true) ∧
        isIdle name = false ∧ name ≠ ".." := by
  unfold split?
  constructor
  · intro h
    split at h
    · cases h
    next found rest hdrop =>
    split at h
    · cases h
    next hdots =>
    cases h
    obtain ⟨idle, hparts, hidle, hname⟩ := dropWhile_eq_cons hdrop
    refine ⟨idle.reverse, ?_, fun part hpart => hidle part (List.mem_reverse.1 hpart), hname, hdots⟩
    rw [← List.reverse_reverse p.parts, hparts]
    simp
  · rintro ⟨idle, hparts, hidle, hname, hdots⟩
    have hreverse : p.parts.reverse = idle.reverse ++ name :: before := by
      rw [hparts]
      simp
    rw [hreverse, List.dropWhile_append_of_pos fun part hpart => hidle part (List.mem_reverse.1 hpart),
      List.dropWhile_cons_of_neg (by simp [hname])]
    exact if_neg hdots

/-- A path whose last part names something. -/
theorem split?_of_parts (h : p.parts = before.reverse ++ [name]) (hname : isIdle name = false) :
    p.split? = if name = ".." then none else some (name, before) := by
  have hreverse : p.parts.reverse = name :: before := by
    rw [h]
    simp
  rw [split?, hreverse, List.dropWhile_cons_of_neg (by simp [hname])]

/-- The name of a path is one of its parts, and so are those before it. -/
theorem mem_parts_of_split? (h : p.split? = some (name, before)) :
    name ∈ p.parts ∧ ∀ part ∈ before, part ∈ p.parts := by
  obtain ⟨idle, hparts, -⟩ := split?_eq_some_iff.1 h
  rw [hparts]
  simp +contextual

/-! ## stem and extension -/

/-- What stands behind the last dot is the extension, if something stands before the dot. -/
theorem stemAndExtension_append {stem extension : List Char} (hstem : stem ≠ [])
    (hdot : '.' ∉ extension) :
    stemAndExtension (String.ofList (stem ++ '.' :: extension)) =
      (String.ofList stem, String.ofList extension) := by
  have hreverse : (String.ofList (stem ++ '.' :: extension)).toList.reverse =
      extension.reverse ++ '.' :: stem.reverse := by
    simp
  have hplain : ∀ c ∈ extension.reverse, (c != '.') = true := by
    intro c hc
    rw [bne_iff_ne]
    rintro rfl
    exact hdot (List.mem_reverse.1 hc)
  rw [stemAndExtension, hreverse, List.takeWhile_append_of_pos hplain,
    List.dropWhile_append_of_pos hplain]
  simp [hstem]

/-- A name has no extension, or it is a stem and an extension without a dot. -/
theorem stemAndExtension_cases (name : String) :
    stemAndExtension name = (name, "") ∨
      ∃ stem extension, stem ≠ [] ∧ '.' ∉ extension ∧
        name = String.ofList (stem ++ '.' :: extension) := by
  cases hdrop : name.toList.reverse.dropWhile (· != '.') with
  | nil => exact .inl (by rw [stemAndExtension, hdrop])
  | cons dot stem =>
      by_cases hstem : stem = []
      · exact .inl (by simp [stemAndExtension, hdrop, hstem])
      · obtain ⟨extension, hname, hplain, hdot⟩ := dropWhile_eq_cons hdrop
        obtain rfl : dot = '.' := by simpa using hdot
        refine .inr ⟨stem.reverse, extension.reverse, by simpa using hstem, fun hmem => ?_, ?_⟩
        · simpa using hplain '.' (List.mem_reverse.1 hmem)
        · rw [← String.toList_inj, String.toList_ofList, ← List.reverse_inj, hname]
          simp

theorem mem_of_mem_stem {c : Char} (h : c ∈ (stemAndExtension name).1.toList) :
    c ∈ name.toList := by
  rcases stemAndExtension_cases name with hnone | ⟨stem, extension, hstem, hdot, rfl⟩
  · rwa [hnone] at h
  · rw [stemAndExtension_append hstem hdot, String.toList_ofList] at h
    rw [String.toList_ofList]
    exact List.mem_append_left _ h

theorem stem_ne_empty (h : name ≠ "") : (stemAndExtension name).1 ≠ "" := by
  rcases stemAndExtension_cases name with hnone | ⟨stem, extension, hstem, hdot, rfl⟩
  · rwa [hnone]
  · rw [stemAndExtension_append hstem hdot, ← String.toList_inj.ne]
    simpa using hstem

/-- **An extension with a dot in it makes another name.** -/
theorem stem_append_ne (name : String) {extension : String} (h : '.' ∈ extension.toList) :
    (stemAndExtension name).1 ++ "." ++ extension ≠ name := by
  rcases stemAndExtension_cases name with hnone | ⟨stem, old, hstem, hdot, rfl⟩
  · rw [hnone]
    intro heq
    have hlength := congrArg String.length heq
    have hone : ".".length = 1 := rfl
    simp only [String.length_append] at hlength
    omega
  · rw [stemAndExtension_append hstem hdot]
    intro heq
    have hlist := congrArg String.toList heq
    simp only [String.toList_append, String.toList_ofList, List.append_assoc,
      List.append_cancel_left_eq] at hlist
    exact hdot ((List.cons.inj hlist).2 ▸ h)

/-! ## another extension -/

/-- What idle parts begin with is idle. -/
theorem isIdle_of_append {as bs : List Char} (h : isIdle (String.ofList (as ++ bs)) = true) :
    isIdle (String.ofList as) = true := by
  simp only [isIdle, Bool.or_eq_true, beq_iff_eq, ← String.toList_inj, String.toList_ofList] at h ⊢
  rcases h with h | h
  · exact .inl (List.append_eq_nil_iff.1 h).1
  · rcases List.append_eq_singleton_iff.1 h with ⟨has, -⟩ | ⟨has, -⟩
    · exact .inl has
    · exact .inr has

/-- Parts up to a part of which only the front is left are idle if all of them were. -/
theorem isIdle_front {idle : List String} {front rest : List (List Char)} {last lost : List Char}
    (h : idle.map String.toList = front ++ (last ++ lost) :: rest)
    (hidle : ∀ part ∈ idle, isIdle part = true) :
    ∀ part ∈ front.map String.ofList ++ [String.ofList last], isIdle part = true := by
  have hback : idle = (front ++ (last ++ lost) :: rest).map String.ofList := by
    rw [← h]
    simp
  rw [hback, List.forall_mem_map, List.forall_mem_append, List.forall_mem_cons] at hidle
  rw [List.forall_mem_append, List.forall_mem_map, List.forall_mem_singleton]
  exact ⟨hidle.1, isIdle_of_append hidle.2.1⟩

/-- The parts of a path that has lost characters at its end: the last of them has lost some, and
those behind it are gone, which are shorter than what was lost. -/
theorem exists_parts_take {n : Nat} {q : Path}
    (hq : q.text.toList = p.text.toList.take (p.text.toList.length - n)) :
    ∃ init last lost gone, q.parts = init.map String.ofList ++ [String.ofList last] ∧
      p.parts.map String.toList = init ++ (last ++ lost) :: gone ∧
      lost.length ≤ n ∧ ∀ part ∈ gone, part.length < n := by
  let tail := p.text.toList.drop (p.text.toList.length - n)
  have htail : tail.length ≤ n := by
    rw [List.length_drop]
    omega
  obtain ⟨init, last, hpieces, happend⟩ := @Text.exists_pieces_append '/' q.text.toList
  cases hcut : pieces '/' tail with
  | nil => exact absurd hcut (List.cons_ne_nil _ _)
  | cons lost gone =>
      refine ⟨init, last, lost, gone, ?_, ?_, ?_, fun part hpart => ?_⟩
      · rw [parts_of_pieces hpieces]
        simp
      · rw [← pieces_text, ← happend hcut, hq, List.take_append_drop]
      · have hle : lost.length ≤ (Text.joinPieces '/' (pieces '/' tail)).length :=
          Text.length_le_joinPieces (hcut ▸ List.mem_cons_self)
        rw [Text.joinPieces_pieces] at hle
        omega
      · have hlt := Text.length_lt_of_mem_rest hcut hpart
        omega

/-- The path without characters at its end, no more than its name has, names the same file or a
file of a shorter name. -/
theorem parts_take {n : Nat} (h : p.split? = some (name, before)) (hn : n ≤ name.toList.length)
    {q : Path} (hq : q.text.toList = p.text.toList.take (p.text.toList.length - n)) :
    q.split? = some (name, before) ∨
      ∃ kept lost, name.toList = kept ++ lost ∧ lost.length ≤ n ∧
        q.parts = before.reverse ++ [String.ofList kept] := by
  obtain ⟨idle, hparts, hidle, hname, hdots⟩ := split?_eq_some_iff.1 h
  obtain ⟨init, last, lost, gone, hqparts, hwhole, hlost, hgone⟩ := exists_parts_take hq
  rw [hparts, List.map_append, List.map_cons] at hwhole
  -- the part that lost characters stands before the name, or is the name, or stands behind it
  rcases List.append_eq_append_iff.1 hwhole with ⟨more, hinit, hrest⟩ | ⟨more, hinit, hrest⟩
  · cases more with
    | nil =>
        refine .inr ⟨last, lost, (List.cons.inj hrest).1, hlost, ?_⟩
        rw [List.append_nil] at hinit
        rw [hqparts, hinit]
        simp
    | cons _ front =>
        obtain ⟨rfl, hback⟩ := List.cons.inj hrest
        refine .inl (split?_eq_some_iff.2 ⟨_, ?_, isIdle_front hback hidle, hname, hdots⟩)
        rw [hqparts, hinit]
        simp
  · cases more with
    | nil =>
        refine .inr ⟨last, lost, (List.cons.inj hrest).1.symm, hlost, ?_⟩
        rw [List.append_nil] at hinit
        rw [hqparts, ← hinit]
        simp
    | cons _ more =>
        -- the name would be gone, but it is as long as all that was lost
        have hmem : name.toList ∈ gone := by
          rw [(List.cons.inj hrest).2]
          simp
        have hlt := hgone _ hmem
        omega

/-- A part of two characters or more names something. -/
theorem isIdle_of_two_le {part : String} (h : 2 ≤ part.length) : isIdle part = false := by
  cases hidle : isIdle part with
  | false => rfl
  | true =>
      simp only [isIdle, Bool.or_eq_true, beq_iff_eq] at hidle
      rcases hidle with rfl | rfl <;> exact absurd h (by decide)

/-- A text that lost no more than what stands behind a dot still has the dot. -/
theorem front_of_append {stem extension kept lost : List Char}
    (h : stem ++ '.' :: extension = kept ++ lost) (hlost : lost.length ≤ extension.length) :
    ∃ front, kept = stem ++ '.' :: front ∧ extension = front ++ lost := by
  rcases List.append_eq_append_iff.1 h with ⟨more, rfl, hmore⟩ | ⟨more, -, rfl⟩
  · cases more with
    | nil =>
        rw [List.nil_append] at hmore
        rw [← hmore, List.length_cons] at hlost
        omega
    | cons c front =>
        obtain ⟨rfl, hfront⟩ := List.cons.inj hmore
        exact ⟨front, rfl, hfront⟩
  · rw [List.length_append, List.length_cons] at hlost
    omega

/-- Dropping the extension keeps the parts before the name and the stem of the name, unless two
dots are left of the name. -/
theorem split?_dropExtension (h : p.split? = some (name, before)) :
    p.dropExtension.split? = none ∨
      ∃ name', p.dropExtension.split? = some (name', before) ∧
        (stemAndExtension name').1 = (stemAndExtension name).1 := by
  obtain ⟨q, hq⟩ : ∃ q, q = p.dropExtension := ⟨_, rfl⟩
  have htext : q.text.toList =
      p.text.toList.take (p.text.toList.length - (stemAndExtension name).2.length) := by
    rw [hq, dropExtension, h, String.toList_ofList]
  rw [← hq]
  rcases stemAndExtension_cases name with hnone | ⟨stem, extension, hstem, hdot, rfl⟩
  · have hsame : q = p := by
      rw [hnone] at htext
      cases p; cases q
      rw [mk.injEq, ← String.toList_inj, htext]
      simp
    exact .inr ⟨name, hsame ▸ h, rfl⟩
  · have hn : (stemAndExtension (String.ofList (stem ++ '.' :: extension))).2.length ≤
        (String.ofList (stem ++ '.' :: extension)).toList.length := by
      rw [stemAndExtension_append hstem hdot]
      simp
      omega
    rcases parts_take h hn htext with hsame | ⟨kept, lost, hname, hlost, hparts⟩
    · exact .inr ⟨_, hsame, rfl⟩
    · have hwhole : stem ++ '.' :: extension = kept ++ lost := by
        rw [← hname, String.toList_ofList]
      rw [stemAndExtension_append hstem hdot] at hlost
      obtain ⟨extension', rfl, hrest⟩ := front_of_append hwhole (by simpa using hlost)
      have hidle : isIdle (String.ofList (stem ++ '.' :: extension')) = false :=
        isIdle_of_two_le (by
          have hpos := List.length_pos_iff.2 hstem
          rw [String.length_ofList, List.length_append, List.length_cons]
          omega)
      have hdot' : '.' ∉ extension' := fun hmem => hdot (hrest ▸ List.mem_append_left _ hmem)
      rw [split?_of_parts hparts hidle]
      split
      · exact .inl rfl
      · refine .inr ⟨_, rfl, ?_⟩
        rw [stemAndExtension_append hstem hdot, stemAndExtension_append hstem hdot']

/-- A stem and an extension with a dot between them are longer than two dots. -/
theorem three_le_length_stem_append {extension : String} (hname : name ≠ "") (hne : extension ≠ "") :
    3 ≤ ((stemAndExtension name).1 ++ "." ++ extension).length := by
  have hfirst : 0 < (stemAndExtension name).1.length :=
    Nat.pos_of_ne_zero (mt String.length_eq_zero_iff.1 (stem_ne_empty hname))
  have hlast : 0 < extension.length := Nat.pos_of_ne_zero (mt String.length_eq_zero_iff.1 hne)
  have hone : ".".length = 1 := rfl
  simp only [String.length_append]
  omega

theorem not_mem_stem_append {extension : String} (hname : '/' ∉ name.toList)
    (hslash : '/' ∉ extension.toList) :
    '/' ∉ ((stemAndExtension name).1 ++ "." ++ extension).toList := by
  simp only [String.toList_append, List.mem_append, not_or]
  exact ⟨⟨mt mem_of_mem_stem hname, by decide⟩, hslash⟩

/-- **The path of the same name with another extension.**  It names the stem with the new
extension in the same directory, or else it names nothing. -/
theorem split?_withExtension (h : p.split? = some (name, before)) {extension : String}
    (hslash : '/' ∉ extension.toList) (hne : extension ≠ "") :
    (p.withExtension extension).split? = none ∨
      (p.withExtension extension).split? =
        some ((stemAndExtension name).1 ++ "." ++ extension, before) := by
  unfold withExtension
  rcases split?_dropExtension h with hnone | ⟨name', hsome, hstem⟩
  · left
    simp only [hnone]
  · right
    simp only [hsome, ← hstem]
    obtain ⟨hname, hbefore⟩ := mem_parts_of_split? hsome
    obtain ⟨-, -, -, hidle, -⟩ := split?_eq_some_iff.1 hsome
    have hlong := @three_le_length_stem_append name' _ (by rintro rfl; cases hidle) hne
    have hslashes := not_mem_stem_append (not_mem_of_mem_parts hname) hslash
    generalize (stemAndExtension name').1 ++ "." ++ extension = new at hlong hslashes ⊢
    have hparts : (Path.mk (join (new :: before).reverse)).parts = before.reverse ++ [new] := by
      rw [parts_join (by simp), List.reverse_cons]
      intro part hpart
      rcases List.mem_cons.1 (List.mem_reverse.1 hpart) with rfl | hpart
      · exact hslashes
      · exact not_mem_of_mem_parts (hbefore part hpart)
    rw [split?_of_parts hparts (isIdle_of_two_le (by omega)), if_neg]
    rintro rfl
    exact absurd hlong (by decide)

/-- **A path and the same path with an extension with a dot in it name different files.** -/
theorem name?_withExtension_ne (h : p.name? = some name) {extension : String}
    (hslash : '/' ∉ extension.toList) (hdot : '.' ∈ extension.toList) :
    (p.withExtension extension).name? ≠ some name := by
  obtain ⟨⟨found, before⟩, hsplit, rfl⟩ := Option.map_eq_some_iff.1 h
  have hne : extension ≠ "" := by
    rintro rfl
    cases hdot
  rcases split?_withExtension hsplit hslash hne with hnone | hsome
  · rw [name?, hnone]
    exact fun h => nomatch h
  · rw [name?, hsome]
    exact fun h => stem_append_ne found hdot (Option.some.inj h)

end MacConsent.Files.Path
