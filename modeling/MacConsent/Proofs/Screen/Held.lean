import MacConsent.Proofs.Screen.Rows

/-!
# MacConsent.Proofs.Screen.Held

What the rows of a line hold.  A wrapping moves glyphs from the word and the gap
into the row and from there into the rows that are done, and leaves out blanks
only.

1. `Wrap.held` is all that a wrapping holds, last glyph first.  A step puts its
   glyph in front, up to blanks (`Wrap.ink_step`), so the rows of a line hold all
   of it but blanks and glyphs that are too wide for any row (`ink_wrapLine`).
2. How far behind the end of the room a glyph starts depends on how different the
   widths of glyphs are (`placed_wrapLine`).  `Wrap.Tidy` is the invariant that
   carries this, with `Ready` and `Open` for the points within a step; the word of an
   empty row is the delicate part, since it may come from a row that it had
   overfilled.
-/

namespace MacConsent.Screen

/-! ## nothing but blanks is left out -/

/-- The glyphs that are not blank. -/
def ink (gs : List Glyph) : List Glyph := gs.filter fun g => !g.isBlank

@[simp] theorem ink_nil : ink [] = [] := rfl

@[simp] theorem ink_append (gs hs : List Glyph) : ink (gs ++ hs) = ink gs ++ ink hs :=
  List.filter_append gs hs

/-- Blanks are no ink. -/
theorem ink_of_blank {gs : List Glyph} (h : ∀ g ∈ gs, g.isBlank = true) : ink gs = [] := by
  simpa [ink] using h

theorem ink_cons (g : Glyph) (gs : List Glyph) :
    ink (g :: gs) = if g.isBlank then ink gs else g :: ink gs := by
  cases h : g.isBlank <;> simp [ink, h]

theorem ink_reverse (gs : List Glyph) : ink gs.reverse = (ink gs).reverse := List.filter_reverse

namespace Wrap

/-- What a wrapping holds, last glyph first. -/
def held (w : Wrap) : List Glyph := w.word ++ (w.gap ++ (w.row ++ w.done.flatMap List.reverse))

/-- The gap holds blanks only. -/
def BlankGap (w : Wrap) : Prop := ∀ g ∈ w.gap, g.isBlank = true

variable {room : Nat} {w : Wrap} {g : Glyph}

/-- What is left of a gap is its end. -/
theorem dropGap_suffix (room dropped : Nat) (gs : List Glyph) : (dropGap room dropped gs).1 <:+ gs := by
  induction gs generalizing dropped with
  | nil => exact List.suffix_refl []
  | cons g gs ih =>
      rw [dropGap]
      split
      · exact List.suffix_refl _
      · exact (ih _).trans (List.suffix_cons g gs)

/-- Breaking a row keeps only glyphs that were in the gap. -/
theorem mem_gap_breakRow (h : g ∈ (w.breakRow room).gap) : g ∈ w.gap := by
  have hsuffix := dropGap_suffix (room - w.rowWidth) 0 w.gap.reverse
  exact List.mem_reverse.1 (hsuffix.subset (List.mem_reverse.1 h))

theorem BlankGap.join (_ : w.BlankGap) : w.join.BlankGap := fun _ hg => absurd hg List.not_mem_nil

theorem BlankGap.breakRow (h : w.BlankGap) : (w.breakRow room).BlankGap :=
  fun g hg => h g (mem_gap_breakRow hg)

/-- A blank goes into the gap, any other glyph into the word. -/
theorem BlankGap.push (h : w.BlankGap) : (w.push g).BlankGap := by
  unfold Wrap.push
  split
  · next hblank => exact List.forall_mem_cons.2 ⟨hblank, h⟩
  · exact h

/-- A gap of blanks does not count. -/
theorem ink_held (h : w.BlankGap) :
    ink w.held = ink w.word ++ (ink w.row ++ ink (w.done.flatMap List.reverse)) := by
  simp [held, ink_of_blank h]

/-- Joining the gap to the row moves its glyphs. -/
theorem ink_join (h : w.BlankGap) : ink w.join.held = ink w.held := by
  rw [ink_held h, ink_held h.join]
  by_cases hrow : w.row = [] <;> simp [Wrap.join, hrow, ink_of_blank h]

/-- Ending a row drops blanks only. -/
theorem ink_breakRow (h : w.BlankGap) : ink (w.breakRow room).held = ink w.held := by
  rw [ink_held h, ink_held h.breakRow]
  simp [Wrap.breakRow]

/-- A pushed glyph comes in front of all that is held. -/
theorem ink_push (h : w.BlankGap) (g : Glyph) :
    ink (w.push g).held = if g.isBlank then ink w.held else g :: ink w.held := by
  rw [ink_held h.push, ink_held h, push]
  split
  · rfl
  · next hblank => simp [ink_cons, hblank]

/-- The rest of a step takes its glyph and loses blanks only. -/
theorem ink_take (h : w.BlankGap) (g : Glyph) :
    (w.take room g).BlankGap ∧
      ink (w.take room g).held = if g.isBlank then ink w.held else g :: ink w.held := by
  unfold take
  split
  · split
    · next hskip =>
        rw [Bool.and_eq_true] at hskip
        rw [if_pos hskip.1]
        exact ⟨h.breakRow, ink_breakRow h⟩
    · rw [ink_push h.breakRow, ink_breakRow h]
      exact ⟨h.breakRow.push, rfl⟩
  · exact ⟨h.push, ink_push h g⟩

/-- **A step takes its glyph and loses blanks only**; a glyph too wide for any row is left out. -/
theorem ink_step (h : w.BlankGap) (g : Glyph) :
    (w.step room g).BlankGap ∧
      ink (w.step room g).held =
        if g.isBlank ∨ room < g.advance then ink w.held else g :: ink w.held := by
  by_cases hwide : room < g.advance
  · have hstep : w.step room g = w := if_pos hwide
    rw [hstep, if_pos (.inr hwide)]
    exact ⟨h, rfl⟩
  · rw [step_eq (Nat.le_of_not_lt hwide)]
    simp only [hwide, or_false]
    split
    · rw [← ink_join h]
      exact ink_take h.join g
    · exact ink_take h g

/-- What is held after a line is the line backwards, up to blanks and glyphs that are too wide for
any row. -/
theorem ink_foldl (h : w.BlankGap) (gs : List Glyph) :
    (gs.foldl (step room) w).BlankGap ∧
      ink (gs.foldl (step room) w).held =
        (ink (gs.filter fun g => decide (g.advance ≤ room))).reverse ++ ink w.held := by
  induction gs generalizing w with
  | nil => exact ⟨h, rfl⟩
  | cons g gs ih =>
      obtain ⟨hgap, hink⟩ := ink_step h g
      obtain ⟨hgaps, hinks⟩ := ih hgap
      refine ⟨hgaps, ?_⟩
      rw [List.foldl_cons, hinks, hink, List.filter_cons]
      by_cases hwide : room < g.advance
      · simp [hwide, Nat.not_le.2 hwide]
      · simp only [hwide, or_false, Nat.le_of_not_lt hwide, decide_true, if_true, ink_cons]
        cases g.isBlank <;> simp

/-! ## nothing is added -/

/-- Joining brings in no glyph. -/
theorem held_join_subset (w : Wrap) : w.join.held ⊆ w.held := by
  intro g hg
  by_cases hrow : w.row = [] <;> simp [held, join, hrow] at hg ⊢ <;> grind

/-- Ending a row brings in no glyph. -/
theorem held_breakRow_subset (room : Nat) (w : Wrap) : (w.breakRow room).held ⊆ w.held := by
  intro g hg
  have hgap : g ∈ (w.breakRow room).gap → g ∈ w.gap := mem_gap_breakRow
  have hrest : (w.breakRow room).row ++ (w.breakRow room).done.flatMap List.reverse =
      w.row ++ w.done.flatMap List.reverse := by simp [breakRow]
  have hword : (w.breakRow room).word = w.word := rfl
  rw [held, hrest, hword] at hg
  rw [held]
  simp only [List.mem_append] at hg ⊢
  exact hg.imp_right fun hg => hg.imp_left hgap

theorem held_push_subset (w : Wrap) (g : Glyph) : (w.push g).held ⊆ g :: w.held := by
  intro h hh
  unfold push at hh
  split at hh <;> simp [held] at hh ⊢ <;> grind

/-- A step brings in its own glyph only. -/
theorem held_step_subset (room : Nat) (w : Wrap) (g : Glyph) :
    (w.step room g).held ⊆ g :: w.held := by
  have htake (w : Wrap) : (w.take room g).held ⊆ g :: w.held := by
    have hbreak := held_breakRow_subset room w
    unfold take
    split
    · split
      · exact List.Subset.trans hbreak (List.subset_cons_self g _)
      · exact List.Subset.trans (held_push_subset _ g) (List.cons_subset_cons g hbreak)
    · exact held_push_subset w g
  by_cases hwide : room < g.advance
  · have hstep : w.step room g = w := if_pos hwide
    rw [hstep]
    exact List.subset_cons_self g _
  · rw [step_eq (Nat.le_of_not_lt hwide)]
    split
    · exact List.Subset.trans (htake w.join) (List.cons_subset_cons g (held_join_subset w))
    · exact htake w

/-- Whatever is held after a line was in the line or held before it. -/
theorem held_foldl_subset (room : Nat) (gs : List Glyph) (w : Wrap) :
    (gs.foldl (step room) w).held ⊆ gs ++ w.held := by
  induction gs generalizing w with
  | nil => exact List.Subset.refl _
  | cons g gs ih =>
      intro h hh
      have hrest := ih (w.step room g) hh
      have hstep := @held_step_subset room w g h
      simp only [List.mem_append, List.mem_cons, List.cons_append] at hrest hstep ⊢
      grind

/-! ## the end of a line -/

/-- The row that is not done, last glyph first. -/
def last (w : Wrap) : List Glyph := w.word ++ (if w.row.isEmpty then [] else w.gap ++ w.row)

/-- The rows of a line are those that are done and the last; there may be an empty one before it. -/
theorem flatten_finish (w : Wrap) :
    w.finish.flatten = (w.last ++ w.done.flatMap List.reverse).reverse := by
  have hflatten (rows : List (List Glyph)) :
      (if rows.isEmpty then [[]] else rows.reverse).flatten = (rows.flatMap List.reverse).reverse := by
    cases rows with
    | nil => rfl
    | cons row rows => simp [List.reverse_flatten, List.flatMap]
  have hdone : (if w.row.isEmpty && w.word.isEmpty && !w.gap.isEmpty then [] :: w.done
      else w.done).flatMap List.reverse = w.done.flatMap List.reverse := by
    split <;> simp
  rw [finish, ← last, hflatten]
  split
  · next hlast => rw [hdone, List.isEmpty_iff.1 hlast, List.nil_append]
  · rw [List.flatMap_cons, hdone, List.reverse_reverse]

/-- The rows of a finished wrapping show all its ink, in the order it was taken. -/
theorem ink_finish (h : w.BlankGap) : ink w.finish.flatten = (ink w.held).reverse := by
  have hlast : ink w.last = ink w.word ++ ink w.row := by
    rw [last]
    by_cases hrow : w.row = [] <;> simp [hrow, ink_of_blank h]
  rw [flatten_finish, ink_reverse, ink_held h, ink_append, hlast, List.append_assoc]

/-- A finished row is empty, the last one, or one of those already done. -/
theorem mem_finish {row : List Glyph} (h : row ∈ w.finish) :
    row = [] ∨ row = w.last.reverse ∨ row ∈ w.done := by
  have hrows (rows : List (List Glyph)) (hmem : row ∈ if rows.isEmpty then [[]] else rows.reverse) :
      row = [] ∨ row ∈ rows := by
    split at hmem
    · exact .inl (List.mem_singleton.1 hmem)
    · exact .inr (List.mem_reverse.1 hmem)
  rw [finish, ← last] at h
  rcases hrows _ h with hnil | hmem
  · exact .inl hnil
  · grind

/-- Every glyph of a finished row was held. -/
theorem mem_held_of_mem_finish {row : List Glyph} (hrow : row ∈ w.finish) (hg : g ∈ row) :
    g ∈ w.held := by
  rw [held]
  simp only [List.mem_append]
  rcases mem_finish hrow with rfl | rfl | hdone
  · cases hg
  · rw [List.mem_reverse, last, List.mem_append] at hg
    split at hg <;> grind
  · have hflat : g ∈ w.done.flatMap List.reverse :=
      List.mem_flatMap.2 ⟨row, hdone, List.mem_reverse.2 hg⟩
    exact .inr (.inr (.inr hflat))

end Wrap

/-- **The rows of a line hold all of it but blanks**, and but what is too wide for any row. -/
theorem ink_wrapLine (room : Nat) (gs : List Glyph) :
    ink (wrapLine room gs).flatten = ink (gs.filter fun g => decide (g.advance ≤ room)) := by
  have hstart : ({} : Wrap).BlankGap := List.forall_mem_nil _
  obtain ⟨hgap, hink⟩ := @Wrap.ink_foldl room {} hstart gs
  have hheld : ink ({} : Wrap).held = [] := rfl
  rw [wrapLine, Wrap.ink_finish hgap, hink, hheld, List.append_nil, List.reverse_reverse]

/-- The rows of a line hold nothing else. -/
theorem mem_of_mem_wrapLine {room : Nat} {gs row : List Glyph} (hrow : row ∈ wrapLine room gs)
    {g : Glyph} (hg : g ∈ row) : g ∈ gs := by
  have hheld := Wrap.held_foldl_subset room gs {} (Wrap.mem_held_of_mem_finish hrow hg)
  have hnil : ({} : Wrap).held = [] := rfl
  rwa [hnil, List.append_nil] at hheld

/-! ## where a glyph starts -/

/-- The columns that glyphs move the position by. -/
def extent (gs : List Glyph) : Nat := (gs.map Glyph.advance).sum

@[simp] theorem extent_nil : extent [] = 0 := rfl

@[simp] theorem extent_cons (g : Glyph) (gs : List Glyph) :
    extent (g :: gs) = g.advance + extent gs := List.sum_cons

@[simp] theorem extent_append (gs hs : List Glyph) : extent (gs ++ hs) = extent gs + extent hs := by
  simp [extent]

@[simp] theorem extent_reverse (gs : List Glyph) : extent gs.reverse = extent gs := by
  simp [extent, List.sum_reverse]

/-- Of a row, last glyph first: each glyph that fills columns starts at most at `limit`. -/
def Placed (limit : Nat) : List Glyph → Prop
  | [] => True
  | g :: before => (0 < g.advance → extent before ≤ limit) ∧ Placed limit before

/-- Both parts of a well-placed row are well placed. -/
theorem Placed.of_append {limit : Nat} {gs hs : List Glyph} (h : Placed limit (gs ++ hs)) :
    Placed limit gs ∧ Placed limit hs := by
  induction gs with
  | nil => exact ⟨trivial, h⟩
  | cons g gs ih =>
      obtain ⟨hg, hrest⟩ := h
      obtain ⟨hgs, hhs⟩ := ih hrest
      have hle : extent gs ≤ extent (gs ++ hs) := by simp
      exact ⟨⟨fun hpos => Nat.le_trans hle (hg hpos), hgs⟩, hhs⟩

/-- A glyph that moves the position by `least` columns, or by up to `reach + 1` more. -/
def Glyph.Within (least reach : Nat) (g : Glyph) : Prop :=
  least ≤ g.advance ∧ g.advance ≤ least + reach + 1

namespace Wrap

/-- The widths are those of the parts, and in the rows that are done each glyph is in its place. -/
structure Measured (room least reach : Nat) (w : Wrap) : Prop where
  rowWidth : w.rowWidth = extent w.row
  gapWidth : w.gapWidth = extent w.gap
  wordWidth : w.wordWidth = extent w.word
  leastRow : w.row ≠ [] → least ≤ extent w.row
  leastWord : w.word ≠ [] → least ≤ extent w.word
  done : ∀ row ∈ w.done, Placed (room + reach) row.reverse

/-- No glyph that is held starts too far to the right.  The word of an empty row may have come
from a row that it had overfilled; that row keeps `least` of its columns. -/
structure Tidy (room least reach : Nat) (w : Wrap) : Prop extends Measured room least reach w where
  inWord : w.inWord = false → w.word = []
  fresh : w.row = [] → Placed (room + reach) w.word ∧
    extent w.word ≤ room + reach + (least + reach + 1)
  begun : w.row ≠ [] → Placed (room + reach) (w.word ++ (w.gap ++ w.row)) ∧
    extent (w.word ++ (w.gap ++ w.row)) ≤ room + (least + reach)

/-- The same, if a word that had to has joined the row before `g`. -/
structure Ready (room least reach : Nat) (w : Wrap) (g : Glyph) : Prop
    extends Measured room least reach w where
  blank : g.isBlank = true → w.word = []
  fresh : w.row = [] → Placed (room + reach) w.word ∧ extent w.word + g.advance ≤ room
  begun : w.row ≠ [] → Placed (room + reach) (w.word ++ (w.gap ++ w.row)) ∧
    (extent (w.word ++ (w.gap ++ w.row)) ≤ room + (least + reach) ∨ w.gap = [] ∧ w.word = [])

/-- The same, if `g` may be taken into the gap or into the word. -/
structure Open (room least reach : Nat) (w : Wrap) (g : Glyph) : Prop
    extends Measured room least reach w where
  blank : g.isBlank = true → w.word = []
  fresh : w.row = [] → Placed (room + reach) w.word ∧ extent w.word ≤ room + reach
  begun : w.row ≠ [] → Placed (room + reach) (w.word ++ (w.gap ++ w.row)) ∧
    extent (w.word ++ (w.gap ++ w.row)) + g.advance ≤ room + (least + reach)

variable {room least reach : Nat} {w : Wrap} {g : Glyph}

theorem Open.push (h : w.Open room least reach g) (hg : g.Within least reach) :
    (w.push g).Tidy room least reach := by
  obtain ⟨hleast, hmost⟩ := hg
  unfold Wrap.push
  split
  · next hblank =>
      have hword := h.blank hblank
      exact {
        rowWidth := h.rowWidth
        gapWidth := by rw [h.gapWidth, extent_cons, Nat.add_comm]
        wordWidth := h.wordWidth
        leastRow := h.leastRow
        leastWord := h.leastWord
        inWord := fun _ => hword
        done := h.done
        fresh := fun hrow =>
          ⟨(h.fresh hrow).1, Nat.le_trans (h.fresh hrow).2 (Nat.le_add_right (room + reach) _)⟩
        begun := fun hrow => by
          obtain ⟨hplaced, hle⟩ := h.begun hrow
          simp only [hword, List.nil_append, List.cons_append, extent_cons] at hplaced hle ⊢
          exact ⟨⟨fun _ => by omega, hplaced⟩, by omega⟩ }
  · exact {
      rowWidth := h.rowWidth
      gapWidth := h.gapWidth
      wordWidth := by rw [h.wordWidth, extent_cons, Nat.add_comm]
      leastRow := h.leastRow
      leastWord := fun _ => by rw [extent_cons]; omega
      inWord := fun hin => by cases hin
      done := h.done
      fresh := fun hrow => by
        obtain ⟨hplaced, hle⟩ := h.fresh hrow
        exact ⟨⟨fun _ => hle, hplaced⟩, by rw [extent_cons]; omega⟩
      begun := fun hrow => by
        obtain ⟨hplaced, hle⟩ := h.begun hrow
        simp only [List.cons_append, extent_cons]
        exact ⟨⟨fun _ => by omega, hplaced⟩, by omega⟩ }

/-- What a gap loses is counted as dropped. -/
theorem extent_dropGap (room dropped : Nat) (gs : List Glyph) :
    extent (dropGap room dropped gs).1 + (dropGap room dropped gs).2 = extent gs + dropped := by
  induction gs generalizing dropped with
  | nil => rfl
  | cons g gs ih =>
      rw [dropGap]
      split
      · rfl
      · rw [ih, extent_cons]
        omega

/-- After the end of a row the next one is empty, so the glyph may go in. -/
theorem Ready.breakRow (h : w.Ready room least reach g) :
    (w.breakRow room).Open room least reach g where
  rowWidth := rfl
  gapWidth := by
    have hdrop := extent_dropGap (room - w.rowWidth) 0 w.gap.reverse
    rw [extent_reverse] at hdrop
    simp only [Wrap.breakRow, extent_reverse, h.gapWidth]
    omega
  wordWidth := h.wordWidth
  leastRow := fun hrow => absurd rfl hrow
  leastWord := h.leastWord
  blank := h.blank
  done := by
    refine List.forall_mem_cons.2 ⟨?_, h.done⟩
    rw [List.reverse_reverse]
    by_cases hrow : w.row = []
    · rw [hrow]
      trivial
    · exact (h.begun hrow).1.of_append.2.of_append.2
  fresh := fun _ => by
    change Placed (room + reach) w.word ∧ extent w.word ≤ room + reach
    by_cases hrow : w.row = []
    · have := h.fresh hrow
      exact ⟨this.1, by omega⟩
    · obtain ⟨hplaced, hle⟩ := h.begun hrow
      refine ⟨hplaced.of_append.1, ?_⟩
      -- the word goes on to the next row with all the columns that it had behind this one
      rcases hle with hle | ⟨_, hword⟩
      · have hleast := h.leastRow hrow
        rw [extent_append, extent_append] at hle
        omega
      · rw [hword]
        exact Nat.zero_le _
  begun := fun hrow => absurd rfl hrow

/-- A glyph that forces no break may go in. -/
theorem Ready.fits (h : w.Ready room least reach g) (hg : g.Within least reach)
    (hbreak : w.mustBreak room g = false) : w.Open room least reach g where
  toMeasured := h.toMeasured
  blank := h.blank
  fresh := fun hrow => ⟨(h.fresh hrow).1, by have := (h.fresh hrow).2; omega⟩
  begun := fun hrow => by
    obtain ⟨hplaced, hle⟩ := h.begun hrow
    obtain ⟨hleast, hmost⟩ := hg
    refine ⟨hplaced, ?_⟩
    simp only [mustBreak, Bool.or_eq_false_iff, Bool.and_eq_false_iff, decide_eq_false_iff_not,
      h.rowWidth, h.gapWidth, h.wordWidth] at hbreak
    obtain ⟨hrowWidth, hzero | hroom⟩ := hbreak
    · rcases hle with hle | ⟨hgap, hword⟩
      · omega
      · simp only [hgap, hword, List.nil_append]
        omega
    · simp only [extent_append]
      omega

/-- The rest of a step leaves the wrapping tidy. -/
theorem Ready.take (h : w.Ready room least reach g) (hg : g.Within least reach) :
    (w.take room g).Tidy room least reach := by
  unfold Wrap.take
  split
  · split
    · next hskip =>
        rw [Bool.and_eq_true] at hskip
        have hopen := h.breakRow
        exact {
          toMeasured := hopen.toMeasured
          inWord := fun _ => hopen.blank hskip.1
          fresh := fun hrow =>
            ⟨(hopen.fresh hrow).1,
              Nat.le_trans (hopen.fresh hrow).2 (Nat.le_add_right (room + reach) _)⟩
          begun := fun hrow => absurd rfl hrow }
    · exact h.breakRow.push hg
  · next hbreak => exact (h.fits hg (Bool.eq_false_iff.2 hbreak)).push hg

/-- Where nothing is to be joined, a tidy wrapping is ready for the glyph. -/
theorem Tidy.ready (h : w.Tidy room least reach) (hjoin : w.mustJoin room g = false) :
    w.Ready room least reach g where
  toMeasured := h.toMeasured
  blank := fun hblank => by
    simp only [mustJoin, hblank, Bool.and_true, Bool.or_eq_false_iff] at hjoin
    exact h.inWord hjoin.1
  fresh := fun hrow => by
    refine ⟨(h.fresh hrow).1, ?_⟩
    simp only [mustJoin, hrow, List.isEmpty_nil, Bool.true_and, Bool.or_eq_false_iff,
      decide_eq_false_iff_not, h.wordWidth] at hjoin
    omega
  begun := fun hrow => ⟨(h.begun hrow).1, .inl (h.begun hrow).2⟩

/-- Joining makes a tidy wrapping ready for the glyph. -/
theorem Tidy.join (h : w.Tidy room least reach) (hroom : g.advance ≤ room) :
    w.join.Ready room least reach g where
  rowWidth := by
    by_cases hrow : w.row = []
    · simp [Wrap.join, hrow, h.rowWidth, h.wordWidth]
    · simp [Wrap.join, hrow, h.rowWidth, h.gapWidth, h.wordWidth]
      omega
  gapWidth := rfl
  wordWidth := rfl
  leastRow := fun hjoined => by
    by_cases hrow : w.row = []
    · simp only [Wrap.join, hrow, List.isEmpty_nil, if_true, List.append_nil] at hjoined ⊢
      exact h.leastWord hjoined
    · have hleast := h.leastRow hrow
      simp [Wrap.join, hrow]
      omega
  leastWord := fun hword => absurd rfl hword
  blank := fun _ => rfl
  done := h.done
  fresh := fun _ => ⟨trivial, by simpa [Wrap.join] using hroom⟩
  begun := fun _ => by
    refine ⟨?_, .inr ⟨rfl, rfl⟩⟩
    by_cases hrow : w.row = []
    · simpa [Wrap.join, hrow] using (h.fresh hrow).1
    · simpa [Wrap.join, hrow] using (h.begun hrow).1

/-- **A step keeps every glyph in its place.** -/
theorem Tidy.step (h : w.Tidy room least reach) (hg : g.Within least reach) :
    (w.step room g).Tidy room least reach := by
  by_cases hroom : room < g.advance
  · have hstep : w.step room g = w := if_pos hroom
    rw [hstep]
    exact h
  · rw [step_eq (Nat.le_of_not_lt hroom)]
    split
    · exact (h.join (Nat.le_of_not_lt hroom)).take hg
    · next hjoin => exact (h.ready (Bool.eq_false_iff.2 hjoin)).take hg

/-- **A line leaves the wrapping tidy.** -/
theorem Tidy.foldl {gs : List Glyph} (hgs : ∀ g ∈ gs, g.Within least reach)
    (h : w.Tidy room least reach) : (gs.foldl (Wrap.step room) w).Tidy room least reach := by
  induction gs generalizing w with
  | nil => exact h
  | cons g gs ih =>
      obtain ⟨hg, hgs⟩ := List.forall_mem_cons.1 hgs
      exact ih hgs (h.step hg)

/-- In a tidy wrapping no glyph starts behind `room + reach`. -/
theorem Tidy.finish (h : w.Tidy room least reach) :
    ∀ row ∈ w.finish, Placed (room + reach) row.reverse := by
  intro row hmem
  rcases mem_finish hmem with rfl | rfl | hdone
  · trivial
  · rw [List.reverse_reverse, last]
    by_cases hrow : w.row = []
    · simpa [hrow] using (h.fresh hrow).1
    · simpa [hrow] using (h.begun hrow).1
  · exact h.done row hdone

/-- The start of a line is tidy. -/
theorem tidy_start (room least reach : Nat) : ({} : Wrap).Tidy room least reach where
  rowWidth := rfl
  gapWidth := rfl
  wordWidth := rfl
  leastRow := fun hrow => absurd rfl hrow
  leastWord := fun hword => absurd rfl hword
  inWord := fun _ => rfl
  done := List.forall_mem_nil _
  fresh := fun _ => ⟨trivial, Nat.zero_le _⟩
  begun := fun hrow => absurd rfl hrow

end Wrap

/-- **Each glyph that fills columns starts in the room of its row, or less than `reach` columns
behind it.** -/
theorem placed_wrapLine {room least reach : Nat} {gs : List Glyph}
    (hgs : ∀ g ∈ gs, g.Within least reach) {row before after : List Glyph} {g : Glyph}
    (hrow : row ∈ wrapLine room gs) (hsplit : row = before ++ g :: after) (hpos : 0 < g.advance) :
    extent before ≤ room + reach := by
  have hplaced := ((Wrap.tidy_start room least reach).foldl hgs).finish row hrow
  rw [hsplit, List.reverse_append, List.reverse_cons, List.append_assoc] at hplaced
  exact extent_reverse before ▸ hplaced.of_append.2.1 hpos

end MacConsent.Screen
