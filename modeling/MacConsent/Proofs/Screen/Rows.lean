import MacConsent.Proofs.Filling
import MacConsent.Screen.Wrap

/-!
# MacConsent.Proofs.Screen.Rows

The rows that a line is wrapped into, against the rows that its words are filled
into.  The wrapping takes a glyph at a time and holds a word back until it ends;
the filling takes a word at a time.

1. `glyphRows` is the filling, glyph by glyph: the words that have ended, and the
   columns of the one that has not.  It is the filling of the line's characters if
   a glyph counts as many columns as it has characters (`lineRows_flatMap`).
2. Where each glyph fills a column and no two blanks stand together, the wrapping
   is in one of a few shapes (`Lone`, `Behind`).  `Stands` says which of them goes
   with which filling, a step keeps it (`Stands.step_word`, `Stands.step_blank`), and
   so wrapping and filling end with as many rows (`Narrow.length_wrapLine`).
3. A glyph of more characters only makes the filling longer (`glyphRows_le`), so the wrapping of such
   a line needs no more rows than were counted (`Narrow.length_wrapLine_le`).

If each glyph is one character, both have as many (`Narrow.length_wrapLine_eq`).
-/

namespace MacConsent.Screen

open Text (Fill)

/-! ## filling glyph by glyph -/

/-- The filling after a word of `len` columns; there is no word without columns. -/
def closeWord (room : Nat) (f : Fill) (len : Nat) : Fill := if len = 0 then f else f.add room len

@[simp] theorem closeWord_zero (room : Nat) (f : Fill) : closeWord room f 0 = f := rfl

theorem closeWord_of_pos {len : Nat} (h : 0 < len) (room : Nat) (f : Fill) :
    closeWord room f len = f.add room len := if_neg (Nat.ne_of_gt h)

/-- The rows of a line that is filled behind `f` and `len` columns of a word, where a glyph counts
as `cost` columns. -/
def glyphRows (room : Nat) (cost : Glyph → Nat) (f : Fill) (len : Nat) : List Glyph → Nat
  | [] => (closeWord room f len).rows
  | g :: gs =>
    if g.isBlank then glyphRows room cost (closeWord room f len) 0 gs
    else glyphRows room cost f (len + cost g) gs

/-- A glyph that is a blank character, or that holds no blank. -/
def Glyph.Clear (g : Glyph) : Prop :=
  (g.isBlank = true ∧ ∃ b, g.symbol = [b] ∧ Text.isBlank b = true) ∨
    (g.isBlank = false ∧ g.symbol ≠ [] ∧ ∀ c ∈ g.symbol, Text.isBlank c = false)

/-- The end of a blank-free word is that of the only word in it. -/
theorem closeWord_length (room : Nat) (f : Fill) {word : List Char}
    (h : ∀ c ∈ word, Text.isBlank c = false) :
    closeWord room f word.length = f.addWords room (Text.words word) := by
  cases word with
  | nil => rfl
  | cons c cs =>
      rw [closeWord_of_pos (List.length_pos_iff.2 (List.cons_ne_nil c cs)),
        Text.words_of_not_blank (List.cons_ne_nil c cs) h]
      rfl

/-- **The characters of a line are filled as its glyphs are**, behind a word that has begun. -/
theorem rows_addWords_flatMap (room : Nat) {gs : List Glyph} (hgs : ∀ g ∈ gs, g.Clear) (f : Fill)
    {word : List Char} (hword : ∀ c ∈ word, Text.isBlank c = false) :
    (f.addWords room (Text.words (word ++ gs.flatMap Glyph.symbol))).rows =
      glyphRows room (fun g => g.symbol.length) f word.length gs := by
  induction gs generalizing f word with
  | nil => rw [List.flatMap_nil, List.append_nil, glyphRows, closeWord_length room f hword]
  | cons g gs ih =>
      obtain ⟨hg, hgs⟩ := List.forall_mem_cons.1 hgs
      rw [List.flatMap_cons, glyphRows]
      rcases hg with ⟨hblank, b, hsymbol, hb⟩ | ⟨hblank, _, hsymbol⟩
      · rw [if_pos hblank, hsymbol, List.singleton_append, Text.words_append_blank hb,
          closeWord_length room f hword, Fill.addWords_append]
        exact ih hgs (f.addWords room (Text.words word)) (List.forall_mem_nil _)
      · rw [if_neg (by simp [hblank]), ← List.append_assoc, ← List.length_append]
        exact ih hgs f (List.forall_mem_append.2 ⟨hword, hsymbol⟩)

/-- The rows the text needs, with a glyph costing as many columns as it has characters. -/
theorem lineRows_flatMap (room : Nat) {gs : List Glyph} (hgs : ∀ g ∈ gs, g.Clear) :
    Text.lineRows room (gs.flatMap Glyph.symbol) =
      glyphRows room (fun g => g.symbol.length) Fill.start 0 gs :=
  rows_addWords_flatMap room hgs Fill.start (List.forall_mem_nil _)

/-- Only the costs of the glyphs at hand count. -/
theorem glyphRows_congr {room : Nat} {cost₁ cost₂ : Glyph → Nat} {gs : List Glyph}
    (h : ∀ g ∈ gs, cost₁ g = cost₂ g) (f : Fill) (len : Nat) :
    glyphRows room cost₁ f len gs = glyphRows room cost₂ f len gs := by
  induction gs generalizing f len with
  | nil => rfl
  | cons g gs ih =>
      obtain ⟨hg, hgs⟩ := List.forall_mem_cons.1 h
      rw [glyphRows, glyphRows, hg]
      split
      · exact ih hgs _ 0
      · exact ih hgs f _

/-- A word that counts more makes a filling longer, if at all. -/
theorem atMost_closeWord {room : Nat} (hroom : 0 < room) {f₁ f₂ : Fill} (hf : f₁.AtMost f₂)
    {l₁ l₂ : Nat} (hle : l₁ ≤ l₂) (hzero : l₁ = 0 → l₂ = 0) :
    (closeWord room f₁ l₁).AtMost (closeWord room f₂ l₂) := by
  rcases Nat.eq_zero_or_pos l₁ with h | h
  · rw [h, hzero h]
    exact hf
  · rw [closeWord_of_pos h, closeWord_of_pos (Nat.lt_of_lt_of_le h hle)]
    exact hf.add hroom (Nat.le_refl room) hle

/-- Dearer glyphs behind a fuller row never need fewer rows. -/
theorem glyphRows_le_of_atMost {room : Nat} (hroom : 0 < room) {cost : Glyph → Nat}
    {gs : List Glyph} (hcost : ∀ g ∈ gs, g.isBlank = false → 1 ≤ cost g) {f₁ f₂ : Fill}
    {l₁ l₂ : Nat} (hf : f₁.AtMost f₂) (hle : l₁ ≤ l₂) (hzero : l₁ = 0 → l₂ = 0) :
    glyphRows room (fun _ => 1) f₁ l₁ gs ≤ glyphRows room cost f₂ l₂ gs := by
  induction gs generalizing f₁ f₂ l₁ l₂ with
  | nil => exact (atMost_closeWord hroom hf hle hzero).rows_le
  | cons g gs ih =>
      obtain ⟨hg, hgs⟩ := List.forall_mem_cons.1 hcost
      rw [glyphRows, glyphRows]
      split
      · exact ih hgs (atMost_closeWord hroom hf hle hzero) (Nat.le_refl 0) id
      · next hblank =>
          have hone := hg (Bool.eq_false_iff.2 hblank)
          exact ih hgs hf (by omega) (by omega)

/-- Glyphs that count more make a filling longer, if at all. -/
theorem glyphRows_le {room : Nat} (hroom : 0 < room) {cost : Glyph → Nat} {gs : List Glyph}
    (hcost : ∀ g ∈ gs, g.isBlank = false → 1 ≤ cost g) :
    glyphRows room (fun _ => 1) Fill.start 0 gs ≤ glyphRows room cost Fill.start 0 gs :=
  glyphRows_le_of_atMost hroom hcost (Fill.AtMost.refl Fill.start) (Nat.le_refl 0) id

/-! ## the shapes of a wrapping -/

namespace Wrap

/-- A word stands alone at the start of the last of `rows` rows and fills `used` columns. -/
structure Lone (w : Wrap) (rows used : Nat) : Prop where
  row : w.row = []
  rowWidth : w.rowWidth = 0
  gap : w.gap = []
  gapWidth : w.gapWidth = 0
  length_word : w.word.length = used
  wordWidth : w.wordWidth = used
  inWord : 0 < used → w.inWord = true
  length_done : w.done.length + 1 = rows

/-- The last of `rows` rows ends with a word and has `used` columns. -/
structure Ended (w : Wrap) (rows used : Nat) : Prop where
  row : w.row ≠ []
  rowWidth : w.rowWidth = used
  gap : w.gap = []
  gapWidth : w.gapWidth = 0
  word : w.word = []
  wordWidth : w.wordWidth = 0
  length_done : w.done.length + 1 = rows

/-- The last of `rows` rows has `used` columns, and a word of `len` columns stands behind it and
one blank. -/
structure Behind (w : Wrap) (rows used len : Nat) : Prop where
  row : w.row ≠ []
  rowWidth : w.rowWidth = used
  gap : ∃ b : Glyph, w.gap = [b] ∧ b.advance = 1
  gapWidth : w.gapWidth = 1
  length_word : w.word.length = len
  wordWidth : w.wordWidth = len
  inWord : 0 < len → w.inWord = true
  length_done : w.done.length + 1 = rows

variable {room rows used len : Nat} {w : Wrap} {g : Glyph}

/-- Joining a word alone on its row ends the word. -/
theorem Lone.join (h : w.Lone rows used) (hpos : 0 < used) : w.join.Ended rows used where
  row := by
    have hword : w.word ≠ [] := List.length_pos_iff.1 (h.length_word ▸ hpos)
    simp [Wrap.join, hword]
  rowWidth := by simp [Wrap.join, h.row, h.rowWidth, h.wordWidth]
  gap := rfl
  gapWidth := rfl
  word := rfl
  wordWidth := rfl
  length_done := h.length_done

/-- Joining a word behind others puts the gap and the word into the row. -/
theorem Behind.join (h : w.Behind rows used len) : w.join.Ended rows (used + 1 + len) where
  row := by simp [Wrap.join, h.row]
  rowWidth := by simp [Wrap.join, h.row, h.rowWidth, h.gapWidth, h.wordWidth]
  gap := rfl
  gapWidth := rfl
  word := rfl
  wordWidth := rfl
  length_done := h.length_done

/-- Ending a row starts an empty one. -/
theorem Ended.breakRow (h : w.Ended rows used) (room : Nat) : (w.breakRow room).Lone (rows + 1) 0 where
  row := rfl
  rowWidth := rfl
  gap := by simp [Wrap.breakRow, h.gap, dropGap]
  gapWidth := by simp [Wrap.breakRow, h.gap, h.gapWidth, dropGap]
  length_word := by simp [Wrap.breakRow, h.word]
  wordWidth := h.wordWidth
  inWord := fun hpos => absurd hpos (Nat.lt_irrefl 0)
  length_done := congrArg (· + 1) h.length_done

/-- The blank is dropped with the row that ends, and the word goes on. -/
theorem Behind.breakRow (h : w.Behind rows used len) (hused : used < room) :
    (w.breakRow room).Lone (rows + 1) len := by
  obtain ⟨b, hgap, hone⟩ := h.gap
  have hdrop : dropGap (room - w.rowWidth) 0 w.gap.reverse = ([], 1) := by
    have hfits : ¬ room - used < 1 := by omega
    simp [hgap, h.rowWidth, dropGap, hone, hfits]
  exact {
    row := rfl
    rowWidth := rfl
    gap := by simp [Wrap.breakRow, hdrop]
    gapWidth := by simp [Wrap.breakRow, hdrop, h.gapWidth]
    length_word := h.length_word
    wordWidth := h.wordWidth
    inWord := h.inWord
    length_done := congrArg (· + 1) h.length_done }

/-- A glyph that is no blank goes into the word. -/
theorem push_word (hblank : g.isBlank = false) (w : Wrap) :
    w.push g =
      { w with word := g :: w.word, wordWidth := w.wordWidth + g.advance, inWord := true } :=
  if_neg (by simp [hblank])

/-- A blank goes into the gap and ends the word. -/
theorem push_blank (hblank : g.isBlank = true) (w : Wrap) :
    w.push g =
      { w with gap := g :: w.gap, gapWidth := w.gapWidth + g.advance, inWord := false } :=
  if_pos hblank

theorem Lone.push (h : w.Lone rows used) (hblank : g.isBlank = false) (hone : g.advance = 1) :
    (w.push g).Lone rows (used + 1) := by
  rw [push_word hblank]
  exact {
    row := h.row
    rowWidth := h.rowWidth
    gap := h.gap
    gapWidth := h.gapWidth
    length_word := congrArg (· + 1) h.length_word
    wordWidth := by rw [h.wordWidth, hone]
    inWord := fun _ => rfl
    length_done := h.length_done }

theorem Behind.push (h : w.Behind rows used len) (hblank : g.isBlank = false)
    (hone : g.advance = 1) : (w.push g).Behind rows used (len + 1) := by
  rw [push_word hblank]
  exact {
    row := h.row
    rowWidth := h.rowWidth
    gap := h.gap
    gapWidth := h.gapWidth
    length_word := congrArg (· + 1) h.length_word
    wordWidth := by rw [h.wordWidth, hone]
    inWord := fun _ => rfl
    length_done := h.length_done }

/-- A blank behind the row opens the gap before the next word. -/
theorem Ended.push (h : w.Ended rows used) (hblank : g.isBlank = true) (hone : g.advance = 1) :
    (w.push g).Behind rows used 0 := by
  rw [push_blank hblank]
  exact {
    row := h.row
    rowWidth := h.rowWidth
    gap := ⟨g, by rw [h.gap], hone⟩
    gapWidth := by rw [h.gapWidth, hone]
    length_word := congrArg List.length h.word
    wordWidth := h.wordWidth
    inWord := fun hpos => absurd hpos (Nat.lt_irrefl 0)
    length_done := h.length_done }

/-! ## a step in each shape -/

/-- The rest of a step, after a word that had to has joined the row. -/
def take (room : Nat) (w : Wrap) (g : Glyph) : Wrap :=
  if w.mustBreak room g then
    if g.isBlank && (w.breakRow room).gap.isEmpty then w.breakRow room
    else (w.breakRow room).push g
  else w.push g

theorem step_eq (h : g.advance ≤ room) (w : Wrap) :
    w.step room g = (if w.mustJoin room g then w.join else w).take room g :=
  if_neg (Nat.not_lt.2 h)

/-- Where the row has to end, a word glyph begins the next one. -/
theorem take_of_break (hbreak : w.mustBreak room g = true) (hblank : g.isBlank = false) :
    w.take room g = (w.breakRow room).push g := by
  simp [take, hbreak, hblank]

theorem take_of_fits (hbreak : w.mustBreak room g = false) : w.take room g = w.push g := by
  simp [take, hbreak]

/-- A step that joins nothing only takes its glyph. -/
theorem step_of_not_join (h : g.advance ≤ room) (hjoin : w.mustJoin room g = false) :
    w.step room g = w.take room g := by
  rw [step_eq h, if_neg (by simp [hjoin])]

/-- A step at the end of a word joins it before taking the glyph. -/
theorem step_of_join (h : g.advance ≤ room) (hjoin : w.mustJoin room g = true) :
    w.step room g = w.join.take room g := by
  rw [step_eq h, if_pos hjoin]

/-- A word alone grows, and goes on in a new row when the row is full. -/
theorem Lone.step_word (h : w.Lone rows used) (hroom : 0 < room) (hused : used ≤ room)
    (hblank : g.isBlank = false) (hone : g.advance = 1) :
    if used = room then (w.step room g).Lone (rows + 1) 1
    else (w.step room g).Lone rows (used + 1) := by
  split
  · next hfull =>
      have hjoin : w.mustJoin room g = true := by simp [mustJoin, h.row, h.wordWidth, hone, hfull]
      have hended := h.join (hfull ▸ hroom)
      have hbreak : w.join.mustBreak room g = true := by simp [mustBreak, hended.rowWidth, hfull]
      rw [step_of_join (hone ▸ hroom) hjoin, take_of_break hbreak hblank]
      exact (hended.breakRow room).push hblank hone
  · next hlt =>
      have hword : ¬ room < used + 1 := by omega
      have hjoin : w.mustJoin room g = false := by
        have hgap : ¬ room < 1 := by omega
        simp [mustJoin, hblank, h.wordWidth, h.gapWidth, hone, hword, hgap]
      have hbreak : w.mustBreak room g = false := by
        have hempty : room ≠ 0 := by omega
        have hfits : ¬ room ≤ used := by omega
        simp [mustBreak, h.rowWidth, h.gapWidth, h.wordWidth, hempty, hfits]
      rw [step_of_not_join (hone ▸ hroom) hjoin, take_of_fits hbreak]
      exact h.push hblank hone

/-- A word behind a blank grows, and goes to a new row when there is no room for it. -/
theorem Behind.step_word (h : w.Behind rows used len) (hfits : used + 1 + len ≤ room)
    (hblank : g.isBlank = false) (hone : g.advance = 1) :
    if used + 1 + len = room then (w.step room g).Lone (rows + 1) (len + 1)
    else (w.step room g).Behind rows used (len + 1) := by
  have hjoin : w.mustJoin room g = false := by simp [mustJoin, hblank, h.row]
  rw [step_of_not_join (by omega) hjoin]
  split
  · next hfull =>
      have hbreak : w.mustBreak room g = true := by
        simp [mustBreak, hone, h.rowWidth, h.gapWidth, h.wordWidth, hfull]
      rw [take_of_break hbreak hblank]
      exact (h.breakRow (by omega)).push hblank hone
  · next hroom =>
      have hbreak : w.mustBreak room g = false := by
        have hrow : ¬ room ≤ used := by omega
        have hword : ¬ room ≤ used + 1 + len := by omega
        simp [mustBreak, h.rowWidth, h.gapWidth, h.wordWidth, hrow, hword]
      rw [take_of_fits hbreak]
      exact h.push hblank hone

/-- A blank stands behind a row, and is dropped if that row is full. -/
theorem Ended.take_blank (h : w.Ended rows used) (hblank : g.isBlank = true)
    (hone : g.advance = 1) :
    if room ≤ used then (w.take room g).Lone (rows + 1) 0 else (w.take room g).Behind rows used 0 := by
  split
  · next hfull =>
      have hbreak : w.mustBreak room g = true := by simp [mustBreak, h.rowWidth, hfull]
      have hlone := h.breakRow room
      have htake : w.take room g = w.breakRow room := by simp [take, hbreak, hblank, hlone.gap]
      exact htake ▸ hlone
  · next hroom =>
      have hbreak : w.mustBreak room g = false := by
        simp [mustBreak, h.rowWidth, h.gapWidth, h.wordWidth, hroom]
      rw [take_of_fits hbreak]
      exact h.push hblank hone

/-- The blank behind a word alone on its row: a full row ends there. -/
theorem Lone.step_blank (h : w.Lone rows used) (hpos : 0 < used) (hroom : 0 < room)
    (hblank : g.isBlank = true) (hone : g.advance = 1) :
    if room ≤ used then (w.step room g).Lone (rows + 1) 0
    else (w.step room g).Behind rows used 0 := by
  have hjoin : w.mustJoin room g = true := by simp [mustJoin, h.inWord hpos, hblank]
  rw [step_of_join (hone ▸ hroom) hjoin]
  exact (h.join hpos).take_blank hblank hone

/-- The blank behind any other word: a full row ends there. -/
theorem Behind.step_blank (h : w.Behind rows used len) (hpos : 0 < len) (hroom : 0 < room)
    (hblank : g.isBlank = true) (hone : g.advance = 1) :
    if room ≤ used + 1 + len then (w.step room g).Lone (rows + 1) 0
    else (w.step room g).Behind rows (used + 1 + len) 0 := by
  have hjoin : w.mustJoin room g = true := by simp [mustJoin, h.inWord hpos, hblank]
  rw [step_of_join (hone ▸ hroom) hjoin]
  exact h.join.take_blank hblank hone

end Wrap

/-! ## wrapping and filling side by side -/

/-- A word of `len` columns stands in a row of its own behind the filling. -/
def Alone (room : Nat) (f : Fill) (len : Nat) : Prop := f.used = 0 ∨ room < f.used + 1 + len

theorem Alone.succ {room len : Nat} {f : Fill} (h : Alone room f len) : Alone room f (len + 1) :=
  h.imp_right fun hfull => Nat.lt_succ_of_lt hfull

/-- A word alone on its row is broken wherever the row is full. -/
theorem add_of_alone {room len : Nat} {f : Fill} (h : Alone room f len) :
    f.add room len = Fill.breakLong room ⟨if f.used = 0 then f.rows else f.rows + 1, len⟩ := by
  split
  · next hzero => exact Fill.add_of_empty hzero
  · next hpos =>
      exact Fill.add_of_full (Nat.pos_of_ne_zero hpos) (h.resolve_left hpos)

/-- A word in a row of its own grows by a column, and goes on in a new row when the row is full. -/
theorem add_succ_of_alone {room len : Nat} (hroom : 0 < room) {f : Fill} (h : Alone room f len) :
    f.add room (len + 1) =
      if (f.add room len).used = room then ⟨(f.add room len).rows + 1, 1⟩
      else ⟨(f.add room len).rows, (f.add room len).used + 1⟩ := by
  rw [add_of_alone h.succ, add_of_alone h, Fill.breakLong_succ hroom]

/-- The shapes of a wrapping that go with a filling and `len` columns of a word behind it. -/
inductive Stands (room : Nat) (f : Fill) : Nat → Wrap → Prop
  /-- Nothing has been read. -/
  | start {w : Wrap} (hf : f = Fill.start) (h : w.Lone 1 0) : Stands room f 0 w
  /-- The last row was full and has ended. -/
  | full {w : Wrap} (hused : f.used = room) (hrows : 0 < f.rows) (h : w.Lone (f.rows + 1) 0) :
      Stands room f 0 w
  /-- The last row has room for the word as it is. -/
  | behind {w : Wrap} {len : Nat} (hused : 0 < f.used) (hfits : f.used + 1 + len ≤ room)
      (h : w.Behind f.rows f.used len) : Stands room f len w
  /-- The word began a row. -/
  | alone {w : Wrap} {len : Nat} (hlen : 0 < len) (halone : Alone room f len)
      (h : w.Lone (f.add room len).rows (f.add room len).used) : Stands room f len w

namespace Stands

variable {room len : Nat} {f : Fill} {w : Wrap} {g : Glyph}

/-- A glyph of a word makes the word one column longer. -/
theorem step_word (h : Stands room f len w) (hroom : 0 < room) (hblank : g.isBlank = false)
    (hone : g.advance = 1) : Stands room f (len + 1) (w.step room g) := by
  cases h with
  | start hf h =>
      have hstep := h.step_word hroom (Nat.zero_le room) hblank hone
      have hadd : f.add room 1 = ⟨1, 1⟩ := by
        rw [hf, Fill.add_of_empty rfl, Fill.breakLong_of_le hroom]
        rfl
      rw [if_neg (Nat.ne_of_lt hroom)] at hstep
      exact .alone Nat.one_pos (.inl (by rw [hf]; rfl)) (hadd ▸ hstep)
  | full hused hrows h =>
      have hstep := h.step_word hroom (Nat.zero_le room) hblank hone
      have hadd : f.add room 1 = ⟨f.rows + 1, 1⟩ := by
        rw [Fill.add_of_full (by omega) (by omega), Fill.breakLong_of_le hroom]
      rw [if_neg (Nat.ne_of_lt hroom)] at hstep
      exact .alone Nat.one_pos (.inr (by omega)) (hadd ▸ hstep)
  | behind hused hfits h =>
      have hstep := h.step_word hfits hblank hone
      split at hstep
      · next hfull =>
          -- the word has outgrown the row, and both move all of it to the next one
          have hadd : f.add room (len + 1) = ⟨f.rows + 1, len + 1⟩ := by
            rw [Fill.add_of_full hused (by omega)]
            exact Fill.breakLong_of_le (by simp only; omega)
          exact .alone (Nat.succ_pos len) (.inr (by omega)) (hadd ▸ hstep)
      · exact .behind hused (by omega) hstep
  | alone hlen halone h =>
      have hstep := h.step_word hroom (Fill.used_add_le hroom f len) hblank hone
      have hadd := add_succ_of_alone hroom halone
      refine .alone (Nat.succ_pos len) halone.succ ?_
      split at hstep
      · next hfull => rwa [hadd, if_pos hfull]
      · next hroom => rwa [hadd, if_neg hroom]

/-- A blank adds the word before it to the row. -/
theorem step_blank (h : Stands room f len w) (hroom : 0 < room) (hlen : 0 < len)
    (hblank : g.isBlank = true) (hone : g.advance = 1) :
    Stands room (f.add room len) 0 (w.step room g) := by
  cases h with
  | start => cases hlen
  | full => cases hlen
  | behind hused hfits h =>
      have hstep := h.step_blank hlen hroom hblank hone
      rw [Fill.add_of_fits hused hfits]
      have hrows : 0 < f.rows := by
        have := h.length_done
        omega
      split at hstep
      · next hfull => exact .full (Nat.le_antisymm hfits hfull) hrows hstep
      · exact .behind (by simp only; omega) (by simp only; omega) hstep
  | alone _ halone h =>
      have hle := Fill.used_add_le hroom f len
      have hpos : 0 < (f.add room len).used := by
        rw [add_of_alone halone]
        exact Fill.used_breakLong_pos room hlen
      have hstep := h.step_blank hpos hroom hblank hone
      have hrows : 0 < (f.add room len).rows := by
        have := h.length_done
        omega
      split at hstep
      · next hfull => exact .full (Nat.le_antisymm hle hfull) hrows hstep
      · exact .behind hpos (by omega) hstep

/-- The rows of a finished wrapping are those of its fill. -/
theorem length_finish (h : Stands room f len w) :
    w.finish.length = (closeWord room f len).rows := by
  cases h with
  | start hf h =>
      have hdone : w.done = [] := List.length_eq_zero_iff.1 (Nat.succ.inj h.length_done)
      have hword : w.word = [] := List.length_eq_zero_iff.1 h.length_word
      simp [Wrap.finish, h.row, h.gap, hword, hdone, hf]
  | full hused hrows h =>
      have hdone : w.done ≠ [] := by
        rw [← List.length_pos_iff]
        have := h.length_done
        omega
      have hword : w.word = [] := List.length_eq_zero_iff.1 h.length_word
      have hlength : w.done.length = f.rows := Nat.succ.inj h.length_done
      simp [Wrap.finish, h.row, h.gap, hword, hdone, hlength]
  | behind hused hfits h =>
      have hrows : (closeWord room f len).rows = f.rows := by
        rcases Nat.eq_zero_or_pos len with hzero | hpos
        · rw [hzero, closeWord_zero]
        · rw [closeWord_of_pos hpos, Fill.add_of_fits hused hfits]
      rw [hrows, ← h.length_done]
      simp [Wrap.finish, h.row]
  | alone hlen halone h =>
      have hpos : 0 < (f.add room len).used := by
        rw [add_of_alone halone]
        exact Fill.used_breakLong_pos room hlen
      have hword : w.word ≠ [] := List.length_pos_iff.1 (h.length_word ▸ hpos)
      rw [closeWord_of_pos hlen, ← h.length_done]
      simp [Wrap.finish, h.row, hword]

end Stands

/-- Behind a word a blank may stand, and behind a blank a word: no two blanks stand together, and
the first glyph of a line is none. -/
def Spaced (behindWord : Bool) : List Glyph → Prop
  | [] => True
  | g :: gs => if g.isBlank then behindWord = true ∧ Spaced false gs else Spaced true gs

/-- **The simulation**: over a line of one-column glyphs the wrapping and the fill keep in step. -/
theorem Stands.length_foldl {room : Nat} (hroom : 0 < room) {gs : List Glyph}
    (hone : ∀ g ∈ gs, g.advance = 1) {f : Fill} {len : Nat} {w : Wrap} (h : Stands room f len w)
    (hspaced : Spaced (decide (0 < len)) gs) :
    (gs.foldl (Wrap.step room) w).finish.length = glyphRows room (fun _ => 1) f len gs := by
  induction gs generalizing f len w with
  | nil => exact h.length_finish
  | cons g gs ih =>
      obtain ⟨hg, hgs⟩ := List.forall_mem_cons.1 hone
      rw [List.foldl_cons, glyphRows]
      rw [Spaced] at hspaced
      cases hblank : g.isBlank with
      | true =>
          rw [if_pos hblank] at hspaced
          obtain ⟨hlen, hrest⟩ := hspaced
          have hpos : 0 < len := of_decide_eq_true hlen
          rw [if_pos rfl, closeWord_of_pos hpos]
          exact ih hgs (h.step_blank hroom hpos hblank hg) hrest
      | false =>
          rw [if_neg (by simp [hblank])] at hspaced
          rw [if_neg Bool.false_ne_true]
          exact ih hgs (h.step_word hroom hblank hg) (by simpa using hspaced)

/-- A line of glyphs of one column each, without two blanks together and without one in front. -/
structure Narrow (gs : List Glyph) : Prop where
  clear : ∀ g ∈ gs, g.Clear
  advance : ∀ g ∈ gs, g.advance = 1
  spaced : Spaced false gs

namespace Narrow

variable {room : Nat} {gs : List Glyph}

/-- The rows of a line of one-column glyphs. -/
theorem length_wrapLine (h : Narrow gs) (hroom : 0 < room) :
    (wrapLine room gs).length = glyphRows room (fun _ => 1) Fill.start 0 gs :=
  (Stands.start rfl ⟨rfl, rfl, rfl, rfl, rfl, rfl, fun h => absurd h (Nat.lt_irrefl 0), rfl⟩ :
    Stands room Fill.start 0 {}).length_foldl hroom h.advance h.spaced

/-- **A narrow line is never wrapped into more rows than its characters are filled into.** -/
theorem length_wrapLine_le (h : Narrow gs) (hroom : 0 < room) :
    (wrapLine room gs).length ≤ Text.lineRows room (gs.flatMap Glyph.symbol) := by
  rw [h.length_wrapLine hroom, lineRows_flatMap room h.clear]
  refine glyphRows_le hroom fun g hg hblank => ?_
  rcases h.clear g hg with ⟨htrue, _⟩ | ⟨_, hsymbol, _⟩
  · rw [hblank] at htrue
    cases htrue
  · exact List.length_pos_iff.2 hsymbol

/-- If each glyph is one character, wrapping and filling agree. -/
theorem length_wrapLine_eq (h : Narrow gs) (hroom : 0 < room)
    (hone : ∀ g ∈ gs, g.symbol.length = 1) :
    (wrapLine room gs).length = Text.lineRows room (gs.flatMap Glyph.symbol) := by
  rw [h.length_wrapLine hroom, lineRows_flatMap room h.clear, glyphRows_congr]
  exact fun g hg => (hone g hg).symm

end Narrow

end MacConsent.Screen
