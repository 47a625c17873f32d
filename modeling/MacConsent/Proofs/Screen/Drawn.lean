import MacConsent.Proofs.Printable
import MacConsent.Proofs.Screen.Cells
import MacConsent.Proofs.Screen.Held

/-!
# MacConsent.Proofs.Screen.Drawn

Where the parts of a dialog are drawn.

1. A row draws each of its glyphs where those before it end (`markAt_drawRow`), and
   rows stand one below the other (`markAt_drawRows`).
2. A title stays in the top row of its box, and a border leaves the colours
   (`mem_drawTitle`, `mem_border`), so the cells below are plain before the message
   (`plain_box`).
3. Buttons and help stay in their rows (`mem_drawAligned`).
-/

namespace MacConsent.Screen

variable {x y : Nat}

/-! ## rows of glyphs -/

/-- The strokes of a row come behind those already made. -/
theorem drawRow_eq (y : Nat) (done : List Stroke) (x : Nat) (gs : List Glyph) :
    drawRow y done x gs = done.reverse ++ drawRow y [] x gs := by
  induction gs generalizing done x with
  | nil => simp [drawRow]
  | cons g gs ih =>
      rw [drawRow, drawRow]
      split
      · exact ih done x
      · rw [ih (_ :: done), ih [_]]
        simp

/-- A glyph without width is not drawn, and every glyph takes its columns. -/
theorem drawRow_cons (y x : Nat) (g : Glyph) (gs : List Glyph) :
    drawRow y [] x (g :: gs) =
      (if g.width = 0 then [] else [⟨x, y, .set g.symbol g.style⟩]) ++
        drawRow y [] (x + g.advance) gs := by
  rw [drawRow]
  split
  · next hzero =>
      have hstay : g.advance = 0 := by rw [Glyph.advance, hzero, Nat.zero_mod]
      rw [hstay]
      rfl
  · rw [drawRow_eq]
    rfl

/-- The second part of a row starts behind the columns of the first. -/
theorem drawRow_append (y x : Nat) (gs hs : List Glyph) :
    drawRow y [] x (gs ++ hs) = drawRow y [] x gs ++ drawRow y [] (x + extent gs) hs := by
  induction gs generalizing x with
  | nil => rfl
  | cons g gs ih =>
      rw [List.cons_append, drawRow_cons, drawRow_cons, ih, extent_cons, List.append_assoc,
        Nat.add_assoc]

/-- Each stroke of a row is a glyph that fills columns, and stands where those before it end. -/
theorem exists_of_mem_drawRow {gs : List Glyph} {s : Stroke} (h : s ∈ drawRow y [] x gs) :
    ∃ before g after, gs = before ++ g :: after ∧ g.width ≠ 0 ∧
      s = ⟨x + extent before, y, .set g.symbol g.style⟩ := by
  induction gs generalizing x with
  | nil => cases h
  | cons g gs ih =>
      rw [drawRow_cons, List.mem_append] at h
      rcases h with h | h
      · split at h
        · cases h
        · next hwidth =>
            rw [List.mem_singleton.1 h]
            exact ⟨[], g, gs, rfl, hwidth, rfl⟩
      · obtain ⟨before, g', after, hsplit, hwidth, hs⟩ := ih h
        refine ⟨g :: before, g', after, by rw [hsplit, List.cons_append], hwidth, ?_⟩
        rw [hs, extent_cons, Nat.add_assoc]

/-- A row draws glyphs that fill columns, each within the columns of the row. -/
theorem mem_drawRow {gs : List Glyph} {s : Stroke} (h : s ∈ drawRow y [] x gs) :
    s.y = y ∧ x ≤ s.x ∧ ∃ g ∈ gs, g.width ≠ 0 ∧ s.mark = .set g.symbol g.style ∧
      s.x + g.advance ≤ x + extent gs := by
  obtain ⟨before, g, after, rfl, hwidth, rfl⟩ := exists_of_mem_drawRow h
  refine ⟨rfl, Nat.le_add_right x _, g, by simp, hwidth, rfl, ?_⟩
  simp only [extent_append, extent_cons]
  omega

/-- A glyph of at most two columns moves the position by its width. -/
theorem advance_eq_width {g : Glyph} (h : g.width ≤ 2) : g.advance = g.width :=
  Nat.mod_eq_of_lt (Nat.lt_of_le_of_lt h (by decide))

/-- **A glyph stands where those before it end.** -/
theorem markAt_drawRow {before after : List Glyph} {g : Glyph}
    (hwide : ∀ h ∈ before ++ g :: after, h.width ≤ 2) (hpos : 0 < g.width) (c : Cell) :
    markAt (x + extent before) y c (drawRow y [] x (before ++ g :: after)) =
      c.mark (.set g.symbol g.style) := by
  have hbefore : ∀ s ∈ drawRow y [] x before, ¬(s.x = x + extent before ∧ s.y = y) := by
    rintro s hs ⟨hx, _⟩
    obtain ⟨_, _, h, hmem, hwidth, _, hend⟩ := mem_drawRow hs
    have hadvance := advance_eq_width (hwide h (List.mem_append_left _ hmem))
    omega
  have hadvance := advance_eq_width (hwide g (by simp))
  have hafter : ∀ s ∈ drawRow y [] (x + extent before + g.advance) after,
      ¬(s.x = x + extent before ∧ s.y = y) := by
    rintro s hs ⟨hx, _⟩
    have := (mem_drawRow hs).2.1
    omega
  rw [drawRow_append, markAt_append, markAt_of_elsewhere hbefore, drawRow_cons,
    if_neg (Nat.ne_of_gt hpos), markAt_append, markAt_of_elsewhere hafter]
  exact markAt_cons_self c _ []

/-- Just before a glyph stands no symbol of two columns. -/
theorem displayWidth_markAt_drawRow {before after : List Glyph}
    (hwide : ∀ h ∈ before, h.width ≤ 2) {x' : Nat} (hx' : x' + 1 = x + extent before) {c : Cell}
    (hc : Text.displayWidth c.symbol ≤ 1) :
    Text.displayWidth (markAt x' y c (drawRow y [] x (before ++ after))).symbol ≤ 1 := by
  have hafter : ∀ s ∈ drawRow y [] (x + extent before) after, ¬(s.x = x' ∧ s.y = y) := by
    rintro s hs ⟨hx, _⟩
    have := (mem_drawRow hs).2.1
    omega
  rw [drawRow_append, markAt_append, markAt_of_elsewhere hafter]
  refine markAt_induction (P := fun c => Text.displayWidth c.symbol ≤ 1) hc ?_
  rintro s hs ⟨hx, _⟩ c _
  obtain ⟨_, _, h, hmem, _, hmark, hend⟩ := mem_drawRow hs
  have hadvance := advance_eq_width (hwide h hmem)
  rw [hmark]
  change h.width ≤ 1
  omega

/-- Each stroke belongs to one of the rows. -/
theorem exists_of_mem_drawRows {rows : List (List Glyph)} {s : Stroke}
    (h : s ∈ drawRows x y rows) :
    ∃ i row, rows[i]? = some row ∧ s ∈ drawRow (y + i) [] x row := by
  induction rows generalizing y with
  | nil => cases h
  | cons row rows ih =>
      rw [drawRows, List.mem_append] at h
      rcases h with h | h
      · exact ⟨0, row, rfl, h⟩
      · obtain ⟨i, row', hrow, hs⟩ := ih h
        exact ⟨i + 1, row', hrow, by rwa [Nat.add_right_comm, Nat.add_assoc] at hs⟩

/-- Rows are drawn one below the other, glyph by glyph. -/
theorem mem_drawRows {rows : List (List Glyph)} {s : Stroke} (h : s ∈ drawRows x y rows) :
    y ≤ s.y ∧ s.y < y + rows.length ∧ ∃ row ∈ rows, ∃ g ∈ row, s.mark = .set g.symbol g.style := by
  obtain ⟨i, row, hrow, hs⟩ := exists_of_mem_drawRows h
  obtain ⟨hy, _, g, hg, _, hmark, _⟩ := mem_drawRow hs
  have hi := (List.getElem?_eq_some_iff.1 hrow).1
  exact ⟨by omega, by omega, row, List.mem_of_getElem? hrow, g, hg, hmark⟩

/-- **Rows stand one below the other.** -/
theorem markAt_drawRows {rows : List (List Glyph)} {i : Nat} {row : List Glyph}
    (hrow : rows[i]? = some row) (x' : Nat) (c : Cell) :
    markAt x' (y + i) c (drawRows x y rows) = markAt x' (y + i) c (drawRow (y + i) [] x row) := by
  induction rows generalizing y i with
  | nil => cases hrow
  | cons first rest ih =>
      rw [drawRows, markAt_append]
      cases i with
      | zero =>
          obtain rfl := Option.some.inj hrow
          refine markAt_of_elsewhere ?_ _
          rintro s hs ⟨_, hy⟩
          have := (mem_drawRows hs).1
          omega
      | succ i =>
          have hfirst : ∀ s ∈ drawRow y [] x first, ¬(s.x = x' ∧ s.y = y + (i + 1)) := by
            rintro s hs ⟨_, hy⟩
            have := (mem_drawRow hs).1
            omega
          have hnext : y + (i + 1) = y + 1 + i := by omega
          rw [markAt_of_elsewhere hfirst, hnext]
          exact ih hrow

/-! ## title, border, buttons and help -/

theorem mem_hide {next : Nat} {s : Stroke} (h : s ∈ hide y x next) : s.y = y := by
  obtain ⟨_, _, rfl⟩ := List.mem_map.1 h
  rfl

/-- A span is drawn in one row of the screen. -/
theorem mem_drawSpan {left right : Nat} {done : List Stroke} {isFirst : Bool} {gs : List Glyph}
    {s : Stroke} (hdone : ∀ t ∈ done, t.y = y) (h : s ∈ drawSpan y left right done isFirst x gs) :
    s.y = y := by
  induction gs generalizing done isFirst x with
  | nil => exact hdone s (List.mem_reverse.1 h)
  | cons g gs ih =>
      simp only [drawSpan] at h
      split at h
      · exact hdone s (List.mem_reverse.1 h)
      · refine ih ?_ h
        intro t ht
        rcases List.mem_append.1 ht with ht | ht
        · exact mem_hide (List.mem_reverse.1 ht)
        · rcases List.mem_cons.1 ht with rfl | ht
          · split
            · rfl
            · split
              · rfl
              · split <;> rfl
          · exact hdone t ht

theorem mem_drawSpans {right : Nat} {spans : List Span} {s : Stroke}
    (h : s ∈ drawSpans y x right spans) : s.y = y := by
  induction spans generalizing x with
  | nil => cases h
  | cons span spans ih =>
      rw [drawSpans] at h
      split at h
      · exact ih h
      · split at h
        · cases h
        · rcases List.mem_append.1 h with h | h
          · exact mem_drawSpan (List.forall_mem_nil _) h
          · exact ih h

/-- The title is drawn in the top row of the box. -/
theorem mem_drawTitle {screenWidth : Nat} {box : Area} {title : List Char} {s : Stroke}
    (h : s ∈ drawTitle screenWidth box title) : s.y = box.y := by
  simp only [drawTitle] at h
  split at h
  · cases h
  · exact mem_drawSpans h

/-- An aligned row is drawn in the first row of its area. -/
theorem mem_drawAligned {a : Alignment} {area : Area} {spans : List Span} {s : Stroke}
    (h : s ∈ drawAligned a area spans) : s.y = area.y := by
  unfold drawAligned at h
  split at h
  · cases h
  · exact (mem_drawRow h).1

/-- A border is made of narrow symbols that leave the colours. -/
theorem mem_border {box : Area} {s : Stroke} (h : s ∈ border box) :
    ∃ c, s.mark = ruleMark c ∧ Text.displayWidth [c] ≤ 1 := by
  unfold border at h
  split at h
  · cases h
  · simp only [List.mem_append, List.mem_map, List.mem_cons, List.not_mem_nil, or_false] at h
    rcases h with (((⟨_, _, rfl⟩ | ⟨_, _, rfl⟩) | ⟨_, _, rfl⟩) | ⟨_, _, rfl⟩) | rfl | rfl | rfl | rfl <;>
      exact ⟨_, rfl, by decide +kernel⟩

/-- The strokes of the border and of the title. -/
def edge (screenWidth : Nat) (box : Area) (title : List Char) : List Stroke :=
  border box ++ drawTitle screenWidth box title

/-- The strokes that clear a screen and a box. -/
def ground (width height : Nat) (box : Area) : List Stroke :=
  fillArea ⟨0, 0, width, height⟩ (.paint ⟨some .foreground, some .background⟩) ++
    fillArea box .reset ++ fillArea box (.paint ⟨some .cyan, some .background⟩)

/-- A cell with a symbol of at most one column, in the colours of a dialog. -/
structure Cell.Plain (c : Cell) : Prop where
  narrow : Text.displayWidth c.symbol ≤ 1
  fg : c.fg = .foreground ∨ c.fg = .cyan
  bg : c.bg = .background

/-- A symbol of at most one column leaves a cell plain. -/
theorem Cell.Plain.set {c : Cell} (h : c.Plain) {symbol : List Char}
    (hsymbol : Text.displayWidth symbol ≤ 1) : (c.mark (.set symbol {})).Plain :=
  ⟨hsymbol, h.fg, h.bg⟩

theorem Cell.Plain.paint {c : Cell} (h : c.Plain) : (c.mark (.paint (.ink .foreground))).Plain :=
  ⟨h.narrow, .inl rfl, h.bg⟩

/-- Ground and border leave a box plain. -/
theorem plain_border (width height : Nat) {box : Area} (hholds : box.Holds x y) (c : Cell) :
    (markAt x y c (ground width height box ++ border box)).Plain := by
  rw [markAt_append]
  refine markAt_induction ?_ ?_
  · simp only [ground, markAt_append, markAt_fillArea (idempotent_paint _),
      markAt_fillArea idempotent_reset, if_pos hholds]
    have hblank : Text.displayWidth [' '] = 1 := Text.displayWidth_of_latin (by decide)
    exact ⟨Nat.le_of_eq hblank, .inr rfl, rfl⟩
  · intro s hs _ c hc
    obtain ⟨symbol, hmark, hnarrow⟩ := mem_border hs
    rw [hmark]
    exact hc.set hnarrow

/-- **Below its top row a box is plain before the message.** -/
theorem plain_box (width height : Nat) {box : Area} (title : List Char) (hholds : box.Holds x y)
    (htop : y ≠ box.y) (c : Cell) :
    (markAt x y c (ground width height box ++ edge width box title)).Plain := by
  have htitle : ∀ s ∈ drawTitle width box title, ¬(s.x = x ∧ s.y = y) := by
    rintro s hs ⟨_, hy⟩
    exact htop (hy ▸ mem_drawTitle hs)
  rw [edge, ← List.append_assoc, markAt_append, markAt_of_elsewhere htitle]
  exact plain_border width height hholds c

end MacConsent.Screen
