import MacConsent.Proofs.Screen.Places

/-!
# MacConsent.Proofs.Screen.Reach

How far the drawing of a dialog reaches.

1. Border and title stay in the box (`holds_of_mem_border`, `between_of_mem_drawTitle`),
   and a row of buttons or help stays in its area (`bounds_of_mem_drawAligned`).
2. A message is cut to the rows of its area, but not to the columns: each of its
   glyphs is drawn where those before it end (`exists_of_mem_drawMessage`), which may
   be behind the room for the row (`StartsAt.le`).
3. So beside the box there is the cleared screen and glyphs of the message
   (`markAt_outside`).  With glyphs of one and two columns the last column of the box
   is its border (`narrow_last_column`), and hides nothing (`hidden_outside`).
4. All strokes are in the rows of the screen (`row_of_mem_strokes`), so the drawing fails
   just if a stroke is behind its last column (`exists_frame_iff`), and that is one of the
   message (`onScreen_iff`) that widths which differ much have moved there
   (`exists_frame_of_fills`).

A glyph of many columns pushes what comes behind it out of the box
(`drawn_in_box_wedged`).
-/

namespace MacConsent.Screen

open Dialog (Form)

variable {width height x y : Nat} {f : Form} {s : Stroke}

/-! ## border and title -/

/-- The border is drawn within its box. -/
theorem holds_of_mem_border {box : Area} (h : s ∈ border box) : box.Holds s.x s.y := by
  unfold border at h
  split at h
  · cases h
  · next hempty =>
      have hpos := Area.pos_of_not_isEmpty (Bool.eq_false_iff.2 hempty)
      simp only [List.mem_append, List.mem_map, List.mem_cons, List.not_mem_nil, or_false] at h
      rcases h with (((⟨y, hy, rfl⟩ | ⟨x, hx, rfl⟩) | ⟨y, hy, rfl⟩) | ⟨x, hx, rfl⟩) |
        rfl | rfl | rfl | rfl <;>
        simp only [Area.mem_rows, Area.mem_columns, Area.Holds, Area.right, Area.bottom] at * <;>
        omega

/-- A glyph that fills columns and does not move the position. -/
def Glyph.Stuck (g : Glyph) : Prop := g.width ≠ 0 ∧ g.advance = 0

/-- A stroke from one column to another, and before that unless a glyph is stuck. -/
def Stroke.Between (left right : Nat) (stuck : Prop) (s : Stroke) : Prop :=
  left ≤ s.x ∧ s.x ≤ right ∧ (s.x = right → stuck)

/-- The columns that are hidden lie between a glyph and the next. -/
theorem between_of_mem_hide {left next right : Nat} {stuck : Prop} (hleft : left ≤ x)
    (hnext : next ≤ right) (h : s ∈ hide y x next) : s.Between left right stuck := by
  obtain ⟨i, hi, rfl⟩ := List.mem_map.1 h
  rw [List.mem_range] at hi
  refine ⟨?_, ?_, fun hlast => ?_⟩ <;> simp only at * <;> omega

/-- **A span is cut at its right column.** -/
theorem between_of_mem_drawSpan {left right : Nat} {stuck : Prop} {done : List Stroke}
    {isFirst : Bool} {gs : List Glyph} (hright : right + 1 < positions) (hroom : left < right)
    (hleft : left ≤ x) (hfirst : isFirst = true → x < right)
    (hstuck : ∀ g ∈ gs, g.Stuck → stuck) (hdone : ∀ t ∈ done, t.Between left right stuck)
    (h : s ∈ drawSpan y left right done isFirst x gs) : s.Between left right stuck := by
  induction gs generalizing done isFirst x with
  | nil => exact hdone s (List.mem_reverse.1 h)
  | cons g gs ih =>
      obtain ⟨hg, hgs⟩ := List.forall_mem_cons.1 hstuck
      simp only [drawSpan] at h
      split at h
      · exact hdone s (List.mem_reverse.1 h)
      · next hnext =>
          refine ih (by omega) (fun hin => by cases hin) hgs ?_ h
          intro t ht
          rcases List.mem_append.1 ht with ht | ht
          · exact between_of_mem_hide hleft (Nat.le_of_not_lt hnext) (List.mem_reverse.1 ht)
          · rcases List.mem_cons.1 ht with rfl | ht
            · split
              · next hin => exact ⟨hleft, by simp only; omega, fun hlast => by
                  have := hfirst hin
                  simp only at hlast
                  omega⟩
              · split
                · exact ⟨hleft, by simp only; omega, fun hlast => by simp only at hlast; omega⟩
                · split
                  · next hzero =>
                      exact ⟨by simp only; omega, by simp only; omega, fun hlast => by
                        simp only at hlast; omega⟩
                  · next hwidth =>
                      exact ⟨hleft, by simp only; omega, fun hlast => hg ⟨hwidth, by
                        simp only at hlast; omega⟩⟩
            · exact hdone t ht

/-- Spans are drawn between the left and the right end of their row. -/
theorem between_of_mem_drawSpans {right : Nat} {stuck : Prop} {spans : List Span}
    (hright : right + 1 < positions)
    (hstuck : ∀ span ∈ spans, ∀ g ∈ span.glyphs, g.Stuck → stuck)
    (h : s ∈ drawSpans y x right spans) : s.Between x right stuck := by
  induction spans generalizing x with
  | nil => cases h
  | cons span spans ih =>
      obtain ⟨hspan, hspans⟩ := List.forall_mem_cons.1 hstuck
      rw [drawSpans] at h
      split at h
      · exact ih hspans h
      · split at h
        · cases h
        · next hroom =>
            have hlt : x < right := Nat.lt_of_not_le hroom
            rcases List.mem_append.1 h with h | h
            · exact between_of_mem_drawSpan hright hlt (Nat.le_refl x) (fun _ => hlt) hspan
                (List.forall_mem_nil _) h
            · obtain ⟨hle, hrest⟩ := ih hspans h
              exact ⟨by omega, hrest⟩

/-- A title is drawn in the top row of a box that has rows. -/
theorem height_pos_of_mem_drawTitle {box : Area} {title : List Char}
    (h : s ∈ drawTitle width box title) : 0 < box.height := by
  simp only [drawTitle] at h
  split at h
  · cases h
  · next hroom => exact Nat.pos_of_ne_zero (not_or.1 hroom).2

/-- The columns of a title, with the blanks around it. -/
def titleColumns (title : List Char) : Nat := (titleSpans title).foldl (fun n s => n + s.width) 0

/-- **A title stays between the corners of its box**, unless its columns and one more fill the range
of positions. -/
theorem between_of_mem_drawTitle {box : Area} {title : List Char} {stuck : Prop}
    (hbox : box.right ≤ width) (hrange : width < positions)
    (htitle : (titleColumns title + 1) % positions ≠ 0)
    (hstuck : ∀ span ∈ titleSpans title, ∀ g ∈ span.glyphs, g.Stuck → stuck)
    (h : s ∈ drawTitle width box title) :
    s.Between (box.x + 1) (box.right - 1) stuck := by
  have hcolumns : (titleSpans title).foldl (fun n s => n + s.width) 0 = titleColumns title := rfl
  simp only [drawTitle, hcolumns] at h
  split at h
  · cases h
  · next hroom =>
      rw [not_or] at hroom
      have hend : min width (box.x + 1 + (box.width - 2 -
          ((titleColumns title % positions + 1) % positions - 1)) / 2 +
            min (titleColumns title % positions) (box.width - 2)) ≤ box.right - 1 := by
        simp only [Area.right, positions] at *
        omega
      have hfits : box.right - 1 + 1 < positions := by
        simp only [Area.right] at *
        omega
      obtain ⟨hleft, hright, hlast⟩ := between_of_mem_drawSpans (by omega) hstuck h
      exact ⟨by omega, by omega, fun hx => hlast (by omega)⟩

/-! ## buttons and help -/

/-- The glyphs that fit into a row fit into its columns. -/
theorem extent_fitRow {room used : Nat} (row gs : List Glyph) (hused : used ≤ room)
    (hrow : extent row = used) :
    extent (fitRow room row used gs).1 = (fitRow room row used gs).2 ∧
      (fitRow room row used gs).2 ≤ room := by
  induction gs generalizing row used with
  | nil => exact ⟨by rw [fitRow, extent_reverse, hrow], hused⟩
  | cons g gs ih =>
      rw [fitRow]
      split
      · exact ih row hused hrow
      · split
        · exact ⟨by rw [extent_reverse, hrow], hused⟩
        · exact ih (g :: row) (by omega) (by rw [extent_cons, hrow, Nat.add_comm])

/-- **A row in an area stays between the columns of the area.** -/
theorem bounds_of_mem_drawAligned {a : Alignment} {area : Area} {spans : List Span}
    (h : s ∈ drawAligned a area spans) : area.x ≤ s.x ∧ s.x ≤ area.right := by
  rw [drawAligned, if_neg (by simp [isEmpty_of_mem_drawAligned h])] at h
  obtain ⟨hextent, hroom⟩ :=
    extent_fitRow [] (spans.flatMap Span.glyphs) (Nat.zero_le area.width) rfl
  generalize fitRow area.width [] 0 (spans.flatMap Span.glyphs) = fit at *
  obtain ⟨row, used⟩ := fit
  obtain ⟨_, hle, g, _, _, _, hend⟩ := mem_drawRow h
  simp only at hextent hroom
  cases a <;> simp only [Alignment.offset, Area.right] at * <;> omega

/-- Buttons and help are drawn within the box. -/
theorem holds_of_mem_footer (h : s ∈ footer width height f) :
    (dialogBox width height f).Holds s.x s.y ∧
      s.x + 1 < (dialogBox width height f).right := by
  have hrow {a : Alignment} {area : Area} {spans : List Span} {box : Area}
      (hroom : area.isEmpty = false → area.InRoom box) (hs : s ∈ drawAligned a area spans) :
      box.Holds s.x s.y ∧ s.x + 1 < box.right := by
    have hempty := isEmpty_of_mem_drawAligned hs
    have hy := mem_drawAligned hs
    have hpos := Area.pos_of_not_isEmpty hempty
    have hcolumns := bounds_of_mem_drawAligned hs
    have hright := (hroom hempty).right
    refine ⟨(hroom hempty).holds hcolumns.1 hcolumns.2 (Nat.le_of_eq hy.symm) ?_, by omega⟩
    simp only [Area.bottom]
    omega
  obtain ⟨_, hbuttons, hhelp⟩ := inRoom_sections (dialogBox width height f)
  rw [footer_eq, List.mem_append, buttonArea, helpArea, ← dialogBox] at h
  rcases h with h | h
  · exact hrow hbuttons h
  · exact hrow hhelp h

/-! ## the message -/

/-- A glyph of the message starts at a place: it fills columns, it stands in a row that the area of
the message has room for, and there the glyphs before it end. -/
structure StartsAt (width height : Nat) (f : Form) (g : Glyph) (x y : Nat) : Prop where
  room : (messageArea width height f).isEmpty = false
  row_le : (messageArea width height f).y ≤ y
  row_lt : y < (messageArea width height f).bottom
  width_ne : g.width ≠ 0
  behind : ∃ row before after, row ∈ wrapText (messageArea width height f).width
      f.request.message.toList {} ∧
    row = before ++ g :: after ∧ x = (messageArea width height f).x + extent before

/-- **What a message draws is its area, and its glyphs where they start.** -/
theorem exists_of_mem_drawMessage
    (h : s ∈ drawMessage (messageArea width height f) f.request.message.toList) :
    (messageArea width height f).Holds s.x s.y ∨ ∃ g, StartsAt width height f g s.x s.y := by
  have hrows := mem_drawMessage h
  unfold drawMessage at h
  split at h
  · cases h
  · next hroom =>
      rcases List.mem_append.1 h with h | h
      · exact .inl (holds_of_mem_fillArea h)
      · obtain ⟨i, row, hrow, hs⟩ := exists_of_mem_drawRows h
        obtain ⟨before, g, after, hsplit, hwidth, rfl⟩ := exists_of_mem_drawRow hs
        exact .inr ⟨g, {
          room := Bool.eq_false_iff.2 hroom
          row_le := hrows.1
          row_lt := hrows.2
          width_ne := hwidth
          behind := ⟨row, before, after, List.mem_of_mem_take (List.mem_of_getElem? hrow), hsplit,
            rfl⟩ }⟩

/-- A glyph of the message starts within the rows of the box, and not left of it. -/
theorem StartsAt.bounds {g : Glyph} (h : StartsAt width height f g x y) :
    (dialogBox width height f).x ≤ x ∧
      (dialogBox width height f).y ≤ y ∧
        y < (dialogBox width height f).bottom := by
  obtain ⟨hleft, _, htop, hbottom⟩ := inRoom_messageArea h.room
  obtain ⟨_, before, _, _, _, hx⟩ := h.behind
  have := h.row_le
  have := h.row_lt
  omega

/-- The glyphs of a message fill at least so many columns and at most so many. -/
def Fills (f : Form) (least most : Nat) : Prop :=
  ∀ gs ∈ messageLines f, ∀ g ∈ gs, least ≤ g.width ∧ g.width ≤ most

/-- Slim messages are made of glyphs of two columns at most. -/
theorem Slim.fills (h : Slim f) : Fills f 0 2 := fun gs hgs g hg => ⟨Nat.zero_le _, h gs hgs g hg⟩

/-- **A glyph starts the further behind the room the more the widths differ.** -/
theorem StartsAt.le {g : Glyph} {least most : Nat} (h : StartsAt width height f g x y)
    (hfills : Fills f least most) (hlt : least < most) (hmost : most < positions) :
    x + least + 3 ≤ (dialogBox width height f).right + most := by
  obtain ⟨row, before, after, hrow, hsplit, hx⟩ := h.behind
  have hroom := inRoom_messageArea h.room
  rcases mem_wrapText hrow with rfl | ⟨gs, hgs, hmem⟩
  · simp at hsplit
  · have hwithin : ∀ g ∈ gs, g.Within least (most - least - 1) := by
      intro g hg
      obtain ⟨hleast, hle⟩ := hfills gs hgs g hg
      have hadvance : g.advance = g.width := Nat.mod_eq_of_lt (Nat.lt_of_le_of_lt hle hmost)
      rw [Glyph.Within, hadvance]
      omega
    have hg : g ∈ gs := mem_of_mem_wrapLine hmem (by simp [hsplit])
    have hadvance : g.advance = g.width :=
      Nat.mod_eq_of_lt (Nat.lt_of_le_of_lt (hfills gs hgs g hg).2 hmost)
    have hstart := placed_wrapLine hwithin hmem hsplit
      (hadvance ▸ Nat.pos_of_ne_zero h.width_ne)
    have hright := hroom.right
    have hwidth := (Area.pos_of_not_isEmpty h.room).1
    simp only [Area.right] at hright ⊢
    omega

/-! ## the dialog -/

/-- A cell of the screen behind a dialog. -/
def backdrop : Cell := ⟨[' '], .foreground, .background⟩

/-- The box of a dialog is on the screen. -/
theorem onScreen_of_holds (h : (dialogBox width height f).Holds x y) : x < width ∧ y < height := by
  have hbox := centered_dialogBox width height f
  exact ⟨Nat.lt_of_lt_of_le h.2.1 hbox.right_le, Nat.lt_of_lt_of_le h.2.2.2 hbox.bottom_le⟩

/-- The strokes of a dialog upon the cleared screen and its cleared box. -/
def drawing (width height : Nat) (f : Form) : List Stroke :=
  edge width (dialogBox width height f) f.request.title.toList ++
    (drawMessage (messageArea width height f) f.request.message.toList ++ footer width height f)

/-- A popup is drawn on its ground. -/
theorem strokes_eq_drawing (width height : Nat) (f : Form) :
    strokes width height f =
      ground width height (dialogBox width height f) ++ drawing width height f := by
  rw [strokes_eq, drawing, dialogBox, List.append_assoc, List.append_assoc]

/-- What is drawn is the title, or in the box, or a glyph of the message. -/
theorem mem_drawing (h : s ∈ drawing width height f) :
    s ∈ drawTitle width (dialogBox width height f) f.request.title.toList ∨
      ((dialogBox width height f).Holds s.x s.y ∨ ∃ g, StartsAt width height f g s.x s.y) := by
  rw [drawing, edge] at h
  simp only [List.mem_append] at h
  rcases h with (h | h) | h | h
  · exact .inr (.inl (holds_of_mem_border h))
  · exact .inl h
  · rcases exists_of_mem_drawMessage h with hholds | hstarts
    · exact .inr (.inl ((inRoom_messageArea (Area.isEmpty_of_holds hholds)).holds hholds.1
        (Nat.le_of_lt hholds.2.1) hholds.2.2.1 hholds.2.2.2))
    · exact .inr (.inr hstarts)
  · exact .inr (.inl (holds_of_mem_footer h).1)

/-- The ground is the screen. -/
theorem onScreen_of_mem_ground
    (h : s ∈ ground width height (dialogBox width height f)) : s.x < width ∧ s.y < height := by
  simp only [ground, List.mem_append] at h
  rcases h with (h | h) | h
  · have hscreen := holds_of_mem_fillArea h
    simp only [Area.Holds, Area.right, Area.bottom] at hscreen
    omega
  · exact onScreen_of_holds (holds_of_mem_fillArea h)
  · exact onScreen_of_holds (holds_of_mem_fillArea h)

/-- Outside its box the ground is the backdrop. -/
theorem markAt_ground {box : Area} (hx : x < width) (hy : y < height) (hout : ¬box.Holds x y) :
    markAt x y {} (ground width height box) = backdrop := by
  have hscreen : (Area.mk 0 0 width height).Holds x y :=
    ⟨Nat.zero_le x, by simpa [Area.right] using hx, Nat.zero_le y, by simpa [Area.bottom] using hy⟩
  simp only [ground, markAt_append, markAt_fillArea (idempotent_paint _),
    markAt_fillArea idempotent_reset, if_pos hscreen, if_neg hout]
  rfl

section

variable (hrange : width < positions)
  (htitle : (titleColumns f.request.title.toList + 1) % positions ≠ 0)
include hrange htitle

/-- **What is drawn is in the box, but for glyphs of the message.** -/
theorem holds_of_mem_drawing (h : s ∈ drawing width height f) :
    (dialogBox width height f).Holds s.x s.y ∨ ∃ g, StartsAt width height f g s.x s.y := by
  rcases mem_drawing h with htitled | hdrawn
  · obtain ⟨hleft, hright, _⟩ := @between_of_mem_drawTitle _ _ _ _ True
      (centered_dialogBox width height f).right_le hrange htitle (fun _ _ _ _ _ => trivial) htitled
    have hrow := mem_drawTitle htitled
    have hpos := height_pos_of_mem_drawTitle htitled
    refine .inl ⟨by omega, by omega, by omega, ?_⟩
    simp only [Area.bottom]
    omega
  · exact hdrawn

/-- **Beside the box the screen is cleared**, but for glyphs of the message. -/
theorem markAt_outside (hx : x < width) (hy : y < height)
    (hout : ¬(dialogBox width height f).Holds x y) (hstarts : ∀ g, ¬StartsAt width height f g x y) :
    markAt x y {} (strokes width height f) = backdrop := by
  have hrest : ∀ s ∈ drawing width height f, ¬(s.x = x ∧ s.y = y) := by
    rintro s hs ⟨rfl, rfl⟩
    rcases holds_of_mem_drawing hrange htitle hs with hholds | ⟨g, hg⟩
    · exact hout hholds
    · exact hstarts g hg
  rw [strokes_eq_drawing, markAt_append, markAt_of_elsewhere hrest, markAt_ground hx hy hout]

/-- **The last column of the box is its border**, if no glyph of the message or of the title is in
it. -/
theorem narrow_last_column (hstuck : ∀ span ∈ titleSpans f.request.title.toList,
      ∀ g ∈ span.glyphs, ¬g.Stuck)
    (hstarts : ∀ g, ¬StartsAt width height f g x y)
    (hlast : x + 1 = (dialogBox width height f).right)
    (hholds : (dialogBox width height f).Holds x y) :
    Text.displayWidth (markAt x y {} (strokes width height f)).symbol ≤ 1 := by
  have hbox := centered_dialogBox width height f
  have hrest : ∀ s ∈ drawTitle width (dialogBox width height f) f.request.title.toList ++
      (drawMessage (messageArea width height f) f.request.message.toList ++
        footer width height f), ¬(s.x = x ∧ s.y = y) := by
    rintro s hs ⟨rfl, rfl⟩
    simp only [List.mem_append] at hs
    rcases hs with hs | hs | hs
    · obtain ⟨_, _, hend⟩ := @between_of_mem_drawTitle _ _ _ _ False hbox.right_le hrange htitle
        (fun span hspan g hg => hstuck span hspan g hg) hs
      exact hend (by omega)
    · rcases exists_of_mem_drawMessage hs with harea | ⟨g, hg⟩
      · have hright := (inRoom_messageArea (Area.isEmpty_of_holds harea)).right
        have := harea.2.1
        omega
      · exact hstarts g hg
    · have := (holds_of_mem_footer hs).2
      omega
  rw [strokes_eq_drawing, drawing, edge, List.append_assoc, ← List.append_assoc, markAt_append,
    markAt_of_elsewhere hrest]
  exact (plain_border width height hholds {}).narrow

end

/-- A message of glyphs of one and two columns starts none behind the second column from the right of
its box. -/
theorem StartsAt.lt_right {g : Glyph} (h : StartsAt width height f g x y) (hfills : Fills f 1 2) :
    x + 1 < (dialogBox width height f).right := by
  have := h.le hfills (by decide) (by decide)
  omega

section

variable (hrange : width < positions)
  (htitle : (titleColumns f.request.title.toList + 1) % positions ≠ 0) (hfills : Fills f 1 2)
  (hstuck : ∀ span ∈ titleSpans f.request.title.toList, ∀ g ∈ span.glyphs, ¬g.Stuck)
include hrange htitle hfills

/-- With glyphs of one and two columns there is the backdrop all around the box. -/
theorem markAt_outside_of_fills (hx : x < width) (hy : y < height)
    (hout : ¬(dialogBox width height f).Holds x y) :
    markAt x y {} (strokes width height f) = backdrop := by
  refine markAt_outside hrange htitle hx hy hout fun g hg => hout ?_
  have hplace := hg.bounds
  have hright := hg.lt_right hfills
  exact ⟨hplace.1, Nat.lt_of_succ_lt hright, hplace.2⟩

include hstuck

/-- **No cell beside the box is hidden.** -/
theorem hidden_outside {screen : Grid} (hframe : frame width height f = some screen) (hx : x < width)
    (hy : y < height) (hout : ¬(dialogBox width height f).Holds x y) :
    screen.hidden x y = false := by
  have hright := (centered_dialogBox width height f).right_le
  -- the cell before is beside the box as well, or in its last column
  have hbefore : ∀ x' y', x' < width → y' < height →
      ((dialogBox width height f).Holds x' y' → x' + 1 = (dialogBox width height f).right) →
      (screen.get? x' y').any Grid.hidesNext = false := by
    intro x' y' hx' hy' hlast
    rw [get?_frame hframe hx' hy', Option.any_some]
    refine decide_eq_false (Nat.not_lt.2 ?_)
    by_cases hholds : (dialogBox width height f).Holds x' y'
    · refine narrow_last_column hrange htitle hstuck (fun g hg => ?_) (hlast hholds) hholds
      exact Nat.ne_of_lt (hg.lt_right hfills) (hlast hholds)
    · rw [markAt_outside_of_fills hrange htitle hfills hx' hy' hholds]
      decide +kernel
  match x, y with
  | x + 1, y =>
      refine hbefore x y (Nat.lt_of_succ_lt hx) hy fun hholds => ?_
      simp only [Area.Holds] at hholds hout
      omega
  | 0, y + 1 =>
      rw [Grid.hidden, (size_frame hframe).1]
      refine hbefore (width - 1) y (Nat.sub_lt hx Nat.one_pos) (Nat.lt_of_succ_lt hy) fun hholds => ?_
      have := hholds.2.1
      omega
  | 0, 0 => rfl

end

/-- **The strokes of a dialog are on the screen**, but for glyphs of the message that start behind
the box. -/
theorem mem_strokes (hrange : width < positions)
    (htitle : (titleColumns f.request.title.toList + 1) % positions ≠ 0)
    (h : s ∈ strokes width height f) : s.x < width ∧ s.y < height ∨
      ∃ g, StartsAt width height f g s.x s.y ∧ (dialogBox width height f).right ≤ s.x := by
  have hbox := centered_dialogBox width height f
  have hright := hbox.right_le
  have hbottom := hbox.bottom_le
  rw [strokes_eq_drawing, List.mem_append] at h
  rcases h with h | h
  · exact .inl (onScreen_of_mem_ground h)
  · rcases holds_of_mem_drawing hrange htitle h with hholds | ⟨g, hg⟩
    · exact .inl (onScreen_of_holds hholds)
    · have hplace := hg.bounds
      by_cases hbehind : (dialogBox width height f).right ≤ s.x
      · exact .inr ⟨g, hg, hbehind⟩
      · exact .inl ⟨by omega, by omega⟩

/-! ## when a dialog can be drawn -/

/-- All strokes of a dialog are in the rows of the screen. -/
theorem row_of_mem_strokes (h : s ∈ strokes width height f) : s.y < height := by
  have hbottom := (centered_dialogBox width height f).bottom_le
  rw [strokes_eq_drawing, List.mem_append] at h
  rcases h with h | h
  · exact (onScreen_of_mem_ground h).2
  · rcases mem_drawing h with htitled | hholds | ⟨g, hg⟩
    · have hrow := mem_drawTitle htitled
      have hpos := height_pos_of_mem_drawTitle htitled
      simp only [Area.bottom] at hbottom
      omega
    · exact (onScreen_of_holds hholds).2
    · exact Nat.lt_of_lt_of_le hg.bounds.2.2 hbottom

/-- **A dialog can be drawn just if no stroke is behind the last column of the screen.** -/
theorem exists_frame_iff :
    (∃ screen, frame width height f = some screen) ↔ ∀ s ∈ strokes width height f, s.x < width := by
  rw [frame, Grid.exists_draw_iff]
  exact forall₂_congr fun s hs => and_iff_left (row_of_mem_strokes hs)

/-- **Only title and message may be behind the last column.** -/
theorem onScreen_iff : (∀ s ∈ strokes width height f, s.x < width) ↔
    (∀ s ∈ drawTitle width (dialogBox width height f) f.request.title.toList, s.x < width) ∧
      ∀ s ∈ drawMessage (messageArea width height f) f.request.message.toList, s.x < width := by
  simp only [strokes_eq_drawing, drawing, edge, List.forall_mem_append]
  constructor
  · rintro ⟨_, ⟨_, htitle⟩, hmessage, _⟩
    exact ⟨htitle, hmessage⟩
  · rintro ⟨htitle, hmessage⟩
    exact ⟨fun s hs => (onScreen_of_mem_ground hs).1,
      ⟨fun s hs => (onScreen_of_holds (holds_of_mem_border hs)).1, htitle⟩, hmessage,
      fun s hs => (onScreen_of_holds (holds_of_mem_footer hs).1).1⟩

section

variable (hrange : width < positions)
  (htitle : (titleColumns f.request.title.toList + 1) % positions ≠ 0)
include hrange htitle

/-- The title is on the screen, so it depends on the message alone whether a dialog can be drawn. -/
theorem onScreen_iff_message : (∀ s ∈ strokes width height f, s.x < width) ↔
    ∀ s ∈ drawMessage (messageArea width height f) f.request.message.toList, s.x < width := by
  refine onScreen_iff.trans (and_iff_right fun s hs => ?_)
  have hright := (centered_dialogBox width height f).right_le
  obtain ⟨hleft, hend, _⟩ := @between_of_mem_drawTitle _ _ _ _ True hright hrange htitle
    (fun _ _ _ _ _ => trivial) hs
  omega

/-- **A dialog can be drawn if the widths in its message differ by no more than the margin allows.** -/
theorem onScreen_of_fills {least most : Nat} (hfills : Fills f least most) (hlt : least < most)
    (hmost : most < positions)
    (hmargin : (dialogBox width height f).right + most ≤ width + least + 2) :
    ∀ s ∈ strokes width height f, s.x < width := by
  intro s hs
  rcases mem_strokes hrange htitle hs with hon | ⟨g, hg, _⟩
  · exact hon.1
  · have := hg.le hfills hlt hmost
    omega

/-- With enough room on its right, a popup can be drawn. -/
theorem exists_frame_of_fills {least most : Nat} (hfills : Fills f least most) (hlt : least < most)
    (hmost : most < positions)
    (hmargin : (dialogBox width height f).right + most ≤ width + least + 2) :
    ∃ screen, frame width height f = some screen :=
  exists_frame_iff.2 (onScreen_of_fills hrange htitle hfills hlt hmost hmargin)

end

/-- **The drawing of a dialog stays in its box, but for glyphs of the message**, and these start the
further behind it the more their widths differ: with widths of one and two columns none does, and no
cell beside the box is hidden by one in it.  The drawing fails just if one starts behind the last
column of the screen. -/
theorem drawn_in_box {width height : Nat} {f : Form} (hrange : width < positions)
    (htitle : (titleColumns f.request.title.toList + 1) % positions ≠ 0) :
    (dialogBox width height f).Centered width height ∧
    (∀ s ∈ strokes width height f, s.x < width ∧ s.y < height ∨
      ∃ g, StartsAt width height f g s.x s.y ∧ (dialogBox width height f).right ≤ s.x) ∧
    ((∃ screen, frame width height f = some screen) ↔
      ∀ s ∈ strokes width height f, s.x < width) ∧
    (∀ screen, frame width height f = some screen →
      ∀ x < width, ∀ y < height, ¬(dialogBox width height f).Holds x y →
        screen.get? x y = some backdrop ∨
          ∃ g, StartsAt width height f g x y ∧ (dialogBox width height f).right ≤ x) ∧
    (∀ least most, Fills f least most → least < most → most < positions →
      ∀ g x y, StartsAt width height f g x y →
        x + least + 3 ≤ (dialogBox width height f).right + most) ∧
    (Fills f 1 2 →
      (∀ span ∈ titleSpans f.request.title.toList, ∀ g ∈ span.glyphs, ¬g.Stuck) →
      ∃ screen, frame width height f = some screen ∧
        ∀ x < width, ∀ y < height, ¬(dialogBox width height f).Holds x y →
          screen.shown? x y = some backdrop) := by
  refine ⟨centered_dialogBox width height f, fun s hs => mem_strokes hrange htitle hs,
    exists_frame_iff, ?_, fun least most hfills hlt hmost g x y hg => hg.le hfills hlt hmost, ?_⟩
  · intro screen hframe x hx y hy hout
    by_cases hstarts : ∃ g, StartsAt width height f g x y
    · obtain ⟨g, hg⟩ := hstarts
      have hplace := hg.bounds
      refine .inr ⟨g, hg, ?_⟩
      simp only [Area.Holds] at hout
      omega
    · rw [not_exists] at hstarts
      exact .inl (by rw [get?_frame hframe hx hy, markAt_outside hrange htitle hx hy hout hstarts])
  · intro hfills hstuck
    have hright := (centered_dialogBox width height f).right_le
    obtain ⟨screen, hframe⟩ := @exists_frame_of_fills width height f hrange htitle 1 2 hfills
      (by decide) (by decide) (by omega)
    refine ⟨screen, hframe, fun x hx y hy hout => ?_⟩
    rw [shown?_frame_eq hframe hx hy, hidden_outside hrange htitle hfills hstuck hframe hx hy hout,
      markAt_outside_of_fills hrange htitle hfills hx hy hout, if_neg Bool.false_ne_true]

/-- Fifty-three letters behind a word, then three consonants that are drawn as one glyph of six
columns, and a letter. -/
def wedgedMessage : List Char :=
  ['x', ' '] ++ List.replicate 53 'a' ++ ['ᄀ', 'ᄀ', 'ᄀ', 'b']

/-- A dialog with that message. -/
def wedgedForm : Form where
  request :=
    { title := "Wi-Fi"
      message := String.ofList wedgedMessage
      acceptText := "Yes"
      declineText := "No" }
  icons := .ascii

/-- The last letter is drawn in the second column behind the box. -/
theorem drawn_in_box_wedged :
    (80 < positions ∧ (titleColumns wedgedForm.request.title.toList + 1) % positions ≠ 0 ∧
      Fills wedgedForm 1 6) ∧
      dialogBox 80 24 wedgedForm = ⟨10, 7, 60, 10⟩ ∧
      (∃ screen, frame 80 24 wedgedForm = some screen ∧
        screen.shown? 71 10 = some ⟨['b'], .foreground, .background⟩) ∧
      (∃ g, StartsAt 80 24 wedgedForm g 71 10) ∧
      ∀ g x y, StartsAt 80 24 wedgedForm g x y → x ≤ 72 := by
  have hmessage : wedgedForm.request.message.toList = wedgedMessage := String.toList_ofList
  have htitle : (titleColumns wedgedForm.request.title.toList + 1) % positions ≠ 0 := by
    decide +kernel
  have hfills : Fills wedgedForm 1 6 := by
    rw [Fills, messageLines, hmessage]
    decide +kernel
  have hbox : dialogBox 80 24 wedgedForm = ⟨10, 7, 60, 10⟩ := by
    rw [dialogBox, hmessage]
    decide +kernel
  have hcells : markAt 70 10 {} (strokes 80 24 wedgedForm) = backdrop ∧
      markAt 71 10 {} (strokes 80 24 wedgedForm) = ⟨['b'], .foreground, .background⟩ := by
    rw [strokes_eq_drawing, markAt_append, markAt_append, hbox, markAt_ground (by decide) (by decide)
      (by decide), markAt_ground (by decide) (by decide) (by decide), drawing, hbox, messageArea,
      footer, hmessage]
    decide +kernel
  obtain ⟨screen, hframe⟩ := @exists_frame_of_fills 80 24 _ (by decide) htitle 1 6
    hfills (by decide) (by decide) (by rw [hbox]; decide)
  obtain ⟨_, _, _, houtside, hreach, _⟩ := @drawn_in_box 80 24 wedgedForm (by decide) htitle
  have hget := get?_frame hframe (by decide : 71 < 80) (by decide : 10 < 24)
  have hshown := shown?_frame hframe (by decide : 0 < 71) (by decide : 71 < 80)
    (by decide : 10 < 24) (by rw [hcells.1]; decide +kernel)
  rw [hcells.2] at hget hshown
  rw [hbox] at houtside hreach
  refine ⟨⟨by decide, htitle, hfills⟩, hbox, ⟨screen, hframe, hshown⟩, ?_, fun g x y hg => ?_⟩
  · rcases houtside screen hframe 71 (by decide) 10 (by decide) (by decide) with hblank | ⟨g, hg, _⟩
    · rw [hget] at hblank
      exact absurd hblank (by decide)
    · exact ⟨g, hg⟩
  · have hle := hreach 1 6 hfills (by decide) (by decide) g x y hg
    simp only [Area.right] at hle
    omega

end MacConsent.Screen
