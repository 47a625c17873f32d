import MacConsent.Proofs.Screen.Drawn
import MacConsent.Proofs.Screen.Plain

/-!
# MacConsent.Proofs.Screen.Message

The message of a dialog on a screen that has room for the box.  The box is as high
as the rows that were counted for the message, and one row more; what is drawn are
the rows that the message is wrapped into, as far as the box has room for them.

1. `popup_eq` and `sections_eq` give the places on such a screen.
2. A glyph in a row that the box has room for is shown where the glyphs before it
   end (`shown_glyph`), and what stands in the rows behind is not drawn
   (`drawnFrom_frame`).
3. The rows hold the message but for blanks (`ink_messageRows`), and a narrow
   message has no more rows than were counted (`length_messageRows_le`).
-/

namespace MacConsent.Screen

open Dialog (Form)

/-- The columns for a message on a screen that is wide enough. -/
def messageWidth : Nat := 56

/-- The rows that were counted for the message of a dialog. -/
def countedRows (f : Form) : Nat := Text.lineCount messageWidth f.request.message.toList

/-- The rows that the message of a dialog is wrapped into. -/
def messageRows (f : Form) : List (List Glyph) :=
  wrapText messageWidth f.request.message.toList {}

/-- The lines of the message of a dialog. -/
def messageLines (f : Form) : List (List Glyph) :=
  (Text.lines f.request.message.toList).map fun line => (Span.mk line {}).glyphs

/-- The area of the message of a dialog. -/
def messageArea (width height : Nat) (f : Form) : Area :=
  (sections (inside (popup width height f.request.message.toList))).1

/-- The strokes of the buttons and of the help. -/
def footer (width height : Nat) (f : Form) : List Stroke :=
  let places := sections (inside (popup width height f.request.message.toList))
  drawAligned .right places.2.1 (buttonRow f) ++ drawAligned .center places.2.2 (helpRow f)

/-- The strokes of a popup: what is under the message, the message, and the footer. -/
theorem strokes_eq (width height : Nat) (f : Form) :
    strokes width height f =
      (ground width height (popup width height f.request.message.toList) ++
        edge width (popup width height f.request.message.toList) f.request.title.toList) ++
      drawMessage (messageArea width height f) f.request.message.toList ++
      footer width height f := by
  simp only [strokes, ground, edge, footer, messageArea, List.append_assoc]

/-- The screen has room for the box of a dialog. -/
structure Roomy (width height : Nat) (f : Form) : Prop where
  wide : 60 ≤ width
  high : countedRows f + 7 ≤ height
  inRange : height < positions

/-! ## places -/

section

variable {width height : Nat} {f : Form} (h : Roomy width height f)
include h

/-- The place of the box on a roomy screen. -/
theorem popup_eq : popup width height f.request.message.toList =
    ⟨(width - 60) / 2, (height - (countedRows f + 7)) / 2, 60, countedRows f + 7⟩ := by
  obtain ⟨hwide, hhigh, hrange⟩ := h
  have hwidth : min dialogWidth width = 60 := Nat.min_eq_left hwide
  have hlines : min (positions - 1) (countedRows f) = countedRows f := by omega
  have hbox : min (min (positions - 1) (countedRows f + 7)) height = countedRows f + 7 := by omega
  have hcount : Text.lineCount (max 1 (60 - 4)) f.request.message.toList = countedRows f := rfl
  simp only [popup, hwidth, hcount, hlines, hbox]

/-- The places of message, buttons and help on a roomy screen. -/
theorem sections_eq :
    sections (inside (popup width height f.request.message.toList)) =
      (⟨(width - 60) / 2 + 2, (height - (countedRows f + 7)) / 2 + 2, messageWidth,
          countedRows f + 1⟩,
        ⟨(width - 60) / 2 + 2, (height - (countedRows f + 7)) / 2 + 2 + (countedRows f + 1) + 1,
          messageWidth, 1⟩,
        ⟨(width - 60) / 2 + 2, (height - (countedRows f + 7)) / 2 + 2 + (countedRows f + 1) + 1 + 1,
          messageWidth, 1⟩) := by
  rw [popup_eq h]
  rfl

/-- The area of the message has a row more than are counted. -/
theorem messageArea_eq : messageArea width height f =
    ⟨(width - 60) / 2 + 2, (height - (countedRows f + 7)) / 2 + 2, messageWidth,
      countedRows f + 1⟩ := by
  rw [messageArea, sections_eq h]

/-- Buttons and help stand below the message. -/
theorem mem_footer {s : Stroke} (hs : s ∈ footer width height f) :
    (messageArea width height f).bottom < s.y := by
  rw [messageArea_eq h]
  simp only [footer, sections_eq h, List.mem_append] at hs
  rcases hs with hs | hs
  · have := mem_drawAligned hs
    simp only [Area.bottom] at this ⊢
    omega
  · have := mem_drawAligned hs
    simp only [Area.bottom] at this ⊢
    omega

/-- The message is drawn row by row, as far as its area goes. -/
theorem drawMessage_eq :
    drawMessage (messageArea width height f) f.request.message.toList =
      fillArea (messageArea width height f) (.paint (.ink .foreground)) ++
        drawRows (messageArea width height f).x (messageArea width height f).y
          ((messageRows f).take (countedRows f + 1)) := by
  rw [messageArea_eq h, drawMessage, if_neg (by simp [Area.isEmpty, messageWidth])]
  rfl

/-! ## the rows of a message -/

/-- **In a row that the area has room for, the row is drawn upon plain cells.** -/
theorem markAt_strokes {i : Nat} {row : List Glyph} (hi : i ≤ countedRows f)
    (hrow : (messageRows f)[i]? = some row) {x : Nat}
    (hleft : (messageArea width height f).x ≤ x + 2)
    (hright : x < (messageArea width height f).x + messageWidth + 2) :
    ∃ c : Cell, c.Plain ∧
      markAt x ((messageArea width height f).y + i) {} (strokes width height f) =
        markAt x ((messageArea width height f).y + i) c
          (drawRow ((messageArea width height f).y + i) [] (messageArea width height f).x row) := by
  have harea := messageArea_eq h
  generalize hy : (messageArea width height f).y + i = y
  have hfooter : ∀ s ∈ footer width height f, ¬(s.x = x ∧ s.y = y) := by
    rintro s hs ⟨_, hsy⟩
    have hbottom := mem_footer h hs
    rw [harea] at hbottom hy
    simp only [Area.bottom] at hbottom hy
    omega
  have hbox : (popup width height f.request.message.toList).Holds x y ∧
      y ≠ (popup width height f.request.message.toList).y := by
    rw [popup_eq h]
    rw [harea] at hleft hright hy
    simp only [Area.Holds, Area.right, Area.bottom, messageWidth] at hleft hright hy ⊢
    omega
  have hplain := plain_box width height f.request.title.toList hbox.1 hbox.2 {}
  rw [strokes_eq, markAt_append, markAt_of_elsewhere hfooter, markAt_append, drawMessage_eq h,
    markAt_append]
  generalize markAt x y {} _ = c at hplain ⊢
  have hpainted : (markAt x y c
      (fillArea (messageArea width height f) (.paint (.ink .foreground)))).Plain := by
    rw [markAt_fillArea (idempotent_paint _)]
    split
    · exact hplain.paint
    · exact hplain
  refine ⟨_, hpainted, ?_⟩
  rw [← hy]
  exact markAt_drawRows (by rw [List.getElem?_take_of_lt (by omega), hrow]) x _

end

section

variable {width height x y : Nat} {f : Form} {screen : Grid}
  (h : frame width height f = some screen)
include h

/-- A screen with a dialog keeps its size. -/
theorem size_frame : screen.width = width ∧ screen.height = height := Grid.size_of_draw h

/-- **A cell of a screen with a dialog holds what the strokes at its place make of it.** -/
theorem get?_frame (hx : x < width) (hy : y < height) :
    screen.get? x y = some (markAt x y {} (strokes width height f)) := by
  rw [Grid.get?_of_draw h, Grid.get?_blank, if_pos ⟨hx, hy⟩]
  rfl

/-- It is shown unless the cell before hides it. -/
theorem shown?_frame_eq (hx : x < width) (hy : y < height) :
    screen.shown? x y =
      some (if screen.hidden x y then {} else markAt x y {} (strokes width height f)) := by
  obtain ⟨hwidth, hheight⟩ := size_frame h
  rw [Grid.shown?_eq_hidden _ (hwidth.symm ▸ hx) (hheight.symm ▸ hy), get?_frame h hx hy,
    Option.map_some]

/-- What stands behind a symbol of one column is shown. -/
theorem shown?_frame (hpos : 0 < x) (hx : x < width) (hy : y < height)
    (hbefore : Text.displayWidth (markAt (x - 1) y {} (strokes width height f)).symbol ≤ 1) :
    screen.shown? x y = some (markAt x y {} (strokes width height f)) := by
  obtain ⟨hwidth, hheight⟩ := size_frame h
  rw [Grid.shown?_of_narrow _ hpos (hwidth.symm ▸ hx) (hheight.symm ▸ hy)
    (get?_frame h (Nat.lt_of_le_of_lt (Nat.sub_le x 1) hx) hy) hbefore, get?_frame h hx hy]

end

/-- A row of a message is a row of one of its lines, or the only row of an empty message. -/
theorem mem_wrapText {room : Nat} {f : Form} {row : List Glyph}
    (hrow : row ∈ wrapText room f.request.message.toList {}) :
    row = [] ∨ ∃ gs ∈ messageLines f, row ∈ wrapLine room gs := by
  obtain ⟨line, hline, hmem⟩ := List.mem_flatMap.1 hrow
  split at hline
  · rw [List.mem_singleton.1 hline] at hmem
    exact .inl (List.mem_singleton.1 hmem)
  · exact .inr ⟨_, List.mem_map.2 ⟨line, hline, rfl⟩, hmem⟩

/-- The glyphs of a message leave the colours. -/
theorem style_of_mem_messageLines {f : Form} {gs : List Glyph} (hgs : gs ∈ messageLines f)
    {g : Glyph} (hg : g ∈ gs) : g.style = {} := by
  obtain ⟨line, _, rfl⟩ := List.mem_map.1 hgs
  obtain ⟨_, _, rfl⟩ := List.mem_map.1 hg
  rfl

/-- No glyph of a message fills more than two columns. -/
def Slim (f : Form) : Prop := ∀ gs ∈ messageLines f, ∀ g ∈ gs, g.width ≤ 2

/-- A glyph is shown at a place on a screen, in a colour of the dialog. -/
def ShownAt (screen : Grid) (g : Glyph) (x y : Nat) : Prop :=
  ∃ color, (color = Color.foreground ∨ color = .cyan) ∧
    screen.shown? x y = some ⟨g.symbol, color, .background⟩

/-- **A glyph in a row that the area has room for is shown where the glyphs before it end.** -/
theorem shown_glyph {width height : Nat} {f : Form} (h : Roomy width height f) (hslim : Slim f)
    {screen : Grid} (hframe : frame width height f = some screen) {i : Nat} (hi : i ≤ countedRows f)
    {row before after : List Glyph} {g : Glyph} (hrow : (messageRows f)[i]? = some row)
    (hsplit : row = before ++ g :: after) (hpos : 0 < g.width) :
    ShownAt screen g ((messageArea width height f).x + extent before)
      ((messageArea width height f).y + i) := by
  have hg : g ∈ row := by simp [hsplit]
  rcases mem_wrapText (List.mem_of_getElem? hrow) with rfl | ⟨gs, hgs, hmem⟩
  · cases hg
  have hnarrow : ∀ g ∈ row, g.width ≤ 2 := fun g hg => hslim gs hgs g (mem_of_mem_wrapLine hmem hg)
  have hadvance : ∀ g ∈ gs, g.Within 0 1 := fun g hg =>
    ⟨Nat.zero_le _, Nat.le_trans (Nat.mod_le _ _) (hslim gs hgs g hg)⟩
  have hstart : extent before ≤ messageWidth + 1 :=
    placed_wrapLine hadvance hmem hsplit (advance_eq_width (hnarrow g hg) ▸ hpos)
  have hstyle : g.style = {} := style_of_mem_messageLines hgs (mem_of_mem_wrapLine hmem hg)
  have harea := messageArea_eq h
  have hwide := h.wide
  have hhigh := h.high
  generalize hx : (messageArea width height f).x + extent before = x
  generalize hy : (messageArea width height f).y + i = y
  have hon : 0 < x ∧ x < width ∧ y < height := by
    rw [harea] at hx hy
    simp only [messageWidth] at hstart hx hy
    omega
  obtain ⟨c, hplain, hcell⟩ := markAt_strokes h hi hrow (x := x) (by omega) (by omega)
  obtain ⟨b, hblank, hbefore⟩ := markAt_strokes h hi hrow (x := x - 1) (by omega) (by omega)
  rw [hy] at hcell hbefore
  subst hsplit
  have hglyph : markAt x y {} (strokes width height f) = ⟨g.symbol, c.fg, .background⟩ := by
    rw [hcell, ← hx, markAt_drawRow hnarrow hpos, hstyle, ← hplain.bg]
    rfl
  have hbeside : Text.displayWidth (markAt (x - 1) y {} (strokes width height f)).symbol ≤ 1 := by
    rw [hbefore]
    exact displayWidth_markAt_drawRow (fun g hg => hnarrow g (List.mem_append_left _ hg))
      (by omega) hblank.narrow
  exact ⟨c.fg, hplain.fg, hglyph ▸ shown?_frame hframe hon.1 hon.2.1 hon.2.2 hbeside⟩

/-! ## what is not drawn -/

/-- A character of the border, of the title, of a button or of the help. -/
def DrawnAround (width height : Nat) (f : Form) (ch : Char) : Prop :=
  ∃ s ∈ edge width (popup width height f.request.message.toList) f.request.title.toList ++
    footer width height f, ch ∈ s.mark.text

/-- A character of the rows that the area has room for. -/
def DrawnInside (f : Form) (ch : Char) : Prop :=
  ∃ row ∈ (messageRows f).take (countedRows f + 1), ∃ g ∈ row, ch ∈ g.symbol

/-- Filling an area writes the text of its mark only. -/
theorem text_of_mem_fillArea {area : Area} {m : Mark} {s : Stroke} (hs : s ∈ fillArea area m) :
    s.mark.text = m.text := by
  obtain ⟨_, _, rfl⟩ := List.mem_map.1 hs
  rfl

/-- Every character of a popup is of its frame, its buttons, its help or its message. -/
theorem drawn_strokes {width height : Nat} {f : Form} (h : Roomy width height f) :
    ∀ s ∈ strokes width height f, ∀ ch ∈ s.mark.text,
      DrawnAround width height f ch ∨ DrawnInside f ch := by
  intro s hs ch hch
  rw [strokes_eq, drawMessage_eq h] at hs
  simp only [ground, List.mem_append] at hs
  have hfill {area : Area} {m : Mark} (hm : m.text = []) (hs : s ∈ fillArea area m) : False := by
    rw [text_of_mem_fillArea hs, hm] at hch
    cases hch
  rcases hs with ((((hs | hs) | hs) | hs) | hs | hs) | hs
  · exact (hfill rfl hs).elim
  · exact (hfill rfl hs).elim
  · exact (hfill rfl hs).elim
  · exact .inl ⟨s, List.mem_append_left _ hs, hch⟩
  · exact (hfill rfl hs).elim
  · obtain ⟨_, _, row, hrow, g, hg, hmark⟩ := mem_drawRows hs
    rw [hmark] at hch
    exact .inr ⟨row, hrow, g, hg, hch⟩
  · exact .inl ⟨s, List.mem_append_right _ hs, hch⟩

/-- **What stands behind the rows of the area is not shown.** -/
theorem drawnFrom_frame {width height : Nat} {f : Form} (h : Roomy width height f) {screen : Grid}
    (hframe : frame width height f = some screen) :
    ∀ row ∈ screen.shown, ∀ c ∈ row,
      c.DrawnFrom fun ch => DrawnAround width height f ch ∨ DrawnInside f ch :=
  Grid.drawnFrom_shown
    (Grid.drawnFrom_of_draw (drawn_strokes h) hframe (Grid.drawnFrom_blank _ width height))

/-! ## the rows and the message -/

/-- The rows of a message are those of its lines. -/
theorem messageRows_eq {f : Form} (hne : f.request.message.toList ≠ []) :
    messageRows f = (messageLines f).flatMap (wrapLine messageWidth) := by
  rw [messageRows, wrapText, if_neg (by simpa using hne), messageLines, List.flatMap_map]

theorem messageRows_of_nil {f : Form} (hnil : f.request.message.toList = []) :
    messageRows f = [[]] ∧ messageLines f = [] := by
  rw [messageRows, messageLines, hnil]
  exact ⟨rfl, rfl⟩

/-- Wrapping keeps the ink of all lines, up to glyphs too wide for any row. -/
theorem ink_flatMap_wrapLine (room : Nat) (ls : List (List Glyph)) :
    ink (ls.flatMap (wrapLine room)).flatten =
      ink (ls.flatten.filter fun g => decide (g.advance ≤ room)) := by
  induction ls with
  | nil => rfl
  | cons gs ls ih =>
      rw [List.flatMap_cons, List.flatten_append, ink_append, ink_wrapLine, ih, List.flatten_cons,
        List.filter_append, ink_append]

/-- **The rows of a message hold it but for blanks**, and but for glyphs too wide for any row. -/
theorem ink_messageRows (f : Form) :
    ink (messageRows f).flatten =
      ink ((messageLines f).flatten.filter fun g => decide (g.advance ≤ messageWidth)) := by
  by_cases hnil : f.request.message.toList = []
  · rw [(messageRows_of_nil hnil).1, (messageRows_of_nil hnil).2]
    rfl
  · rw [messageRows_eq hnil, ink_flatMap_wrapLine]

/-- **A narrow message has no more rows than were counted.** -/
theorem length_messageRows_le {f : Form} (hnarrow : ∀ gs ∈ messageLines f, Narrow gs) :
    (messageRows f).length ≤ countedRows f := by
  by_cases hnil : f.request.message.toList = []
  · rw [(messageRows_of_nil hnil).1, countedRows, Text.lineCount_eq]
    exact Nat.le_max_left _ _
  · rw [messageRows_eq hnil, countedRows, Text.lineCount_eq_sum _ hnil, messageLines,
      List.flatMap_map, List.length_flatMap]
    refine List.sum_le_sum fun line hline => ?_
    have hroom : 0 < messageWidth := by decide
    have hle := (hnarrow _ (List.mem_map.2 ⟨line, hline, rfl⟩)).length_wrapLine_le hroom
    rwa [flatMap_symbol_glyphs (Text.feed_not_mem_of_mem_lines hline)] at hle

end MacConsent.Screen
