import MacConsent.Proofs.Screen.Aligned
import MacConsent.Proofs.Screen.Reach

/-!
# MacConsent.Proofs.Screen.Buttons

The row of the buttons and the line of help on a screen.

1. The row spells the buttons in their order, two blanks apart (`textOf_buttonRow`).
   If the labels are printable it is thin, and so is the line of help
   (`thin_buttonRow`, `thin_helpRow`).
2. A thin row is shown character by character, as far as its area reaches
   (`showsText_of_row`).

On a screen of at least seven rows there is room for the buttons however many rows a
message has, as long as their row is not wider than the box.  They are shown just if the
dialog can be drawn at all, which no message of glyphs of one or two columns prevents
(`buttons_shown_iff`).
-/

namespace MacConsent.Screen

open Dialog (Button Form IconSet)

/-! ## the text of the rows -/

/-- A button as it is spelled. -/
def buttonText (f : Form) (b : Button) : List Char :=
  if f.selected = b then
    f.icons.buttonLeft.toList ++ (f.label b).toList ++ f.icons.buttonRight.toList
  else ' ' :: (f.label b).toList ++ [' ']

/-- The row of the buttons as it is spelled. -/
def rowText (f : Form) : List Char := [' ', ' '].intercalate (f.buttons.map (buttonText f))

/-- The columns for the row: each label and two more, and two between buttons. -/
def rowColumns (f : Form) : Nat :=
  (f.buttons.map fun b => (f.label b).toList.length + 2).sum + 2 * (f.buttons.length - 1)

/-- The line of help as it is spelled. -/
def helpText (f : Form) : List Char :=
  f.icons.tabNext.toList ++ " switch • ".toList ++ f.icons.enter.toList ++
    " select • esc cancel".toList

/-- The labels of the buttons are printable. -/
def PrintableLabels (f : Form) : Prop :=
  ∀ b ∈ f.buttons, ∀ c ∈ (f.label b).toList, Text.IsPrintable c

/-- The columns of a sign beside the label of a selected button. -/
def signWidth : IconSet → Nat
  | .nerd => 0
  | .ascii => 1

/-- Both signs of a selected button have the same width. -/
theorem length_signs (icons : IconSet) :
    icons.buttonLeft.toList.length = signWidth icons ∧
      icons.buttonRight.toList.length = signWidth icons := by
  cases icons <;> decide

/-- A button is as wide as its label and its signs. -/
theorem length_buttonText (f : Form) (b : Button) :
    (buttonText f b).length =
      (f.label b).toList.length + if f.selected = b then 2 * signWidth f.icons else 2 := by
  unfold buttonText
  split
  · simp [length_signs]
    omega
  · simp

/-- No button is wider than its label and two columns. -/
theorem length_buttonText_le (f : Form) (b : Button) :
    (buttonText f b).length ≤ (f.label b).toList.length + 2 := by
  rw [length_buttonText]
  cases f.icons <;> grind [signWidth]

/-- The neutral button stands between the two others. -/
theorem buttons_cases (f : Form) :
    f.buttons = [.accept, .decline] ∨ f.buttons = [.accept, .neutral, .decline] := by
  cases h : f.request.neutralText <;> simp [Form.buttons, h]

/-- The row of buttons has room for whichever is selected. -/
theorem length_rowText_le (f : Form) : (rowText f).length ≤ rowColumns f := by
  have haccept := length_buttonText_le f .accept
  have hneutral := length_buttonText_le f .neutral
  have hdecline := length_buttonText_le f .decline
  rcases buttons_cases f with h | h <;>
    simp [rowText, rowColumns, h, List.intercalate, List.intersperse] <;> omega

/-- The spans of a button spell its text. -/
theorem textOf_buttonSpans (f : Form) (b : Button) :
    textOf (buttonSpans f b) = buttonText f b := by
  unfold buttonSpans buttonText
  split <;> simp [textOf]

/-- **The row spells the buttons in their order.** -/
theorem textOf_buttonRow (f : Form) : textOf (buttonRow f) = rowText f := by
  have happend (ss ts : List Span) : textOf (ss ++ ts) = textOf ss ++ textOf ts := by simp [textOf]
  have hcons (s : Span) (ss : List Span) : textOf (s :: ss) = s.text ++ textOf ss := by simp [textOf]
  rcases buttons_cases f with h | h <;>
    simp [buttonRow, rowText, h, happend, hcons, textOf_buttonSpans, List.intercalate,
      List.intersperse]

theorem textOf_helpRow (f : Form) : textOf (helpRow f) = helpText f := by
  cases h : f.icons <;> simp [helpRow, helpText, textOf, h]

theorem thin_buttonSpans {f : Form} {b : Button}
    (h : ∀ c ∈ (f.label b).toList, Text.IsPrintable c) : ∀ s ∈ buttonSpans f b, Thin s.text := by
  have hsigns : ∀ icons : IconSet,
      Thin icons.buttonLeft.toList ∧ Thin icons.buttonRight.toList := by
    intro icons
    cases icons <;> decide +kernel
  have hblank : Text.IsPrintable ' ' := by decide
  unfold buttonSpans
  split
  · simp [thin_of_printable h, hsigns]
  · have hpadded : ∀ c ∈ ' ' :: (f.label b).toList ++ [' '], Text.IsPrintable c := by grind
    simpa using thin_of_printable hpadded

/-- Where the labels are printable, so is the row of buttons. -/
theorem thin_buttonRow {f : Form} (h : PrintableLabels f) : ∀ s ∈ buttonRow f, Thin s.text := by
  have hgap : Thin [' ', ' '] := by decide +kernel
  have hbutton : ∀ b ∈ f.buttons, ∀ s ∈ buttonSpans f b, Thin s.text := fun b hb =>
    thin_buttonSpans (h b hb)
  rcases buttons_cases f with hcases | hcases <;> rw [hcases] at hbutton <;>
    simp only [buttonRow, hcases] <;> grind

theorem thin_helpRow (f : Form) : ∀ s ∈ helpRow f, Thin s.text := by
  have hparts : ∀ icons : IconSet,
      Thin icons.tabNext.toList ∧ Thin " switch • ".toList ∧ Thin icons.enter.toList ∧
        Thin " select • ".toList ∧ Thin "esc".toList ∧ Thin " cancel".toList := by
    intro icons
    cases icons <;> decide +kernel
  simpa [helpRow] using hparts f.icons

/-! ## rows on a screen -/

/-- A text is shown from a place to the right, each character in a cell of its own. -/
def Grid.ShowsText (screen : Grid) (x y : Nat) (text : List Char) : Prop :=
  ∀ i c, text[i]? = some c → ∃ fg bg, screen.shown? (x + i) y = some ⟨[c], fg, bg⟩

section

variable {width height : Nat} {f : Form} {a : Alignment} {spans : List Span}

variable (hspans : ∀ s ∈ spans, Thin s.text) {box area : Area} {y : Nat}
  (hbox : popup width height f.request.message.toList = box) (hroom : 4 < box.width)
  (hy : box.y < y ∧ y < box.bottom) (harea : area = ⟨box.x + 2, y, box.width - 4, 1⟩)
  (hrow : ∀ x, markAt x area.y {} (strokes width height f) =
    markAt x area.y (markAt x area.y {} (emptyBox width height f)) (drawAligned a area spans))
include hspans hbox hroom hy harea hrow

/-- A thin row that is drawn upon the empty box hides nothing. -/
theorem narrow_of_row {x : Nat} (hle : area.x ≤ x + 1) (hlt : x < area.right) :
    Text.displayWidth (markAt x y {} (strokes width height f)).symbol ≤ 1 := by
  have hyarea : area.y = y := by rw [harea]
  have hempty : area.isEmpty = false := by
    simp [harea, Area.isEmpty]
    omega
  rw [← hyarea, hrow]
  rcases markAt_drawAligned_cases hspans hempty x _ with ⟨i, g, _, _, hg, hmark⟩ | hmark
  · rw [hmark]
    exact Nat.le_of_eq (width_of_mem_glyphsOf hspans (List.mem_of_getElem? hg))
  · have hholds : box.Holds x y := by
      simp only [harea, Area.Holds, Area.right] at hle hlt ⊢
      omega
    rw [← hbox] at hholds hy
    rw [hmark, hyarea]
    exact (plain_emptyBox hholds (by omega)).narrow

/-- **A thin row that is drawn upon the empty box is shown as far as its area reaches.** -/
theorem showsText_of_row {screen : Grid} (hframe : frame width height f = some screen) :
    screen.ShowsText (startOf a area spans) y ((textOf spans).take area.width) := by
  have hyarea : area.y = y := by rw [harea]
  have hempty : area.isEmpty = false := by
    simp [harea, Area.isEmpty]
    omega
  intro i c hc
  have hi : i < area.width ∧ i < (textOf spans).length := by
    have := (List.getElem?_eq_some_iff.1 hc).1
    rw [List.length_take] at this
    omega
  rw [List.getElem?_take_of_lt hi.1] at hc
  obtain ⟨g, hg⟩ : ∃ g, (glyphsOf spans)[i]? = some g :=
    ⟨_, List.getElem?_eq_getElem ((length_glyphsOf hspans).symm ▸ hi.2)⟩
  obtain ⟨c', hc', hsymbol⟩ := symbol_of_getElem? hspans hg
  obtain rfl := Option.some.inj (hc.symm.trans hc')
  have hbounds := startOf_bounds a area spans
  have hleft : area.x = box.x + 2 ∧ area.right = box.x + 2 + (box.width - 4) := by
    rw [harea]
    exact ⟨rfl, rfl⟩
  have hscreen : box.Centered width height := hbox ▸ centered_popup width height _
  have hright := hscreen.right_le
  have hbottom := hscreen.bottom_le
  simp only [Area.right, Area.bottom] at hright hbottom hy
  have hnarrow := narrow_of_row hspans hbox hroom hy harea hrow
    (x := startOf a area spans + i - 1) (by omega) (by omega)
  have hshown := shown?_frame (x := startOf a area spans + i) hframe (by omega) (by omega) (by omega)
    hnarrow
  have hcell := hrow (startOf a area spans + i)
  rw [markAt_drawAligned hspans hempty hi.1 hg, hyarea] at hcell
  rw [hshown, hcell, Cell.mark, Cell.paint, hsymbol]
  exact ⟨_, _, rfl⟩

end

/-! ## buttons and help on a screen of seven rows -/

/-- The buttons stand in their order at the right end of the third row from below, in the box of a
dialog, and the help stands in the row between them and the border, as much of it as fits. -/
def ButtonsShown (width height : Nat) (f : Form) : Prop :=
  let box := dialogBox width height f
  let room := box.width - 4
  let help := (helpText f).take room
  ∃ screen, frame width height f = some screen ∧
    screen.ShowsText (box.right - 2 - (rowText f).length) (box.bottom - 3) (rowText f) ∧
    screen.ShowsText (box.x + 2 + (room / 2 - help.length / 2)) (box.bottom - 2) help

section

variable {width height : Nat} {f : Form} (hheight : 7 ≤ height)
  (hfits : rowColumns f ≤ min 60 width - 4)
include hheight hfits

/-- A box of seven rows has room for the buttons, below the rows of any message. -/
theorem room_for_buttons :
    7 ≤ (dialogBox width height f).height ∧ 4 < (dialogBox width height f).width ∧
      (rowText f).length ≤ (dialogBox width height f).width - 4 := by
  have hseven := @seven_le_height_popup width height hheight f.request.message.toList
  have hwidth := width_popup width height f.request.message.toList
  have hlength := length_rowText_le f
  have hcolumns : 6 ≤ rowColumns f := by
    rcases buttons_cases f with h | h <;> simp [rowColumns, h] <;> omega
  rw [← dialogBox] at hseven hwidth
  simp only [dialogWidth] at hwidth
  omega

/-- **On a screen with a dialog the buttons are shown**, whatever the message is. -/
theorem buttonsShown_of_frame (hlabels : PrintableLabels f) {screen : Grid}
    (hframe : frame width height f = some screen) : ButtonsShown width height f := by
  obtain ⟨hseven, hroom⟩ := room_for_buttons hheight hfits
  refine ⟨screen, hframe, ?_⟩
  generalize hbox : dialogBox width height f = box at hseven hroom ⊢
  rw [dialogBox] at hbox
  obtain ⟨hbuttons, hhelp⟩ := areas_of_seven hbox hseven
  have hbottom : box.bottom = box.y + box.height := rfl
  have hright : box.right = box.x + box.width := rfl
  have hempty : (buttonArea width height f).isEmpty = false := by
    simp [hbuttons, Area.isEmpty]
    omega
  have hrow := showsText_of_row (thin_buttonRow hlabels) hbox hroom.1 (by omega) hbuttons
    (markAt_buttonArea hempty) hframe
  have hline := showsText_of_row (thin_helpRow f) hbox hroom.1 (by omega) hhelp markAt_helpArea hframe
  simp only [startOf, textOf_buttonRow, textOf_helpRow, hbuttons, hhelp, Alignment.offset] at hrow hline
  constructor
  · have hstart : box.x + 2 + (box.width - 4 - min (box.width - 4) (rowText f).length) =
        box.right - 2 - (rowText f).length := by omega
    rwa [hstart, List.take_of_length_le hroom.2] at hrow
  · rwa [List.length_take]

end

/-- **The buttons are shown just if the dialog can be drawn**, that is, if no stroke is behind the
last column of the screen.  It depends on the message alone whether one is: on the places where its
glyphs start.  If their widths differ by no more than the margin of the box allows, as widths of up
to two columns always do, the buttons are shown. -/
theorem buttons_shown_iff {width height : Nat} {f : Form} (hheight : 7 ≤ height)
    (hlabels : PrintableLabels f) (hfits : rowColumns f ≤ min 60 width - 4) :
    let box := dialogBox width height f
    let left := box.right - 2 - (rowText f).length
    (box.x + 2 ≤ left ∧ left + (rowText f).length = box.right - 2 ∧ box.y + 3 < box.bottom - 3) ∧
    (ButtonsShown width height f ↔ ∀ s ∈ strokes width height f, s.x < width) ∧
    (width < positions → (titleColumns f.request.title.toList + 1) % positions ≠ 0 →
      (ButtonsShown width height f ↔
        ∀ s ∈ drawMessage (messageArea width height f) f.request.message.toList, s.x < width) ∧
      (Fills f 0 2 → ButtonsShown width height f) ∧
      ∀ least most, Fills f least most → least < most → most < positions →
        box.right + most ≤ width + least + 2 → ButtonsShown width height f) := by
  have hshown : ButtonsShown width height f ↔ ∀ s ∈ strokes width height f, s.x < width := by
    rw [← exists_frame_iff]
    exact ⟨fun ⟨screen, hframe, _⟩ => ⟨screen, hframe⟩,
      fun ⟨_, hframe⟩ => buttonsShown_of_frame hheight hfits hlabels hframe⟩
  refine ⟨?_, hshown, fun hrange htitle => ?_⟩
  · obtain ⟨hseven, hroom⟩ := room_for_buttons hheight hfits
    simp only [Area.right, Area.bottom]
    omega
  · have hright := (centered_dialogBox width height f).right_le
    have hwidths : ∀ least most, Fills f least most → least < most → most < positions →
        (dialogBox width height f).right + most ≤ width + least + 2 → ButtonsShown width height f :=
      fun _ _ hfills hlt hmost hmargin =>
        hshown.2 (onScreen_of_fills hrange htitle hfills hlt hmost hmargin)
    exact ⟨hshown.trans (onScreen_iff_message hrange htitle),
      fun hfills => hwidths 0 2 hfills (by decide) (by decide) (by omega), hwidths⟩

/-- A message of more lines than any screen has rows. -/
def endlessMessage : String := String.ofList (List.replicate 70000 '\n')

/-- A dialog with that message. -/
def endlessForm : Form where
  request :=
    { title := "Wi-Fi"
      message := endlessMessage
      acceptText := "Yes"
      declineText := "No"
      neutralText := some "Later" }
  icons := .ascii

/-- All its lines are empty. -/
theorem fills_endlessForm : Fills endlessForm 0 2 := by
  have hpieces : ∀ n, Text.pieces '\n' (List.replicate n '\n') = List.replicate (n + 1) [] := by
    intro n
    induction n with
    | zero => rfl
    | succ n ih => rw [List.replicate_succ, Text.pieces_sep, ih, ← List.replicate_succ]
  have hmessage : endlessForm.request.message.toList = List.replicate 70000 '\n' :=
    String.toList_ofList
  rintro gs hgs g hg
  obtain ⟨line, hline, rfl⟩ := List.mem_map.1 hgs
  rw [hmessage] at hline
  have hnil : line = [] := by
    rcases Text.mem_lines hline with hpiece | ⟨piece, hpiece, rfl⟩ <;> rw [hpieces] at hpiece
    · exact List.eq_of_mem_replicate hpiece
    · rw [List.eq_of_mem_replicate hpiece]
      rfl
  rw [hnil] at hg
  cases hg

/-- The buttons are shown with a message of more lines than there are positions, on a screen that just
has room for them.  A letter behind a glyph of six columns leaves its box by two columns, and with it
a screen that is no wider than the box: then nothing is drawn. -/
theorem buttons_shown_iff_wedged :
    (7 ≤ 7 ∧ PrintableLabels endlessForm ∧ rowColumns endlessForm ≤ min 60 24 - 4) ∧
      ButtonsShown 24 7 endlessForm ∧
      (7 ≤ 24 ∧ PrintableLabels wedgedForm ∧ rowColumns wedgedForm ≤ min 60 60 - 4) ∧
      ¬ButtonsShown 60 24 wedgedForm ∧ ButtonsShown 63 24 wedgedForm := by
  have htitle : (titleColumns "Wi-Fi".toList + 1) % positions ≠ 0 := by decide +kernel
  have hlabels : PrintableLabels endlessForm ∧ PrintableLabels wedgedForm := by
    simp [PrintableLabels, endlessForm, wedgedForm, Form.buttons, Form.label, Text.IsPrintable]
  have hfits : rowColumns endlessForm ≤ min 60 24 - 4 ∧ rowColumns wedgedForm ≤ min 60 60 - 4 ∧
      rowColumns wedgedForm ≤ min 60 63 - 4 := by
    simp [rowColumns, endlessForm, wedgedForm, Form.buttons, Form.label]
  have hwedged : wedgedForm.request.message.toList = wedgedMessage := String.toList_ofList
  refine ⟨⟨by decide, hlabels.1, hfits.1⟩, ?_, ⟨by decide, hlabels.2, hfits.2.1⟩, ?_, ?_⟩
  · exact ((buttons_shown_iff (by decide : 7 ≤ 7) hlabels.1 hfits.1).2.2
      (by decide) htitle).2.1 fills_endlessForm
  · rw [((buttons_shown_iff (by decide : 7 ≤ 24) hlabels.2 hfits.2.1).2.2 (by decide) htitle).1,
      hwedged, messageArea, hwedged]
    decide +kernel
  · rw [((buttons_shown_iff (by decide : 7 ≤ 24) hlabels.2 hfits.2.2).2.2 (by decide) htitle).1,
      hwedged, messageArea, hwedged]
    decide +kernel

end MacConsent.Screen
