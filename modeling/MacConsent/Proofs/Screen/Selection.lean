import MacConsent.Proofs.Dialog.Keys
import MacConsent.Proofs.Screen.Buttons

/-!
# MacConsent.Proofs.Screen.Selection

One dialog with two selections.

1. Each label stands as a whole in the row, behind `textBefore`
   (`getElem?_rowText_label`).  With signs of one column in place of the blanks a row
   keeps its characters but for those beside two labels (`getElem?_rowText_select`).
2. The strokes of two selections differ in the area of the buttons only
   (`markAt_select`), where no cell hides another (`narrow_buttonArea`).  Two grids in
   which the same cells hide the next one have the same cells hidden
   (`Grid.hidden_congr`).
3. The row keeps its length, so a label keeps its columns if the text before it does.
   With empty signs that text is shorter by one column or by none, and the labels move
   (`labelColumn_select_iff`).
-/

namespace MacConsent.Dialog

/-- The same dialog with another button selected. -/
def Form.select (f : Form) (b : Button) : Form := { f with selected := b }

namespace Form

variable (f : Form) (b : Button)

@[simp] theorem request_select : (f.select b).request = f.request := rfl

@[simp] theorem icons_select : (f.select b).icons = f.icons := rfl

@[simp] theorem selected_select : (f.select b).selected = b := rfl

@[simp] theorem buttons_select : (f.select b).buttons = f.buttons := rfl

@[simp] theorem label_select (c : Button) : (f.select b).label c = f.label c := by
  cases c <;> rfl

end Form

end MacConsent.Dialog

namespace MacConsent.Screen

open Dialog (Button Form IconSet)

/-! ## two grids -/

/-- Where the same cells hide the next, the same cells are hidden. -/
theorem Grid.hidden_congr {g g' : Grid} (hwidth : g'.width = g.width)
    (hides : ∀ x y, x < g.width → y < g.height →
      (g.get? x y).any hidesNext = (g'.get? x y).any hidesNext)
    {x y : Nat} (hx : x < g.width) (hy : y < g.height) : g.hidden x y = g'.hidden x y := by
  match x, y with
  | x + 1, y => exact hides x y (Nat.lt_of_succ_lt hx) hy
  | 0, y + 1 =>
      rw [hidden, hidden, hwidth]
      exact hides _ y (Nat.sub_lt hx Nat.one_pos) (Nat.lt_of_succ_lt hy)
  | 0, 0 => rfl

/-! ## the text of two selections -/

/-- The blanks between two buttons. -/
def gap : List Char := [' ', ' ']

/-- What stands to the left of the label of a button. -/
def leftSign (f : Form) (b : Button) : List Char :=
  if f.selected = b then f.icons.buttonLeft.toList else [' ']

/-- What stands to the right of it. -/
def rightSign (f : Form) (b : Button) : List Char :=
  if f.selected = b then f.icons.buttonRight.toList else [' ']

/-- The row as far as the label of a button. -/
def textBefore (f : Form) (b : Button) : List Char :=
  (f.buttons.takeWhile (· ≠ b)).flatMap (fun c => buttonText f c ++ gap) ++ leftSign f b

/-- The text of a button is its label between two signs. -/
theorem buttonText_eq (f : Form) (b : Button) :
    buttonText f b = leftSign f b ++ (f.label b).toList ++ rightSign f b := by
  unfold buttonText leftSign rightSign
  split <;> rfl

/-- A separator more at the end makes all parts alike. -/
theorem intercalate_append_self {α : Type} (sep : List α) {l : List (List α)} (hne : l ≠ []) :
    sep.intercalate l ++ sep = l.flatMap (· ++ sep) := by
  induction l with
  | nil => exact absurd rfl hne
  | cons a l ih =>
      cases l with
      | nil => simp [List.intercalate]
      | cons b l =>
          rw [List.intercalate_cons_cons, List.append_assoc, ih (List.cons_ne_nil b l)]
          simp

/-- With a gap at its end, the row is one button with a gap after the other. -/
theorem rowText_append_gap (f : Form) :
    rowText f ++ gap = f.buttons.flatMap fun b => buttonText f b ++ gap := by
  have hne : f.buttons.map (buttonText f) ≠ [] := by simp [Form.buttons]
  rw [rowText, gap, intercalate_append_self _ hne, List.flatMap_map]

/-- The buttons before a button. -/
theorem takeWhile_of_split {f : Form} {b : Button} {before after : List Button}
    (hsplit : f.buttons = before ++ b :: after) : f.buttons.takeWhile (· ≠ b) = before := by
  have hnot : b ∉ before := fun hmem => by
    have hnodup := f.nodup_buttons
    rw [hsplit] at hnodup
    exact (List.nodup_append.1 hnodup).2.2 b hmem b List.mem_cons_self rfl
  have hbefore : ∀ c ∈ before, decide (c ≠ b) = true := fun c hc => by
    have hne : c ≠ b := fun heq => hnot (heq ▸ hc)
    simpa using hne
  rw [hsplit, List.takeWhile_append_of_pos hbefore, List.takeWhile_cons]
  simp

/-- **The label of a button stands in the row.** -/
theorem getElem?_rowText_label {f : Form} {b : Button} (hb : b ∈ f.buttons) {i : Nat} {c : Char}
    (hc : (f.label b).toList[i]? = some c) : (rowText f)[(textBefore f b).length + i]? = some c := by
  obtain ⟨before, after, hsplit⟩ := List.append_of_mem hb
  have hrow : rowText f ++ gap = textBefore f b ++ ((f.label b).toList ++
      (rightSign f b ++ gap ++ after.flatMap fun c => buttonText f c ++ gap)) := by
    rw [rowText_append_gap, textBefore, takeWhile_of_split hsplit, hsplit]
    simp [buttonText_eq f b]
  have hi : i < (f.label b).toList.length := (List.getElem?_eq_some_iff.1 hc).1
  have hlength := congrArg List.length hrow
  simp only [List.length_append] at hlength
  have hleft : (rowText f ++ gap)[(textBefore f b).length + i]? =
      (rowText f)[(textBefore f b).length + i]? := List.getElem?_append_left (by omega)
  rw [← hleft, hrow, List.getElem?_append_right (Nat.le_add_right _ i), Nat.add_sub_cancel_left,
    List.getElem?_append_left hi, hc]

/-- Two series of texts of the same lengths agree at a position, if the texts there do. -/
theorem getElem?_flatMap_congr {α β : Type} {l : List α} {t t' : α → List β}
    (hlength : ∀ a ∈ l, (t a).length = (t' a).length) {i : Nat}
    (h : ∀ before a after j, l = before ++ a :: after → i = (before.flatMap t).length + j →
      (t a)[j]? = (t' a)[j]?) : (l.flatMap t)[i]? = (l.flatMap t')[i]? := by
  induction l generalizing i with
  | nil => rfl
  | cons a l ih =>
      obtain ⟨ha, hl⟩ := List.forall_mem_cons.1 hlength
      rw [List.flatMap_cons, List.flatMap_cons]
      by_cases hi : i < (t a).length
      · rw [List.getElem?_append_left hi, List.getElem?_append_left (ha ▸ hi)]
        exact h [] a l i rfl (by simp)
      · have hle : (t a).length ≤ i := Nat.le_of_not_lt hi
        rw [List.getElem?_append_right hle, List.getElem?_append_right (ha ▸ hle), ← ha]
        refine ih hl fun before b after j hsplit hj => ?_
        refine h (a :: before) b after j (by rw [hsplit, List.cons_append]) ?_
        rw [List.flatMap_cons, List.length_append]
        omega

section

variable {f : Form} {b₁ b₂ : Button}

/-- A button that is not selected has a blank on either side. -/
theorem buttonText_select_of_ne {b c : Button} (h : b ≠ c) :
    buttonText (f.select b) c = ' ' :: (f.label c).toList ++ [' '] := by
  simp [buttonText, h]

/-- The signs that are shown without special fonts fill a column. -/
theorem signs_of_ascii (h : f.icons = .ascii) (b : Button) :
    ∃ left right, leftSign f b = [left] ∧ rightSign f b = [right] := by
  unfold leftSign rightSign
  rw [h]
  split
  · exact ⟨'[', ']', by decide, by decide⟩
  · exact ⟨' ', ' ', rfl, rfl⟩

/-- In ASCII, the signs are as wide as the blanks they replace. -/
theorem length_buttonText_of_ascii (h : f.icons = .ascii) (b : Button) :
    (buttonText f b).length = (f.label b).toList.length + 2 := by
  rw [length_buttonText, h]
  split <;> rfl

/-- In ASCII, the selection moves no button. -/
theorem length_textBefore_of_ascii (h : f.icons = .ascii) (b : Button) :
    (textBefore f b).length = ((f.buttons.takeWhile (· ≠ b)).map fun c =>
      (f.label c).toList.length + 4).sum + 1 := by
  obtain ⟨left, _, hleft, _⟩ := signs_of_ascii h b
  rw [textBefore, hleft, List.length_append, List.length_flatMap]
  simp [length_buttonText_of_ascii h, gap]
  omega

/-- **With signs of one column a row keeps its characters**, but for those beside two labels. -/
theorem getElem?_rowText_select (h : f.icons = .ascii) {i : Nat}
    (hbeside : ∀ b, b = b₁ ∨ b = b₂ → i + 1 ≠ (textBefore (f.select b₁) b).length ∧
      i ≠ (textBefore (f.select b₁) b).length + (f.label b).toList.length) :
    (rowText (f.select b₁))[i]? = (rowText (f.select b₂))[i]? := by
  have hlengths : ∀ b, (buttonText (f.select b₁) b).length = (buttonText (f.select b₂) b).length := by
    intro b
    rw [length_buttonText_of_ascii (f := f.select b₁) h,
      length_buttonText_of_ascii (f := f.select b₂) h, Form.label_select, Form.label_select]
  have hsame : (rowText (f.select b₁) ++ gap)[i]? = (rowText (f.select b₂) ++ gap)[i]? := by
    rw [rowText_append_gap, rowText_append_gap, Form.buttons_select, Form.buttons_select]
    refine getElem?_flatMap_congr (fun b _ => by simp [hlengths]) ?_
    intro before b after j hsplit hj
    by_cases hb : b = b₁ ∨ b = b₂
    · obtain ⟨l, r, hl, hr⟩ := signs_of_ascii (f := f.select b₁) h b
      obtain ⟨l', r', hl', hr'⟩ := signs_of_ascii (f := f.select b₂) h b
      have hstart : (textBefore (f.select b₁) b).length =
          (before.flatMap fun c => buttonText (f.select b₁) c ++ gap).length + 1 := by
        rw [textBefore, Form.buttons_select, takeWhile_of_split hsplit, hl, List.length_append,
          List.length_singleton]
      have hj' := hbeside b hb
      rw [buttonText_eq, buttonText_eq, hl, hr, hl', hr', Form.label_select, Form.label_select]
      grind
    · rw [not_or] at hb
      rw [buttonText_select_of_ne (Ne.symm hb.1), buttonText_select_of_ne (Ne.symm hb.2)]
  have hrows := congrArg List.length (rowText_append_gap (f.select b₁))
  have hrows' := congrArg List.length (rowText_append_gap (f.select b₂))
  simp only [List.length_append, List.length_flatMap, Form.buttons_select, hlengths] at hrows hrows'
  have hlength : (rowText (f.select b₁)).length = (rowText (f.select b₂)).length := by omega
  by_cases hi : i < (rowText (f.select b₁)).length
  · rwa [List.getElem?_append_left hi, List.getElem?_append_left (hlength ▸ hi)] at hsame
  · rw [List.getElem?_eq_none (Nat.le_of_not_lt hi),
      List.getElem?_eq_none (hlength ▸ Nat.le_of_not_lt hi)]

end

/-! ## the frames of two selections -/

section

variable {width height : Nat} {f : Form} {b b₁ b₂ : Button} {x y : Nat}

/-- The selection leaves the area of the buttons where it is. -/
theorem buttonArea_select (b : Button) :
    buttonArea width height (f.select b) = buttonArea width height f := by
  rw [buttonArea, buttonArea, Form.request_select]

theorem PrintableLabels.select (h : PrintableLabels f) (b : Button) :
    PrintableLabels (f.select b) := by
  intro c hc ch hch
  rw [Form.label_select] at hch
  exact h c hc ch hch

/-- No cell of the row of the buttons hides another. -/
theorem narrow_buttonArea (h : PrintableLabels f) (hholds : (buttonArea width height f).Holds x y) :
    Text.displayWidth (markAt x y {} (strokes width height f)).symbol ≤ 1 := by
  obtain ⟨hempty, hrow⟩ := row_of_holds hholds
  rw [hrow]
  obtain ⟨⟨hroom, hy⟩, harea⟩ := buttonArea_of_not_isEmpty rfl hempty
  exact narrow_of_row (thin_buttonRow h) rfl hroom hy harea (markAt_buttonArea hempty)
    (Nat.le_succ_of_le hholds.1) hholds.2.1

/-- **The strokes of two selections differ in the area of the buttons only.** -/
theorem markAt_select (h : PrintableLabels f) (hout : ¬(buttonArea width height f).Holds x y) :
    markAt x y {} (strokes width height (f.select b)) =
      markAt x y {} (emptyBox width height f ++
        drawMessage (messageArea width height f) f.request.message.toList ++
          drawAligned .center (helpArea width height f) (helpRow f)) := by
  have hbuttons : ∀ s ∈ drawAligned .right (buttonArea width height f) (buttonRow (f.select b)),
      ¬(s.x = x ∧ s.y = y) := by
    rintro s hs ⟨rfl, rfl⟩
    have hcolumns := columns_of_mem_drawAligned (thin_buttonRow (h.select b)) hs
    have hbounds := startOf_bounds .right (buttonArea width height f) (buttonRow (f.select b))
    have hpos := Area.pos_of_not_isEmpty (isEmpty_of_mem_drawAligned hs)
    have hrow := mem_drawAligned hs
    refine hout ⟨by omega, by omega, by omega, ?_⟩
    simp only [Area.bottom]
    omega
  have hrest : emptyBox width height (f.select b) = emptyBox width height f ∧
      messageArea width height (f.select b) = messageArea width height f ∧
        helpArea width height (f.select b) = helpArea width height f ∧
          helpRow (f.select b) = helpRow f := by
    simp only [emptyBox, messageArea, helpArea, helpRow, Form.request_select, Form.icons_select,
      and_self]
  rw [strokes_eq, ← emptyBox, footer_eq, buttonArea_select, Form.request_select, hrest.1, hrest.2.1,
    hrest.2.2.1, hrest.2.2.2, markAt_append, markAt_append _ _ (drawAligned .center _ _),
    markAt_of_elsewhere hbuttons, markAt_append _ (_ ++ _)]

/-- **A dialog can be drawn with any selection or with none.** -/
theorem exists_frame_select_iff (b₁ b₂ : Button) :
    (∃ screen, frame width height (f.select b₁) = some screen) ↔
      ∃ screen, frame width height (f.select b₂) = some screen := by
  simp only [exists_frame_iff, onScreen_iff, dialogBox, messageArea, Form.request_select]

/-- **In the frames of two selections the same cells are hidden.** -/
theorem hidden_select (h : PrintableLabels f) {screen₁ screen₂ : Grid}
    (hframe₁ : frame width height (f.select b₁) = some screen₁)
    (hframe₂ : frame width height (f.select b₂) = some screen₂) (hx : x < width) (hy : y < height) :
    screen₁.hidden x y = screen₂.hidden x y := by
  obtain ⟨hwidth₁, hheight₁⟩ := size_frame hframe₁
  refine Grid.hidden_congr ((size_frame hframe₂).1.trans hwidth₁.symm) ?_ (hwidth₁.symm ▸ hx)
    (hheight₁.symm ▸ hy)
  intro x y hx hy
  rw [hwidth₁] at hx
  rw [hheight₁] at hy
  rw [get?_frame hframe₁ hx hy, get?_frame hframe₂ hx hy, Option.any_some, Option.any_some]
  by_cases hholds : (buttonArea width height f).Holds x y
  · have hnarrow (b : Button) : Grid.hidesNext (markAt x y {} (strokes width height (f.select b))) =
        false :=
      decide_eq_false (Nat.not_lt.2 (narrow_buttonArea (h.select b)
        ((buttonArea_select b).symm ▸ hholds)))
    rw [hnarrow, hnarrow]
  · rw [markAt_select h hholds, markAt_select h hholds]

/-! ## the columns of a label -/

/-- The column where the label of a button starts. -/
def labelColumn (width height : Nat) (f : Form) (b : Button) : Nat :=
  startOf .right (buttonArea width height f) (buttonRow f) + (textBefore f b).length

/-- **Each label is shown in its columns**, as far as the area of the buttons reaches. -/
theorem shows_label (h : PrintableLabels f) (hempty : (buttonArea width height f).isEmpty = false)
    {screen : Grid} (hframe : frame width height f = some screen) (hb : b ∈ f.buttons) :
    screen.ShowsText (labelColumn width height f b) (buttonArea width height f).y
      ((f.label b).toList.take
        ((buttonArea width height f).right - labelColumn width height f b)) := by
  obtain ⟨⟨hroom, hy⟩, harea⟩ := buttonArea_of_not_isEmpty rfl hempty
  have hrow := showsText_of_row (thin_buttonRow h) rfl hroom hy harea (markAt_buttonArea hempty)
    hframe
  have hbounds := startOf_bounds .right (buttonArea width height f) (buttonRow f)
  intro i c hc
  have hi := (List.getElem?_eq_some_iff.1 hc).1
  rw [List.length_take] at hi
  rw [List.getElem?_take_of_lt (by omega)] at hc
  have htext := getElem?_rowText_label hb hc
  rw [textOf_buttonRow] at hrow
  rw [labelColumn, Nat.add_assoc]
  refine hrow _ c ?_
  rw [List.getElem?_take_of_lt, htext]
  simp only [labelColumn, Area.right] at hi hbounds
  omega

/-- The length of the row depends on the signs of the selected button only. -/
theorem length_rowText_select (hb : b ∈ f.buttons) :
    (rowText (f.select b)).length + 4 =
      (f.buttons.map fun c => (f.label c).toList.length + 4).sum + 2 * signWidth f.icons := by
  have hrow := congrArg List.length (rowText_append_gap (f.select b))
  rcases buttons_cases f with h | h <;> rw [Form.buttons_select, h] at hrow <;> rw [h] at hb ⊢ <;>
    cases b <;> simp [length_buttonText, gap] at hb hrow ⊢ <;> omega

/-- The row of the buttons starts in the same column. -/
theorem startOf_select {area : Area} (h₁ : b₁ ∈ f.buttons) (h₂ : b₂ ∈ f.buttons) :
    startOf .right area (buttonRow (f.select b₁)) = startOf .right area (buttonRow (f.select b₂)) := by
  have hlength : (rowText (f.select b₁)).length = (rowText (f.select b₂)).length := by
    have := length_rowText_select h₁
    have := length_rowText_select h₂
    omega
  rw [startOf, startOf, textOf_buttonRow, textOf_buttonRow, hlength]

/-- Between two labels there are four columns, or two if empty signs stand beside one of them. -/
theorem length_textBefore_mod (f : Form) (b : Button) :
    (textBefore f b).length % 2 = (((f.buttons.takeWhile (· ≠ b)).map fun c =>
      (f.label c).toList.length).sum + (leftSign f b).length) % 2 := by
  rw [textBefore, List.length_append]
  generalize f.buttons.takeWhile (· ≠ b) = before
  induction before with
  | nil => rfl
  | cons c before ih =>
      have hbutton := length_buttonText f c
      simp only [List.flatMap_cons, List.length_append, List.map_cons, List.sum_cons, gap,
        List.length_cons, List.length_nil] at ih ⊢
      split at hbutton <;> omega

/-- **The labels keep their columns if the signs fill them.** -/
theorem labelColumn_select_iff (h₁ : b₁ ∈ f.buttons) (h₂ : b₂ ∈ f.buttons) :
    (∀ b ∈ f.buttons, labelColumn width height (f.select b₁) b =
      labelColumn width height (f.select b₂) b) ↔ f.icons = .ascii ∨ b₁ = b₂ := by
  simp only [labelColumn, buttonArea_select, startOf_select h₁ h₂, Nat.add_left_cancel_iff]
  constructor
  · intro hsame
    cases hicons : f.icons with
    | ascii => exact .inl rfl
    | nerd =>
        refine .inr (Classical.byContradiction fun hne => ?_)
        have hmod := congrArg (· % 2) (hsame b₁ h₁)
        have hsigns : (leftSign (f.select b₁) b₁).length = 0 ∧
            (leftSign (f.select b₂) b₁).length = 1 := by
          simp [leftSign, hicons, Ne.symm hne, length_signs, signWidth]
        simp only [length_textBefore_mod, Form.label_select, Form.buttons_select, hsigns.1,
          hsigns.2] at hmod
        omega
  · rintro (hascii | rfl) b -
    · rw [length_textBefore_of_ascii (f := f.select b₁) hascii,
        length_textBefore_of_ascii (f := f.select b₂) hascii]
      simp only [Form.buttons_select, Form.label_select]
    · rfl

/-- **With signs of one column a frame keeps its symbols**, but for those beside two labels. -/
theorem symbol_select (h : PrintableLabels f) (hascii : f.icons = .ascii) (h₁ : b₁ ∈ f.buttons)
    (h₂ : b₂ ∈ f.buttons)
    (hbeside : ∀ b, b = b₁ ∨ b = b₂ → x + 1 ≠ labelColumn width height (f.select b₁) b ∧
      x ≠ labelColumn width height (f.select b₁) b + (f.label b).toList.length) :
    (markAt x y {} (strokes width height (f.select b₁))).symbol =
      (markAt x y {} (strokes width height (f.select b₂))).symbol := by
  by_cases hholds : (buttonArea width height f).Holds x y
  · obtain ⟨hempty, hy⟩ := row_of_holds hholds
    rw [hy]
    have hrow (b : Button) := markAt_buttonArea (f := f.select b)
      ((buttonArea_select b).symm ▸ hempty) x
    have hground (b : Button) : emptyBox width height (f.select b) = emptyBox width height f := by
      simp only [emptyBox, Form.request_select]
    simp only [buttonArea_select, hground] at hrow
    simp only [labelColumn, buttonArea_select] at hbeside
    rw [hrow, hrow, symbol_markAt_drawAligned (thin_buttonRow (h.select b₁)) hempty,
      symbol_markAt_drawAligned (thin_buttonRow (h.select b₂)) hempty, startOf_select h₁ h₂,
      textOf_buttonRow, textOf_buttonRow]
    rw [startOf_select h₁ h₂] at hbeside
    split
    · rw [getElem?_rowText_select hascii fun b hb => by
        have := hbeside b hb
        omega]
    · rfl
  · rw [markAt_select h hholds, markAt_select h hholds]

end

/-! ## moving the selection -/

/-- A column directly beside the label of a button. -/
def BesideLabel (width height : Nat) (f : Form) (b : Button) (x : Nat) : Prop :=
  x + 1 = labelColumn width height f b ∨
    x = labelColumn width height f b + (f.label b).toList.length

/-- **A move of the selection changes the area of the buttons only, and keeps the columns of the
labels if and only if the signs fill the columns of the blanks.**  Where they do it changes no
symbols but those directly beside the two labels.  A dialog that can be drawn with one selection can
be drawn with the other. -/
theorem selection_keeps_columns_iff {width height : Nat} {f : Form} (hlabels : PrintableLabels f)
    {b₁ b₂ : Button} (h₁ : b₁ ∈ f.buttons) (h₂ : b₂ ∈ f.buttons) :
    ((∃ screen, frame width height (f.select b₁) = some screen) ↔
      ∃ screen, frame width height (f.select b₂) = some screen) ∧
    (∀ screen₁ screen₂, frame width height (f.select b₁) = some screen₁ →
      frame width height (f.select b₂) = some screen₂ →
      (∀ x < width, ∀ y < height, ¬(buttonArea width height f).Holds x y →
        screen₁.shown? x y = screen₂.shown? x y) ∧
      (f.icons = .ascii → ∀ x < width, ∀ y < height,
        ¬BesideLabel width height (f.select b₁) b₁ x →
        ¬BesideLabel width height (f.select b₁) b₂ x →
        (screen₁.shown? x y).map Cell.symbol = (screen₂.shown? x y).map Cell.symbol)) ∧
    ((buttonArea width height f).isEmpty = false → ∀ s ∈ f.buttons, ∀ screen,
      frame width height (f.select s) = some screen → ∀ b ∈ f.buttons,
        screen.ShowsText (labelColumn width height (f.select s) b)
          (buttonArea width height f).y ((f.label b).toList.take
            ((buttonArea width height f).right - labelColumn width height (f.select s) b))) ∧
    ((∀ b ∈ f.buttons, labelColumn width height (f.select b₁) b =
      labelColumn width height (f.select b₂) b) ↔ f.icons = .ascii ∨ b₁ = b₂) := by
  refine ⟨exists_frame_select_iff b₁ b₂, fun screen₁ screen₂ hframe₁ hframe₂ => ⟨?_, ?_⟩, ?_,
    labelColumn_select_iff h₁ h₂⟩
  · intro x hx y hy hout
    rw [shown?_frame_eq hframe₁ hx hy, shown?_frame_eq hframe₂ hx hy,
      hidden_select hlabels hframe₁ hframe₂ hx hy, markAt_select hlabels hout,
      markAt_select hlabels hout]
  · intro hascii x hx y hy hbeside₁ hbeside₂
    rw [shown?_frame_eq hframe₁ hx hy, shown?_frame_eq hframe₂ hx hy,
      hidden_select hlabels hframe₁ hframe₂ hx hy, Option.map_some, Option.map_some]
    split
    · rfl
    · rw [symbol_select hlabels hascii h₁ h₂ fun b hb => ?_]
      rw [← not_or, ← Form.label_select f b₁]
      rcases hb with rfl | rfl
      · exact hbeside₁
      · exact hbeside₂
  · intro hempty s _ screen hframe b hb
    rw [← buttonArea_select s] at hempty ⊢
    rw [← Form.label_select f s]
    exact shows_label (hlabels.select s) hempty hframe hb

/-- A dialog with the icons of a special font. -/
def iconForm : Form where
  request :=
    { title := "Use device MAC?"
      message := "HomeNet rejects random MACs."
      acceptText := "Use device MAC"
      declineText := "Cancel"
      neutralText := some "Later" }
  icons := .nerd

/-- The first label moves by a column when the last button is selected in place of the first. -/
theorem selection_keeps_columns_iff_icons :
    (PrintableLabels iconForm ∧ .accept ∈ iconForm.buttons ∧ .decline ∈ iconForm.buttons) ∧
      ¬(∀ b ∈ iconForm.buttons, labelColumn 64 12 (iconForm.select .accept) b =
        labelColumn 64 12 (iconForm.select .decline) b) ∧
      (∃ screen, frame 64 12 (iconForm.select .accept) = some screen ∧
        screen.ShowsText 27 7 "Use device MAC".toList) ∧
      ∃ screen, frame 64 12 (iconForm.select .decline) = some screen ∧
        screen.ShowsText 28 7 "Use device MAC".toList := by
  have hlabels : PrintableLabels iconForm := by
    simp [PrintableLabels, iconForm, Form.buttons, Form.label, Text.IsPrintable]
  have harea : buttonArea 64 12 iconForm = ⟨4, 7, 56, 1⟩ := by decide +kernel
  have haccept : labelColumn 64 12 (iconForm.select .accept) .accept = 27 := by decide +kernel
  have hdecline : labelColumn 64 12 (iconForm.select .decline) .accept = 28 := by decide +kernel
  have h₁ : Button.accept ∈ iconForm.buttons := by decide
  have h₂ : Button.decline ∈ iconForm.buttons := by decide
  obtain ⟨hdrawn, _, hshows, hcolumns⟩ :=
    @selection_keeps_columns_iff 64 12 iconForm hlabels .accept .decline h₁ h₂
  have hslim : Slim (iconForm.select .accept) := by
    rw [Slim, messageLines]
    decide +kernel
  obtain ⟨screen₁, hframe₁⟩ := @exists_frame_of_fills 64 12 (iconForm.select .accept) (by decide)
    (by decide +kernel) 0 2 hslim.fills (by decide) (by decide) (by decide +kernel)
  obtain ⟨screen₂, hframe₂⟩ := hdrawn.1 ⟨screen₁, hframe₁⟩
  rw [harea] at hshows
  have hshows₁ := hshows rfl .accept h₁ screen₁ hframe₁ .accept h₁
  have hshows₂ := hshows rfl .decline h₂ screen₂ hframe₂ .accept h₁
  rw [haccept] at hshows₁
  rw [hdecline] at hshows₂
  exact ⟨⟨hlabels, h₁, h₂⟩, fun hsame => absurd (hcolumns.1 hsame) (by decide),
    ⟨screen₁, hframe₁, hshows₁⟩, screen₂, hframe₂, hshows₂⟩

end MacConsent.Screen
