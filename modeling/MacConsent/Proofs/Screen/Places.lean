import MacConsent.Proofs.Screen.Message

/-!
# MacConsent.Proofs.Screen.Places

The places of a dialog on a screen of any size.

1. The box is on the screen, in the middle (`centered_popup`).
2. Message, buttons and help stand one below the other in the box (`stacked`), each
   between the columns of the room inside it (`columns_sections`).  On a screen of
   seven rows there is room for all three (`sections_of_seven`).
3. So the row of the buttons and the row of the help are drawn upon the cells of the
   empty box (`markAt_buttonArea`, `markAt_helpArea`).
-/

namespace MacConsent.Screen

open Dialog (Form)

/-! ## the box -/

/-- An area in the middle of a screen: the margins on two sides differ by one at most. -/
structure Area.Centered (a : Area) (width height : Nat) : Prop where
  right_le : a.right ≤ width
  bottom_le : a.bottom ≤ height
  columns : a.x ≤ width - a.right ∧ width - a.right ≤ a.x + 1
  rows : a.y ≤ height - a.bottom ∧ height - a.bottom ≤ a.y + 1

/-- An area as large as its screen covers it. -/
theorem Area.Centered.eq_screen {a : Area} {width height : Nat} (h : a.Centered width height)
    (hwidth : width ≤ a.width) (hheight : height ≤ a.height) : a = ⟨0, 0, width, height⟩ := by
  obtain ⟨x, y, w, h'⟩ := a
  obtain ⟨hright, hbottom, _, _⟩ := h
  simp only [Area.right, Area.bottom, Area.mk.injEq] at *
  omega

/-- **The box of a dialog is in the middle of its screen**, and no larger than that. -/
theorem centered_popup (width height : Nat) (message : List Char) :
    (popup width height message).Centered width height := by
  constructor <;> simp only [popup, Area.right, Area.bottom] <;> omega

/-- The box of a dialog. -/
def dialogBox (width height : Nat) (f : Form) : Area :=
  popup width height f.request.message.toList

theorem centered_dialogBox (width height : Nat) (f : Form) :
    (dialogBox width height f).Centered width height := by
  rw [dialogBox]
  exact centered_popup width height _

theorem width_popup (width height : Nat) (message : List Char) :
    (popup width height message).width = min dialogWidth width := rfl

theorem one_le_lineCount (width : Nat) (text : List Char) : 1 ≤ Text.lineCount width text :=
  Nat.le_max_left _ _

theorem seven_le_height_popup {width height : Nat} (hheight : 7 ≤ height) (message : List Char) :
    7 ≤ (popup width height message).height := by
  have hlines := one_le_lineCount (max 1 (min dialogWidth width - 4)) message
  simp only [popup, positions]
  omega

/-! ## the areas in it -/

/-- The area of the buttons of a dialog. -/
def buttonArea (width height : Nat) (f : Form) : Area :=
  (sections (inside (popup width height f.request.message.toList))).2.1

/-- The area of the help of a dialog. -/
def helpArea (width height : Nat) (f : Form) : Area :=
  (sections (inside (popup width height f.request.message.toList))).2.2

/-- With four rows or more, message, gap, buttons and help all have one. -/
theorem rowHeights_cases (n : Nat) :
    (n ≤ 3 ∧ rowHeights n = (min 1 n, n - 2, (if n = 2 then 1 else 0), n - 2)) ∨
      (4 ≤ n ∧ rowHeights n = (n - 3, 1, 1, 1)) := by
  match n with
  | 0 | 1 | 2 | 3 => decide
  | n + 4 => exact .inr ⟨Nat.le_add_left 4 n, rfl⟩

/-- Areas one below the other, in an area around them. -/
structure Stacked (message buttons help inner : Area) : Prop where
  top : message.y = inner.y
  message_le : message.bottom ≤ buttons.y
  buttons_le : buttons.bottom ≤ help.y
  help_le : help.bottom ≤ inner.bottom
  buttons_one : buttons.height ≤ 1
  help_one : help.height ≤ 1

/-- The three sections lie one above the other. -/
theorem stacked (inner : Area) :
    Stacked (sections inner).1 (sections inner).2.1 (sections inner).2.2 inner := by
  rcases rowHeights_cases inner.height with ⟨hle, hrows⟩ | ⟨hle, hrows⟩
  · constructor <;> simp only [sections, hrows, Area.bottom] <;> grind
  · constructor <;> simp only [sections, hrows, Area.bottom] <;> omega

/-- Each section is as wide as the inside of the box. -/
theorem columns_sections (inner : Area) :
    ((sections inner).1.x = inner.x ∧ (sections inner).1.width = inner.width) ∧
      ((sections inner).2.1.x = inner.x ∧ (sections inner).2.1.width = inner.width) ∧
        (sections inner).2.2.x = inner.x ∧ (sections inner).2.2.width = inner.width :=
  ⟨⟨rfl, rfl⟩, ⟨rfl, rfl⟩, rfl, rfl⟩

/-- A box of seven rows has a row for the buttons and one for the help above its border. -/
theorem sections_of_seven {box : Area} (h : 7 ≤ box.height) :
    (sections (inside box)).2.1 = ⟨box.x + 2, box.bottom - 3, box.width - 4, 1⟩ ∧
      (sections (inside box)).2.2 = ⟨box.x + 2, box.bottom - 2, box.width - 4, 1⟩ := by
  rcases rowHeights_cases (box.height - 3) with ⟨hle, _⟩ | ⟨_, hrows⟩
  · omega
  · simp only [sections, inside, hrows, Area.bottom, Area.mk.injEq, true_and, and_true]
    omega

/-- In a box of seven rows or more the buttons are in the third row from below, and the help in the
second. -/
theorem areas_of_seven {width height : Nat} {f : Form} {box : Area}
    (hbox : popup width height f.request.message.toList = box) (h : 7 ≤ box.height) :
    buttonArea width height f = ⟨box.x + 2, box.bottom - 3, box.width - 4, 1⟩ ∧
      helpArea width height f = ⟨box.x + 2, box.bottom - 2, box.width - 4, 1⟩ := by
  rw [buttonArea, helpArea, hbox]
  exact sections_of_seven h

theorem Area.pos_of_not_isEmpty {area : Area} (h : area.isEmpty = false) :
    0 < area.width ∧ 0 < area.height := by
  simp only [Area.isEmpty, Bool.or_eq_false_iff, beq_eq_false_iff_ne] at h
  omega

/-- An area that holds a place is not empty. -/
theorem Area.isEmpty_of_holds {area : Area} {x y : Nat} (h : area.Holds x y) :
    area.isEmpty = false := by
  simp only [Area.Holds, Area.right, Area.bottom] at h
  simp only [Area.isEmpty, Bool.or_eq_false_iff, beq_eq_false_iff_ne]
  omega

/-- An area in a box, with the border and a column beside it to both sides. -/
structure Area.InRoom (a box : Area) : Prop where
  left : a.x = box.x + 2
  right : a.right + 2 = box.right
  top : box.y + 2 ≤ a.y
  bottom : a.bottom + 1 ≤ box.bottom

/-- An area within the inside of the box is in its room. -/
theorem Area.InRoom.of_inside {a box : Area} (hcolumns : a.x = (inside box).x ∧
    a.width = (inside box).width) (htop : (inside box).y ≤ a.y)
    (hbottom : a.bottom ≤ (inside box).bottom) (h : a.isEmpty = false) : a.InRoom box := by
  have hpos := Area.pos_of_not_isEmpty h
  simp only [inside, Area.bottom] at hcolumns htop hbottom
  exact ⟨hcolumns.1, by simp only [Area.right]; omega, htop, by simp only [Area.bottom]; omega⟩

/-- Places next to an area in the room are in the box. -/
theorem Area.InRoom.holds {a box : Area} {x y : Nat} (h : a.InRoom box) (hleft : a.x ≤ x) (hright : x ≤ a.right)
    (htop : a.y ≤ y) (hbottom : y < a.bottom) : box.Holds x y := by
  obtain ⟨hl, hr, ht, hb⟩ := h
  exact ⟨by omega, by omega, by omega, by omega⟩

/-- **Message, buttons and help are in the room of their box**, unless they are empty. -/
theorem inRoom_sections (box : Area) :
    ((sections (inside box)).1.isEmpty = false → (sections (inside box)).1.InRoom box) ∧
      ((sections (inside box)).2.1.isEmpty = false → (sections (inside box)).2.1.InRoom box) ∧
        ((sections (inside box)).2.2.isEmpty = false → (sections (inside box)).2.2.InRoom box) := by
  obtain ⟨hmessage, hbuttons, hhelp⟩ := columns_sections (inside box)
  obtain ⟨htop, hmessages, hbelow, hend, _, _⟩ := stacked (inside box)
  generalize sections (inside box) = places at *
  obtain ⟨message, buttons, help⟩ := places
  simp only [Area.bottom] at htop hmessages hbelow hend
  refine ⟨.of_inside hmessage ?_ ?_, .of_inside hbuttons ?_ ?_, .of_inside hhelp ?_ ?_⟩ <;>
    simp only [Area.bottom] <;> omega

/-- The message has its place within the box. -/
theorem inRoom_messageArea {width height : Nat} {f : Form}
    (h : (messageArea width height f).isEmpty = false) :
    (messageArea width height f).InRoom (dialogBox width height f) := by
  rw [messageArea, ← dialogBox] at h ⊢
  exact (inRoom_sections _).1 h

/-- An area for buttons is a row of the room inside the box. -/
theorem buttonArea_of_not_isEmpty {width height : Nat} {f : Form} {box : Area}
    (hbox : popup width height f.request.message.toList = box)
    (h : (buttonArea width height f).isEmpty = false) :
    (4 < box.width ∧ box.y < (buttonArea width height f).y ∧
      (buttonArea width height f).y < box.bottom) ∧
      buttonArea width height f = ⟨box.x + 2, (buttonArea width height f).y, box.width - 4, 1⟩ := by
  have hone := (stacked (inside box)).buttons_one
  have hroom := (inRoom_sections box).2.1
  rw [buttonArea, hbox] at h ⊢
  generalize (sections (inside box)).2.1 = buttons at *
  have hpos := Area.pos_of_not_isEmpty h
  obtain ⟨hleft, hright, htop, hbottom⟩ := hroom h
  obtain ⟨x, y, w, n⟩ := buttons
  simp only [Area.right, Area.bottom, Area.mk.injEq, true_and] at *
  omega

/-- A cell of the area of the buttons lies in its only row. -/
theorem row_of_holds {width height : Nat} {f : Form} {x y : Nat}
    (hholds : (buttonArea width height f).Holds x y) :
    (buttonArea width height f).isEmpty = false ∧ y = (buttonArea width height f).y := by
  have hone : (buttonArea width height f).height ≤ 1 := by
    rw [buttonArea]
    exact (stacked _).buttons_one
  refine ⟨Area.isEmpty_of_holds hholds, ?_⟩
  simp only [Area.Holds, Area.bottom] at hholds
  omega

/-! ## strokes in their rows -/

variable {width height : Nat} {f : Form} {x y : Nat}

/-- A row is drawn into an area that is not empty. -/
theorem isEmpty_of_mem_drawAligned {a : Alignment} {area : Area} {spans : List Span} {s : Stroke}
    (h : s ∈ drawAligned a area spans) : area.isEmpty = false := by
  cases hempty : area.isEmpty with
  | true => simp [drawAligned, hempty] at h
  | false => rfl

/-- The message is drawn in rows of its own area. -/
theorem mem_drawMessage {area : Area} {message : List Char} {s : Stroke}
    (h : s ∈ drawMessage area message) : area.y ≤ s.y ∧ s.y < area.bottom := by
  unfold drawMessage at h
  split at h
  · cases h
  · rcases List.mem_append.1 h with h | h
    · exact (holds_of_mem_fillArea h).2.2
    · obtain ⟨hle, hlt, _⟩ := mem_drawRows h
      rw [List.length_take] at hlt
      simp only [Area.bottom]
      omega

/-- The strokes of the box of a dialog, with nothing in it. -/
def emptyBox (width height : Nat) (f : Form) : List Stroke :=
  ground width height (popup width height f.request.message.toList) ++
    edge width (popup width height f.request.message.toList) f.request.title.toList

/-- Below its title row an empty box is plain. -/
theorem plain_emptyBox (hholds : (popup width height f.request.message.toList).Holds x y)
    (htop : y ≠ (popup width height f.request.message.toList).y) :
    (markAt x y {} (emptyBox width height f)).Plain := plain_box _ _ _ hholds htop {}

/-- Below the message there are only buttons and help. -/
theorem markAt_footer (hy : (messageArea width height f).bottom ≤ y) :
    markAt x y {} (strokes width height f) =
      markAt x y (markAt x y {} (emptyBox width height f)) (footer width height f) := by
  have hmessage : ∀ s ∈ drawMessage (messageArea width height f) f.request.message.toList,
      ¬(s.x = x ∧ s.y = y) := by
    rintro s hs ⟨_, rfl⟩
    have := (mem_drawMessage hs).2
    omega
  rw [strokes_eq, ← emptyBox, markAt_append, markAt_append, markAt_of_elsewhere hmessage]

theorem footer_eq (width height : Nat) (f : Form) :
    footer width height f = drawAligned .right (buttonArea width height f) (buttonRow f) ++
      drawAligned .center (helpArea width height f) (helpRow f) := rfl

/-- **The buttons are drawn upon the empty box.** -/
theorem markAt_buttonArea (hbuttons : (buttonArea width height f).isEmpty = false) (x : Nat) :
    markAt x (buttonArea width height f).y {} (strokes width height f) =
      markAt x (buttonArea width height f).y
        (markAt x (buttonArea width height f).y {} (emptyBox width height f))
        (drawAligned .right (buttonArea width height f) (buttonRow f)) := by
  have hstacked : Stacked (messageArea width height f) (buttonArea width height f)
      (helpArea width height f) _ := stacked _
  have hhelp : ∀ s ∈ drawAligned .center (helpArea width height f) (helpRow f),
      ¬(s.x = x ∧ s.y = (buttonArea width height f).y) := by
    rintro s hs ⟨_, hy⟩
    have hbelow := hstacked.buttons_le
    have hrow := mem_drawAligned hs
    have hpos := Area.pos_of_not_isEmpty hbuttons
    simp only [Area.bottom] at hbelow
    omega
  rw [markAt_footer hstacked.message_le, footer_eq, markAt_append, markAt_of_elsewhere hhelp]

/-- **So is the help.** -/
theorem markAt_helpArea (x : Nat) :
    markAt x (helpArea width height f).y {} (strokes width height f) =
      markAt x (helpArea width height f).y
        (markAt x (helpArea width height f).y {} (emptyBox width height f))
        (drawAligned .center (helpArea width height f) (helpRow f)) := by
  have hstacked : Stacked (messageArea width height f) (buttonArea width height f)
      (helpArea width height f) _ := stacked _
  have hbuttons : ∀ s ∈ drawAligned .right (buttonArea width height f) (buttonRow f),
      ¬(s.x = x ∧ s.y = (helpArea width height f).y) := by
    rintro s hs ⟨_, hy⟩
    have hbelow := hstacked.buttons_le
    have hrow := mem_drawAligned hs
    have hpos := Area.pos_of_not_isEmpty (isEmpty_of_mem_drawAligned hs)
    simp only [Area.bottom] at hbelow
    omega
  have hmessage : (messageArea width height f).bottom ≤ (helpArea width height f).y := by
    have hbelow := hstacked.buttons_le
    have hleft := hstacked.message_le
    simp only [Area.bottom] at hbelow hleft ⊢
    omega
  rw [markAt_footer hmessage, footer_eq, markAt_append, markAt_of_elsewhere hbuttons]

end MacConsent.Screen
