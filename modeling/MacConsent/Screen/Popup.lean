import MacConsent.Dialog.Form
import MacConsent.Screen.Wrap
import MacConsent.Text.LineCount

/-!
# MacConsent.Screen.Popup

A dialog on a screen: a box in the middle, as wide as sixty columns and as high
as its message needs, as far as the screen has room. Inside stand the message,
an empty row, the buttons and a line of help. Where there is no room for all
four, one row holds the message alone, two hold message and buttons, and three
hold message, empty row and help.
-/

namespace MacConsent.Screen

open Dialog (Button Form)

/-! ## Places -/

/-- The width of a dialog where the screen is wide enough. -/
def dialogWidth : Nat := 60

/-- The box of a dialog on a screen. -/
def popup (width height : Nat) (message : List Char) : Area :=
  let boxWidth := min dialogWidth width
  let lines := min (positions - 1) (Text.lineCount (max 1 (boxWidth - 4)) message)
  let boxHeight := min (min (positions - 1) (lines + 7)) height
  ⟨(width - boxWidth) / 2, (height - boxHeight) / 2, boxWidth, boxHeight⟩

/-- The room inside a box: within its border, a column to both sides and a row above. -/
def inside (box : Area) : Area := ⟨box.x + 2, box.y + 2, box.width - 4, box.height - 3⟩

/-- The heights of message, gap, buttons and help. -/
def rowHeights : Nat → Nat × Nat × Nat × Nat
  | 0 => (0, 0, 0, 0)
  | 1 => (1, 0, 0, 0)
  | 2 => (1, 0, 1, 0)
  | 3 => (1, 1, 0, 1)
  | n + 4 => (n + 1, 1, 1, 1)

/-- The areas of message, buttons and help. -/
def sections (inner : Area) : Area × Area × Area :=
  let (message, gap, buttons, help) := rowHeights inner.height
  ({ inner with height := message },
    { inner with y := inner.y + message + gap, height := buttons },
    { inner with y := inner.y + message + gap + buttons, height := help })

/-! ## The box -/

/-- Gives all cells of an area one mark. -/
def fillArea (area : Area) (mark : Mark) : List Stroke :=
  area.cells.map fun (x, y) => ⟨x, y, mark⟩

/-- Puts a symbol and leaves the colours. -/
def ruleMark (c : Char) : Mark := .set [c] {}

/-- The border of a box with rounded corners. -/
def border (box : Area) : List Stroke :=
  if box.isEmpty then []
  else
    let right := box.right - 1
    let bottom := box.bottom - 1
    box.rows.map (fun y => ⟨box.x, y, ruleMark '│'⟩) ++
    box.columns.map (fun x => ⟨x, box.y, ruleMark '─'⟩) ++
    box.rows.map (fun y => ⟨right, y, ruleMark '│'⟩) ++
    box.columns.map (fun x => ⟨x, bottom, ruleMark '─'⟩) ++
    [⟨right, bottom, ruleMark '╯'⟩, ⟨right, box.y, ruleMark '╮'⟩,
      ⟨box.x, bottom, ruleMark '╰'⟩, ⟨box.x, box.y, ruleMark '╭'⟩]

/-- The lines of a title as spans, a blank at either end of the title. -/
def titleSpans (title : List Char) : List Span :=
  (Text.lines (' ' :: title ++ [' '])).map fun line => ⟨line, {}⟩

/-- The title in the top border of a box on a screen of the given width, in the middle. -/
def drawTitle (screenWidth : Nat) (box : Area) (title : List Char) : List Stroke :=
  let room := box.width - 2
  if room = 0 ∨ box.height = 0 then []
  else
    let spans := titleSpans title
    let width := spans.foldl (fun n s => n + s.width) 0 % positions
    let shift := (room - ((width + 1) % positions - 1)) / 2
    let x := box.x + 1 + shift
    drawSpans box.y x (min screenWidth (x + min width room)) spans

/-! ## Buttons and help -/

/-- The colour of a button. -/
def buttonColor : Button → Color
  | .accept => .green
  | .neutral => .yellow
  | .decline => .red

/-- A button: filled and between signs if it is selected, else between blanks. -/
def buttonSpans (f : Form) (b : Button) : List Span :=
  let color := buttonColor b
  let label := (f.label b).toList
  if f.selected = b then
    [⟨f.icons.buttonLeft.toList, .ink color⟩, ⟨label, ⟨some .background, some color⟩⟩,
      ⟨f.icons.buttonRight.toList, .ink color⟩]
  else [⟨' ' :: label ++ [' '], .ink color⟩]

/-- The buttons, two blanks apart. -/
def buttonRow (f : Form) : List Span :=
  match f.buttons with
  | [] => []
  | b :: bs => buttonSpans f b ++ bs.flatMap fun b => ⟨[' ', ' '], {}⟩ :: buttonSpans f b

/-- The keys and what they do. -/
def helpRow (f : Form) : List Span :=
  [⟨f.icons.tabNext.toList, .ink .foreground⟩, ⟨" switch • ".toList, .ink .dimmed⟩,
    ⟨f.icons.enter.toList, .ink .foreground⟩, ⟨" select • ".toList, .ink .dimmed⟩,
    ⟨"esc".toList, .ink .foreground⟩, ⟨" cancel".toList, .ink .dimmed⟩]

/-! ## The message -/

/-- Rows of glyphs from the top of an area down, each at its left side. -/
def drawRows (x y : Nat) : List (List Glyph) → List Stroke
  | [] => []
  | row :: rows => drawRow y [] x row ++ drawRows x (y + 1) rows

/-- A message in an area; rows that do not fit are left out. The area gives the colour, so a
glyph that reaches beyond it keeps the colour it finds there. -/
def drawMessage (area : Area) (message : List Char) : List Stroke :=
  if area.isEmpty then []
  else
    fillArea area (.paint (.ink .foreground)) ++
      drawRows area.x area.y
        ((wrapText area.width message {}).take area.height)

/-! ## The dialog -/

/-- The strokes of a dialog on a screen. -/
def strokes (width height : Nat) (f : Form) : List Stroke :=
  let box := popup width height f.request.message.toList
  let (message, buttons, help) := sections (inside box)
  fillArea ⟨0, 0, width, height⟩ (.paint ⟨some .foreground, some .background⟩) ++
    fillArea box .reset ++
    fillArea box (.paint ⟨some .cyan, some .background⟩) ++
    border box ++
    drawTitle width box f.request.title.toList ++
    drawMessage message f.request.message.toList ++
    drawAligned .right buttons (buttonRow f) ++
    drawAligned .center help (helpRow f)

/-- A screen with a dialog. There is none if a stroke is beside the screen: a message is not cut at
the last column, and a glyph that starts behind it has no cell. -/
def frame (width height : Nat) (f : Form) : Option Grid :=
  (Grid.blank width height).draw (strokes width height f)

end MacConsent.Screen
