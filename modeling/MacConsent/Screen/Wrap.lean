import MacConsent.Screen.Glyph

/-!
# MacConsent.Screen.Wrap

Lines of glyphs broken into rows. A row is made of words and of the gaps between
them. A word is held back until it ends; then it joins the row with the gap
before it, unless it begins the row, where no gap is kept. When row, gap and
word together fill the room, the row is finished and the word goes on to the
next one; of the gap, what would still have fitted is dropped. A word that fills
a row by itself is broken.
-/

namespace MacConsent.Screen

/-- The rows of a line that are finished, and the parts of the one that is not. -/
structure Wrap where
  /-- The row so far, last glyph first. -/
  row : List Glyph := []
  rowWidth : Nat := 0
  /-- The blanks behind the row, last glyph first. -/
  gap : List Glyph := []
  gapWidth : Nat := 0
  /-- The word behind the gap, last glyph first. -/
  word : List Glyph := []
  wordWidth : Nat := 0
  /-- Whether the last glyph belongs to a word. -/
  inWord : Bool := false
  /-- The finished rows, last first. -/
  done : List (List Glyph) := []
deriving DecidableEq, Repr

namespace Wrap

/-- The word joins the row. -/
def join (w : Wrap) : Wrap :=
  { w with
    row := w.word ++ (if w.row.isEmpty then [] else w.gap ++ w.row)
    rowWidth := w.rowWidth + (if w.row.isEmpty then 0 else w.gapWidth) + w.wordWidth
    gap := []
    gapWidth := 0
    word := []
    wordWidth := 0 }

/-- Drops glyphs from the start of a gap as long as they fit into `room` columns: the rest,
and the columns dropped. -/
def dropGap (room dropped : Nat) : List Glyph → List Glyph × Nat
  | [] => ([], dropped)
  | g :: gs =>
    if room < dropped + g.advance then (g :: gs, dropped)
    else dropGap room (dropped + g.advance) gs

/-- Finishes the row. -/
def breakRow (room : Nat) (w : Wrap) : Wrap :=
  let (gap, dropped) := dropGap (room - w.rowWidth) 0 w.gap.reverse
  { w with
    done := w.row.reverse :: w.done
    row := []
    rowWidth := 0
    gap := gap.reverse
    gapWidth := w.gapWidth - dropped }

/-- Takes a glyph into the gap or into the word. -/
def push (w : Wrap) (g : Glyph) : Wrap :=
  if g.isBlank then
    { w with gap := g :: w.gap, gapWidth := w.gapWidth + g.advance, inWord := false }
  else { w with word := g :: w.word, wordWidth := w.wordWidth + g.advance, inWord := true }

/-- Whether the word has to join the row before the next glyph is taken: it has ended, or it
begins a row that it or the gap would overfill. -/
def mustJoin (room : Nat) (w : Wrap) (g : Glyph) : Bool :=
  (w.inWord && g.isBlank) ||
    (w.row.isEmpty &&
      (decide (room < w.wordWidth + g.advance) || decide (room < w.gapWidth + g.advance)))

/-- Whether the row has to be finished before the next glyph is taken. -/
def mustBreak (room : Nat) (w : Wrap) (g : Glyph) : Bool :=
  decide (room ≤ w.rowWidth) ||
    (decide (0 < g.advance) && decide (room ≤ w.rowWidth + w.gapWidth + w.wordWidth))

/-- Takes the next glyph of a line. One too wide for any row is left out, and so is a blank at
which a row was finished. -/
def step (room : Nat) (w : Wrap) (g : Glyph) : Wrap :=
  if room < g.advance then w
  else
    let w := if w.mustJoin room g then w.join else w
    if w.mustBreak room g then
      let w := w.breakRow room
      if g.isBlank && w.gap.isEmpty then w else w.push g
    else w.push g

/-- The rows of a line that has ended; there is at least one. -/
def finish (w : Wrap) : List (List Glyph) :=
  let done := if w.row.isEmpty && w.word.isEmpty && !w.gap.isEmpty then [] :: w.done else w.done
  let last := w.word ++ (if w.row.isEmpty then [] else w.gap ++ w.row)
  let done := if last.isEmpty then done else last.reverse :: done
  if done.isEmpty then [[]] else done.reverse

end Wrap

/-- The rows of a line of glyphs. -/
def wrapLine (room : Nat) (line : List Glyph) : List (List Glyph) :=
  (line.foldl (Wrap.step room) {}).finish

/-- The rows of a text; an empty text is one empty line. -/
def wrapText (room : Nat) (text : List Char) (style : Style) : List (List Glyph) :=
  let lines := if text.isEmpty then [[]] else Text.lines text
  lines.flatMap fun line => wrapLine room (Span.mk line style).glyphs

end MacConsent.Screen
