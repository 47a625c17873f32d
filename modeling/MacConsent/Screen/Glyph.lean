import MacConsent.Screen.Grid
import MacConsent.Text.Blank
import MacConsent.Text.Cluster
import MacConsent.Text.Lines

/-!
# MacConsent.Screen.Glyph

Styled text as a sequence of glyphs. A glyph is what a reader takes for one
character; it fills some columns, or none. Columns are counted in sixteen bits
wherever a position on the screen is computed.
-/

namespace MacConsent.Screen

/-- A symbol to be drawn. -/
structure Glyph where
  symbol : List Char
  style : Style := {}
deriving DecidableEq, Repr

/-- The range of screen positions. -/
def positions : Nat := 65536

namespace Glyph

/-- The columns that a glyph fills. -/
def width (g : Glyph) : Nat := Text.displayWidth g.symbol

/-- The columns that a glyph moves the position by. -/
def advance (g : Glyph) : Nat := g.width % positions

/-- Whether a line may be broken at a glyph. The space that forbids a break is no such glyph,
and the mark that allows one is. -/
def isBlank (g : Glyph) : Bool :=
  g.symbol == ['\u200b'] || (g.symbol.all Text.isBlank && g.symbol != ['\u00a0'])

end Glyph

/-- A run of text in one style. -/
structure Span where
  text : List Char
  style : Style := {}
deriving DecidableEq, Repr

namespace Span

/-- The columns that a span fills. -/
def width (s : Span) : Nat := Text.displayWidth s.text

/-- The glyphs of a span; line feeds are left out. -/
def glyphs (s : Span) : List Glyph :=
  ((Text.clusters s.text).filter (· != ['\n'])).map fun symbol => ⟨symbol, s.style⟩

end Span

/-! ## Drawing glyphs one after another -/

/-- Draws glyphs from column `x` on, each in a cell of its own; those without width are left
out. `done` holds the strokes so far, last first. -/
def drawRow (y : Nat) (done : List Stroke) (x : Nat) : List Glyph → List Stroke
  | [] => done.reverse
  | g :: gs =>
    if g.width = 0 then drawRow y done x gs
    else drawRow y (⟨x, y, .set g.symbol g.style⟩ :: done) (x + g.advance) gs

/-- The cells behind a symbol that it hides. -/
def hide (y x next : Nat) : List Stroke :=
  (List.range (next - (x + 1))).map fun i => ⟨x + 1 + i, y, .reset⟩

/-- Draws the glyphs of a span between the columns `left` and `right`, from `x` on. A glyph
without width goes into the cell before it, and what comes after one at the very start goes
into the same cell. A glyph that does not fit ends the span. -/
def drawSpan (y left right : Nat) (done : List Stroke) (isFirst : Bool) (x : Nat) :
    List Glyph → List Stroke
  | [] => done.reverse
  | g :: gs =>
    let next := min (positions - 1) (x + g.advance)
    if right < next then done.reverse
    else
      let here : Stroke :=
        if isFirst then ⟨x, y, .set g.symbol g.style⟩
        else if x = left then ⟨x, y, .append g.symbol g.style⟩
        else if g.width = 0 then ⟨x - 1, y, .append g.symbol g.style⟩
        else ⟨x, y, .set g.symbol g.style⟩
      drawSpan y left right ((hide y x next).reverse ++ here :: done) false next gs

/-- Draws spans one after another into the columns from `x` up to `right`. Spans without width
are left out. -/
def drawSpans (y x right : Nat) : List Span → List Stroke
  | [] => []
  | s :: ss =>
    if s.width = 0 then drawSpans y x right ss
    else if right ≤ x then []
    else
      drawSpan y x right [] true x s.glyphs ++
        drawSpans y (min (positions - 1) (x + min (positions - 1) s.width)) right ss

/-! ## Rows of glyphs -/

/-- As many glyphs as fit into `room` columns. A glyph too wide for the whole row is left out;
another one that no longer fits ends the row. `row` holds the glyphs so far, last first. -/
def fitRow (room : Nat) (row : List Glyph) (used : Nat) : List Glyph → List Glyph × Nat
  | [] => (row.reverse, used)
  | g :: gs =>
    if room < g.advance then fitRow room row used gs
    else if room < used + g.advance then (row.reverse, used)
    else fitRow room (g :: row) (used + g.advance) gs

/-- Where a row stands in its area. -/
inductive Alignment
  | center
  | right
deriving DecidableEq, Repr

/-- The first column of a row of `used` columns in a room. -/
def Alignment.offset (a : Alignment) (room used : Nat) : Nat :=
  match a with
  | .center => room / 2 - used / 2
  | .right => room - used

/-- Draws spans as one row in an area; what does not fit is cut off at the right. -/
def drawAligned (a : Alignment) (area : Area) (spans : List Span) : List Stroke :=
  if area.isEmpty then []
  else
    let (row, used) := fitRow area.width [] 0 (spans.flatMap Span.glyphs)
    drawRow area.y [] (area.x + a.offset area.width used) row

end MacConsent.Screen
