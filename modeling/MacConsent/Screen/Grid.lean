import MacConsent.Screen.Area
import MacConsent.Screen.Color
import MacConsent.Text.Width

/-!
# MacConsent.Screen.Grid

A grid of cells, and strokes on it. A drawing is a list of strokes, each at one
cell; the grid takes them in order, and cells that no stroke touches stay as
they are. There is no cell beside the grid, so a drawing with a stroke there
fails as a whole. A symbol of two columns hides the cell to its right, so in a
grid that is shown the cell after such a symbol is blank.
-/

namespace MacConsent.Screen

/-- A cell of a screen. A symbol is one character or several that are drawn as one. -/
structure Cell where
  symbol : List Char := [' ']
  fg : Color := .unset
  bg : Color := .unset
deriving DecidableEq, Repr

/-- What a stroke does to a cell. -/
inductive Mark
  /-- Puts a symbol in place of the one there. -/
  | set (symbol : List Char) (style : Style)
  /-- Puts a symbol behind the one there. -/
  | append (symbol : List Char) (style : Style)
  | paint (style : Style)
  | reset
deriving DecidableEq, Repr

namespace Cell

/-- A cell in the colours of a style. -/
def paint (c : Cell) (s : Style) : Cell := { c with fg := s.fg.getD c.fg, bg := s.bg.getD c.bg }

/-- A cell after a stroke. -/
def mark (c : Cell) : Mark → Cell
  | .set symbol style => { c with symbol }.paint style
  | .append symbol style => { c with symbol := c.symbol ++ symbol }.paint style
  | .paint style => c.paint style
  | .reset => {}

end Cell

/-- A stroke at a cell. -/
structure Stroke where
  x : Nat
  y : Nat
  mark : Mark
deriving DecidableEq, Repr

/-- A grid of cells, row by row. -/
structure Grid where
  width : Nat
  height : Nat
  cells : Array Cell
  size_eq : cells.size = width * height

namespace Grid

/-- A blank grid. -/
def blank (width height : Nat) : Grid :=
  ⟨width, height, Array.replicate (width * height) {}, Array.size_replicate⟩

/-- The cell at a column and a row, if they are on the grid. -/
def get? (g : Grid) (x y : Nat) : Option Cell :=
  if x < g.width ∧ y < g.height then g.cells[y * g.width + x]? else none

/-- The grid after a stroke; there is none after a stroke beside it. -/
def stroke (g : Grid) (s : Stroke) : Option Grid :=
  if s.x < g.width ∧ s.y < g.height then
    some { g with
      cells := g.cells.modify (s.y * g.width + s.x) (·.mark s.mark)
      size_eq := by rw [Array.size_modify]; exact g.size_eq }
  else none

/-- The grid after strokes in order, unless one of them is beside it. -/
def draw (g : Grid) (strokes : List Stroke) : Option Grid := strokes.foldlM stroke g

/-! ## What is shown -/

/-- Whether a cell hides the one after it. -/
def hidesNext (c : Cell) : Bool := decide (1 < Text.displayWidth c.symbol)

/-- The cell that is shown at a position, counted row by row. -/
def shownAt (g : Grid) (position : Nat) (c : Cell) : Cell :=
  match position with
  | 0 => c
  | before + 1 => if g.cells[before]?.any hidesNext then {} else c

/-- Cuts cells into rows. -/
def cutRows (width : Nat) : Nat → List Cell → List (List Cell)
  | 0, _ => []
  | height + 1, cells => cells.take width :: cutRows width height (cells.drop width)

/-- The rows of a grid as they are shown. -/
def shown (g : Grid) : List (List Cell) :=
  cutRows g.width g.height (g.cells.mapIdx g.shownAt).toList

end Grid

end MacConsent.Screen
