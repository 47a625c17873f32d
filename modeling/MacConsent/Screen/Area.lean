/-!
# MacConsent.Screen.Area

Rectangles of cells. Columns count from the left and rows from the top.
-/

namespace MacConsent.Screen

/-- A rectangle: its left column, its top row, and its extent. -/
structure Area where
  x : Nat
  y : Nat
  width : Nat
  height : Nat
deriving DecidableEq, Repr

namespace Area

/-- The column just right of an area. -/
def right (a : Area) : Nat := a.x + a.width

/-- The row just below an area. -/
def bottom (a : Area) : Nat := a.y + a.height

/-- Whether a cell lies in an area. -/
def Holds (a : Area) (x y : Nat) : Prop := a.x ≤ x ∧ x < a.right ∧ a.y ≤ y ∧ y < a.bottom

instance (a : Area) (x y : Nat) : Decidable (a.Holds x y) :=
  inferInstanceAs (Decidable (_ ∧ _ ∧ _ ∧ _))

/-- Whether an area holds no cell. -/
def isEmpty (a : Area) : Bool := a.width == 0 || a.height == 0

/-- The columns of an area. -/
def columns (a : Area) : List Nat := (List.range a.width).map (a.x + ·)

/-- The rows of an area. -/
def rows (a : Area) : List Nat := (List.range a.height).map (a.y + ·)

/-- The cells of an area, row by row. -/
def cells (a : Area) : List (Nat × Nat) := a.rows.flatMap fun y => a.columns.map fun x => (x, y)

/-- The columns of an area are those that it spans. -/
theorem mem_columns {a : Area} {x : Nat} : x ∈ a.columns ↔ a.x ≤ x ∧ x < a.right := by
  simp only [columns, right, List.mem_map, List.mem_range]
  constructor
  · rintro ⟨i, hi, rfl⟩; omega
  · intro h; exact ⟨x - a.x, by omega, by omega⟩

/-- The rows of an area are those that it spans. -/
theorem mem_rows {a : Area} {y : Nat} : y ∈ a.rows ↔ a.y ≤ y ∧ y < a.bottom := by
  simp only [rows, bottom, List.mem_map, List.mem_range]
  constructor
  · rintro ⟨i, hi, rfl⟩; omega
  · intro h; exact ⟨y - a.y, by omega, by omega⟩

/-- The cells of an area are those that lie in it. -/
theorem mem_cells {a : Area} {x y : Nat} : (x, y) ∈ a.cells ↔ a.Holds x y := by
  simp only [cells, List.mem_flatMap, List.mem_map, Prod.mk.injEq, Holds]
  constructor
  · rintro ⟨_, hy, _, hx, rfl, rfl⟩
    have := mem_rows.1 hy
    have := mem_columns.1 hx
    omega
  · intro h
    exact ⟨y, mem_rows.2 (by omega), x, mem_columns.2 (by omega), rfl, rfl⟩

end Area

end MacConsent.Screen
