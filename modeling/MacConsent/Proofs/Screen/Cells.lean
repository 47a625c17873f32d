import MacConsent.Screen.Popup

/-!
# MacConsent.Proofs.Screen.Cells

The cells of a grid after strokes.  A drawing fails just if one of its strokes is
beside the grid (`Grid.exists_draw_iff`).  A stroke marks the cell that it is at and
no other (`Grid.get?_of_stroke`), so a cell holds what the strokes at its place made
of it, in order (`Grid.get?_of_draw`, `markAt`).  What a drawing does at a place is
then read off its parts: one that is elsewhere does nothing (`markAt_of_elsewhere`), a
filled area gives its mark (`markAt_fillArea`), and no character comes from
elsewhere (`Grid.drawnFrom_of_draw`).  A cell is shown as it is unless the one before
it holds a symbol of two columns (`Grid.shown?_eq_hidden`).
-/

namespace MacConsent.Screen

/-! ## a cell after strokes -/

/-- A cell at column `x` and row `y` after strokes. -/
def markAt (x y : Nat) (c : Cell) (ss : List Stroke) : Cell :=
  ss.foldl (fun c s => if s.x = x ∧ s.y = y then c.mark s.mark else c) c

namespace Grid

variable {g g' : Grid} {s : Stroke} {ss : List Stroke}

/-- A grid keeps its size under a stroke. -/
theorem size_of_stroke (h : g.stroke s = some g') :
    g'.width = g.width ∧ g'.height = g.height := by
  unfold stroke at h
  split at h
  · obtain rfl := Option.some.inj h
    exact ⟨rfl, rfl⟩
  · cases h

/-- A drawing whose first stroke fails is not made. -/
theorem draw_cons (g : Grid) (s : Stroke) (ss : List Stroke) :
    g.draw (s :: ss) = (g.stroke s).bind (·.draw ss) := List.foldlM_cons

/-- A grid keeps its size under a drawing. -/
theorem size_of_draw (h : g.draw ss = some g') : g'.width = g.width ∧ g'.height = g.height := by
  induction ss generalizing g with
  | nil =>
      obtain rfl := Option.some.inj h
      exact ⟨rfl, rfl⟩
  | cons s ss ih =>
      rw [draw_cons] at h
      obtain ⟨g₁, hstroke, hdraw⟩ := Option.bind_eq_some_iff.1 h
      obtain ⟨hwidth, hheight⟩ := size_of_stroke hstroke
      rw [← hwidth, ← hheight]
      exact ih hdraw

/-- **A drawing fails just if one of its strokes is beside the grid.** -/
theorem exists_draw_iff (g : Grid) (ss : List Stroke) :
    (∃ g', g.draw ss = some g') ↔ ∀ s ∈ ss, s.x < g.width ∧ s.y < g.height := by
  induction ss generalizing g with
  | nil => exact iff_of_true ⟨g, rfl⟩ (List.forall_mem_nil _)
  | cons s ss ih =>
      rw [draw_cons, List.forall_mem_cons]
      by_cases hon : s.x < g.width ∧ s.y < g.height
      · obtain ⟨g₁, hstroke⟩ : ∃ g₁, g.stroke s = some g₁ := ⟨_, if_pos hon⟩
        obtain ⟨hwidth, hheight⟩ := size_of_stroke hstroke
        rw [hstroke, Option.bind_some, ih, hwidth, hheight, and_iff_right hon]
      · have hstroke : g.stroke s = none := if_neg hon
        rw [hstroke, Option.bind_none]
        exact iff_of_false (fun ⟨_, h⟩ => by cases h) fun h => hon h.1

/-- Places on a grid are told apart by their position. -/
theorem position_inj {width x y x' y' : Nat} (hx : x < width) (hx' : x' < width)
    (h : y * width + x = y' * width + x') : x = x' ∧ y = y' := by
  have hmod := congrArg (· % width) h
  have hdiv := congrArg (· / width) h
  simp only [Nat.mul_comm _ width] at hmod hdiv
  rw [Nat.mul_add_mod, Nat.mul_add_mod, Nat.mod_eq_of_lt hx, Nat.mod_eq_of_lt hx'] at hmod
  rw [Nat.mul_add_div (by omega), Nat.mul_add_div (by omega), Nat.div_eq_of_lt hx,
    Nat.div_eq_of_lt hx'] at hdiv
  exact ⟨hmod, hdiv⟩

/-- **A stroke marks the cell that it is at, and no other.** -/
theorem get?_of_stroke (h : g.stroke s = some g') (x y : Nat) :
    g'.get? x y = (g.get? x y).map fun c => if s.x = x ∧ s.y = y then c.mark s.mark else c := by
  obtain ⟨hwidth, hheight⟩ := size_of_stroke h
  unfold get?
  rw [hwidth, hheight]
  unfold stroke at h
  split at h
  · next hson =>
      obtain rfl := Option.some.inj h
      split
      · next hon =>
          rw [Array.getElem?_modify]
          by_cases hs : s.x = x ∧ s.y = y
          · obtain ⟨rfl, rfl⟩ := hs
            simp
          · rw [if_neg fun hposition => hs (position_inj hson.1 hon.1 hposition)]
            simp [hs]
      · rfl
  · cases h

/-- **A cell holds what the strokes at its place make of it.** -/
theorem get?_of_draw (h : g.draw ss = some g') (x y : Nat) :
    g'.get? x y = (g.get? x y).map fun c => markAt x y c ss := by
  induction ss generalizing g with
  | nil =>
      obtain rfl := Option.some.inj h
      simp [markAt]
  | cons s ss ih =>
      rw [draw_cons] at h
      obtain ⟨g₁, hstroke, hdraw⟩ := Option.bind_eq_some_iff.1 h
      rw [ih hdraw, get?_of_stroke hstroke, Option.map_map]
      rfl

/-- A blank grid holds blank cells. -/
theorem get?_blank (width height x y : Nat) :
    (blank width height).get? x y = if x < width ∧ y < height then some {} else none := by
  unfold get?
  split
  · next hon =>
      obtain ⟨hx, hy⟩ := hon
      have hlt : y * width + x < width * height :=
        calc
          y * width + x < y * width + width := Nat.add_lt_add_left hx _
          _ = (y + 1) * width := (Nat.succ_mul y width).symm
          _ ≤ height * width := Nat.mul_le_mul_right width hy
          _ = width * height := Nat.mul_comm height width
      rw [if_pos ⟨hx, hy⟩, blank, Array.getElem?_replicate, if_pos hlt]
  · next hoff => exact (if_neg hoff).symm

/-! ## what is shown -/

/-- The rows of a screen are its cells, cut at its width. -/
theorem getElem?_cutRows (width height : Nat) (cells : List Cell) (y : Nat) :
    (cutRows width height cells)[y]? =
      if y < height then some ((cells.drop (y * width)).take width) else none := by
  induction height generalizing cells y with
  | zero => rfl
  | succ height ih =>
      cases y with
      | zero => simp [cutRows]
      | succ y =>
          rw [cutRows, List.getElem?_cons_succ, ih, List.drop_drop, Nat.add_comm width, ← Nat.succ_mul]
          simp only [Nat.add_lt_add_iff_right]

/-- The cell that is shown at a column and a row. -/
def shown? (g : Grid) (x y : Nat) : Option Cell := g.shown[y]?.bind (·[x]?)

/-- **A cell is shown unless the one before it hides it.** -/
theorem shown?_eq (g : Grid) {x y : Nat} (hx : x < g.width) (hy : y < g.height) :
    g.shown? x y = (g.get? x y).map (g.shownAt (y * g.width + x)) := by
  rw [shown?, shown, getElem?_cutRows, if_pos hy, Option.bind_some, List.getElem?_take_of_lt hx,
    List.getElem?_drop, get?, if_pos ⟨hx, hy⟩]
  simp

/-- Whether the cell before a cell hides it: the one to the left, or the last one of the row
above. -/
def hidden (g : Grid) : Nat → Nat → Bool
  | x + 1, y => (g.get? x y).any hidesNext
  | 0, y + 1 => (g.get? (g.width - 1) y).any hidesNext
  | 0, 0 => false

/-- A terminal shows every cell but those a wide one covers. -/
theorem shown?_eq_hidden (g : Grid) {x y : Nat} (hx : x < g.width) (hy : y < g.height) :
    g.shown? x y = (g.get? x y).map fun c => if g.hidden x y then {} else c := by
  rw [shown?_eq g hx hy]
  congr 1
  funext c
  match x, y with
  | x + 1, y =>
      have hget : g.get? x y = g.cells[y * g.width + x]? := if_pos ⟨Nat.lt_of_succ_lt hx, hy⟩
      rw [hidden, hget]
      rfl
  | 0, y + 1 =>
      have hbefore : (y + 1) * g.width + 0 = y * g.width + (g.width - 1) + 1 := by
        rw [Nat.succ_mul]
        omega
      have hget : g.get? (g.width - 1) y = g.cells[y * g.width + (g.width - 1)]? :=
        if_pos ⟨Nat.sub_lt hx Nat.one_pos, Nat.lt_of_succ_lt hy⟩
      rw [hidden, hget, hbefore]
      rfl
  | 0, 0 =>
      have hfirst : 0 * g.width + 0 = 0 := by omega
      rw [hidden, hfirst]
      rfl

/-- **What stands behind a symbol of one column is shown as it is.** -/
theorem shown?_of_narrow (g : Grid) {x y : Nat} (hpos : 0 < x) (hx : x < g.width)
    (hy : y < g.height) {before : Cell} (hbefore : g.get? (x - 1) y = some before)
    (hnarrow : Text.displayWidth before.symbol ≤ 1) : g.shown? x y = g.get? x y := by
  obtain ⟨x, rfl⟩ : ∃ x', x = x' + 1 := ⟨x - 1, by omega⟩
  rw [Nat.add_sub_cancel] at hbefore
  have hvisible : g.hidden (x + 1) y = false := by
    rw [hidden, hbefore, Option.any_some]
    exact decide_eq_false (Nat.not_lt.2 hnarrow)
  rw [shown?_eq_hidden g hx hy, hvisible]
  simp

end Grid

/-! ## drawings and their parts -/

variable {x y : Nat}

theorem markAt_append (c : Cell) (ss ts : List Stroke) :
    markAt x y c (ss ++ ts) = markAt x y (markAt x y c ss) ts := List.foldl_append

/-- Strokes elsewhere leave a cell. -/
theorem markAt_of_elsewhere {ss : List Stroke} (h : ∀ s ∈ ss, ¬(s.x = x ∧ s.y = y)) (c : Cell) :
    markAt x y c ss = c := by
  induction ss with
  | nil => rfl
  | cons s ss ih =>
      obtain ⟨hs, hss⟩ := List.forall_mem_cons.1 h
      rw [markAt, List.foldl_cons, if_neg hs]
      exact ih hss

theorem markAt_cons_self (c : Cell) (m : Mark) (ss : List Stroke) :
    markAt x y c (⟨x, y, m⟩ :: ss) = markAt x y (c.mark m) ss := by
  rw [markAt, List.foldl_cons, if_pos ⟨rfl, rfl⟩]
  rfl

/-- What holds of a cell and is kept by the strokes at its place holds after them. -/
theorem markAt_induction {P : Cell → Prop} {c : Cell} (hc : P c) {ss : List Stroke}
    (h : ∀ s ∈ ss, s.x = x ∧ s.y = y → ∀ c, P c → P (c.mark s.mark)) : P (markAt x y c ss) := by
  induction ss generalizing c with
  | nil => exact hc
  | cons s ss ih =>
      obtain ⟨hs, hss⟩ := List.forall_mem_cons.1 h
      rw [markAt, List.foldl_cons]
      split
      · next hplace => exact ih (hs hplace c hc) hss
      · exact ih hc hss

/-- Marking a cell with the same mark again changes nothing. -/
def Mark.Idempotent (m : Mark) : Prop := ∀ c : Cell, (c.mark m).mark m = c.mark m

theorem idempotent_reset : Mark.reset.Idempotent := fun _ => rfl

theorem idempotent_paint (s : Style) : (Mark.paint s).Idempotent := by
  intro c
  cases hfg : s.fg <;> cases hbg : s.bg <;> simp [Cell.mark, Cell.paint, hfg, hbg]

/-- Strokes that all do the same leave what one of them leaves. -/
theorem markAt_of_same {m : Mark} (hm : m.Idempotent) {ss : List Stroke}
    (hsame : ∀ s ∈ ss, s.mark = m) (hat : ∃ s ∈ ss, s.x = x ∧ s.y = y) (c : Cell) :
    markAt x y c ss = c.mark m := by
  induction ss generalizing c with
  | nil =>
      obtain ⟨s, hs, _⟩ := hat
      cases hs
  | cons s ss ih =>
      obtain ⟨hs, hss⟩ := List.forall_mem_cons.1 hsame
      by_cases hrest : ∃ s ∈ ss, s.x = x ∧ s.y = y
      · rw [markAt, List.foldl_cons]
        split
        · rw [← markAt, ih hss hrest, hs, hm]
        · exact ih hss hrest c
      · obtain ⟨t, ht, hplace⟩ := hat
        rcases List.mem_cons.1 ht with rfl | ht
        · rw [markAt, List.foldl_cons, if_pos hplace, ← markAt, hs]
          exact markAt_of_elsewhere (fun s hs hplace => hrest ⟨s, hs, hplace⟩) _
        · exact absurd ⟨t, ht, hplace⟩ hrest

/-- An area is filled within its bounds. -/
theorem holds_of_mem_fillArea {area : Area} {m : Mark} {s : Stroke} (h : s ∈ fillArea area m) :
    area.Holds s.x s.y := by
  obtain ⟨⟨_, _⟩, hcell, rfl⟩ := List.mem_map.1 h
  exact Area.mem_cells.1 hcell

/-- **A filled area marks its cells.** -/
theorem markAt_fillArea {area : Area} {m : Mark} (hm : m.Idempotent) (c : Cell) :
    markAt x y c (fillArea area m) = if area.Holds x y then c.mark m else c := by
  split
  · next hholds =>
      refine markAt_of_same hm ?_ ?_ c
      · intro s hs
        obtain ⟨_, _, rfl⟩ := List.mem_map.1 hs
        rfl
      · exact ⟨⟨x, y, m⟩, List.mem_map.2 ⟨(x, y), Area.mem_cells.2 hholds, rfl⟩, rfl, rfl⟩
  · next hout =>
      refine markAt_of_elsewhere ?_ c
      rintro s hs ⟨rfl, rfl⟩
      exact hout (holds_of_mem_fillArea hs)

/-! ## the characters on a screen -/

/-- The characters that a mark may put into a cell. -/
def Mark.text : Mark → List Char
  | .set symbol _ => symbol
  | .append symbol _ => symbol
  | .paint _ => []
  | .reset => []

/-- A mark writes its own text or a space. -/
theorem mem_symbol_mark {c : Cell} {m : Mark} {ch : Char} (h : ch ∈ (c.mark m).symbol) :
    ch ∈ c.symbol ∨ ch ∈ m.text ∨ ch = ' ' := by
  cases m with
  | set symbol style => exact .inr (.inl h)
  | append symbol style => exact (List.mem_append.1 h).imp_right .inl
  | paint style => exact .inl h
  | reset => exact .inr (.inr (List.mem_singleton.1 h))

/-- Every character of a cell is a blank or one of those that may be drawn. -/
def Cell.DrawnFrom (drawn : Char → Prop) (c : Cell) : Prop := ∀ ch ∈ c.symbol, ch = ' ' ∨ drawn ch

theorem Cell.drawnFrom_blank (drawn : Char → Prop) : ({} : Cell).DrawnFrom drawn :=
  fun _ hch => .inl (List.mem_singleton.1 hch)

namespace Grid

/-- A stroke writes nothing but its own text. -/
theorem drawnFrom_of_stroke {drawn : Char → Prop} {g g' : Grid} {s : Stroke}
    (h : g.stroke s = some g') (hg : ∀ c ∈ g.cells, c.DrawnFrom drawn)
    (hs : ∀ ch ∈ s.mark.text, drawn ch) : ∀ c ∈ g'.cells, c.DrawnFrom drawn := by
  unfold stroke at h
  split at h
  · obtain rfl := Option.some.inj h
    intro c hc
    obtain ⟨i, hi⟩ := Array.mem_iff_getElem?.1 hc
    rw [Array.getElem?_modify] at hi
    split at hi
    · obtain ⟨before, hbefore, rfl⟩ := Option.map_eq_some_iff.1 hi
      intro ch hch
      rcases mem_symbol_mark hch with hcell | htext | hblank
      · exact hg before (Array.mem_of_getElem? hbefore) ch hcell
      · exact .inr (hs ch htext)
      · exact .inl hblank
    · exact hg c (Array.mem_of_getElem? hi)
  · cases h

/-- **The characters on a screen were drawn.** -/
theorem drawnFrom_of_draw {drawn : Char → Prop} {ss : List Stroke}
    (hss : ∀ s ∈ ss, ∀ ch ∈ s.mark.text, drawn ch) {g g' : Grid} (h : g.draw ss = some g')
    (hg : ∀ c ∈ g.cells, c.DrawnFrom drawn) : ∀ c ∈ g'.cells, c.DrawnFrom drawn := by
  induction ss generalizing g with
  | nil =>
      obtain rfl := Option.some.inj h
      exact hg
  | cons s ss ih =>
      obtain ⟨hs, hss⟩ := List.forall_mem_cons.1 hss
      rw [draw_cons] at h
      obtain ⟨g₁, hstroke, hdraw⟩ := Option.bind_eq_some_iff.1 h
      exact ih hss hdraw (drawnFrom_of_stroke hstroke hg hs)

theorem drawnFrom_blank (drawn : Char → Prop) (width height : Nat) :
    ∀ c ∈ (blank width height).cells, c.DrawnFrom drawn := by
  intro c hc
  rw [(Array.mem_replicate.1 hc).2]
  exact Cell.drawnFrom_blank drawn

/-- The rows of a screen have no other cells than the screen. -/
theorem mem_of_mem_cutRows {width height : Nat} {cells row : List Cell} {c : Cell}
    (hrow : row ∈ cutRows width height cells) (hc : c ∈ row) : c ∈ cells := by
  induction height generalizing cells with
  | zero => cases hrow
  | succ height ih =>
      rcases List.mem_cons.1 hrow with rfl | hrow
      · exact List.mem_of_mem_take hc
      · exact List.mem_of_mem_drop (ih hrow)

/-- What a terminal shows of a screen was drawn on it. -/
theorem drawnFrom_shown {drawn : Char → Prop} {g : Grid} (hg : ∀ c ∈ g.cells, c.DrawnFrom drawn) :
    ∀ row ∈ g.shown, ∀ c ∈ row, c.DrawnFrom drawn := by
  intro row hrow c hc
  have hmem := Array.mem_toList_iff.1 (mem_of_mem_cutRows hrow hc)
  obtain ⟨position, hposition, rfl⟩ := Array.mem_mapIdx.1 hmem
  unfold shownAt
  split
  · exact hg _ (Array.getElem_mem hposition)
  · split
    · exact Cell.drawnFrom_blank drawn
    · exact hg _ (Array.getElem_mem hposition)

end Grid

end MacConsent.Screen
