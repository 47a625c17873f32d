import Mathlib
import MacConsent.Proofs.Words
import MacConsent.Text.LineCount

/-!
# MacConsent.Proofs.Filling

Rows filled with words.  Two fillings are compared by the place that they have
come to: the one with fewer rows is behind, and of two with as many rows the one
with fewer columns in the last (`Fill.AtMost`).

1. Breaking a long word is a loop that ends with a row that is not over-full
   (`breakLong_eq`, `used_add_le`).
2. A filling that is behind stays behind if its rows are at least as wide and its
   words are at most as long (`AtMost.add` for a word, `AtMost.addWords` for a line).
3. No column of a word is lost (`le_columns_add`), so the rows hold all that is not
   blank.

Hence wider rows are never more, and the rows have room for the text
(`lineCount_antitone_and_sufficient`).
-/

namespace MacConsent.Text

/-! ## breaking long words -/

namespace Fill

@[simp] theorem used_start : start.used = 0 := rfl

@[simp] theorem rows_start : start.rows = 1 := rfl

theorem used_start_le (width : Nat) : start.used ≤ width := Nat.zero_le width

/-- A row that is not over-full is not broken. -/
theorem breakLong_of_le {width : Nat} {f : Fill} (h : f.used ≤ width) : f.breakLong width = f := by
  have hdiv : (f.used - 1) / width = 0 := by
    rcases Nat.eq_zero_or_pos width with rfl | hpos
    · exact Nat.div_zero _
    · exact Nat.div_eq_of_lt (by omega)
  simp [breakLong, hdiv]

/-- An over-full row goes on to the next one. -/
theorem breakLong_of_lt {width : Nat} (hpos : 0 < width) {f : Fill} (h : width < f.used) :
    f.breakLong width = breakLong width ⟨f.rows + 1, f.used - width⟩ := by
  have hdiv : (f.used - 1) / width = (f.used - width - 1) / width + 1 := by
    rw [Nat.div_eq_sub_div hpos (by omega)]
    congr 2
    omega
  have hmul : ((f.used - width - 1) / width + 1) * width =
      (f.used - width - 1) / width * width + width := Nat.succ_mul _ _
  simp only [breakLong, hdiv, hmul, Fill.mk.injEq]
  omega

/-- **Breaking is a loop**: as long as the row is over-full, what does not fit goes on. -/
theorem breakLong_eq {width : Nat} (hpos : 0 < width) (f : Fill) :
    f.breakLong width =
      if width < f.used then breakLong width ⟨f.rows + 1, f.used - width⟩ else f := by
  split
  · next h => exact breakLong_of_lt hpos h
  · next h => exact breakLong_of_le (Nat.le_of_not_lt h)

/-- One column more goes into the last row, or to a new one if that row is full. -/
theorem breakLong_succ {width : Nat} (hpos : 0 < width) (rows used : Nat) :
    breakLong width ⟨rows, used + 1⟩ =
      if (breakLong width ⟨rows, used⟩).used = width then
        ⟨(breakLong width ⟨rows, used⟩).rows + 1, 1⟩
      else ⟨(breakLong width ⟨rows, used⟩).rows, (breakLong width ⟨rows, used⟩).used + 1⟩ := by
  induction used using Nat.strongRecOn generalizing rows with
  | _ used ih =>
      rcases Nat.lt_trichotomy used width with hlt | rfl | hgt
      · rw [breakLong_of_le (f := ⟨rows, used⟩) (Nat.le_of_lt hlt),
          breakLong_of_le (f := ⟨rows, used + 1⟩) hlt, if_neg (Nat.ne_of_lt hlt)]
      · rw [breakLong_of_le (f := ⟨rows, used⟩) (Nat.le_refl used),
          breakLong_of_lt hpos (f := ⟨rows, used + 1⟩) (Nat.lt_succ_self used), if_pos rfl,
          Nat.add_sub_cancel_left]
        exact breakLong_of_le hpos
      · rw [breakLong_of_lt hpos (f := ⟨rows, used⟩) hgt,
          breakLong_of_lt hpos (f := ⟨rows, used + 1⟩) (Nat.lt_succ_of_lt hgt),
          Nat.succ_sub (Nat.le_of_lt hgt)]
        exact ih (used - width) (by omega) (rows + 1)

/-- Breaking a long word takes no row back. -/
theorem le_rows_breakLong (width : Nat) (f : Fill) : f.rows ≤ (f.breakLong width).rows :=
  Nat.le_add_right _ _

/-- A row that a word was broken over is not empty. -/
theorem used_breakLong_pos (width : Nat) {f : Fill} (h : 0 < f.used) :
    0 < (f.breakLong width).used := by
  have hle : (f.used - 1) / width * width ≤ f.used - 1 := Nat.div_mul_le_self _ _
  simp only [breakLong]
  omega

/-- Breaking moves columns and loses none. -/
theorem columns_breakLong (width : Nat) (f : Fill) :
    (f.breakLong width).rows * width + (f.breakLong width).used = f.rows * width + f.used := by
  have hle : (f.used - 1) / width * width ≤ f.used - 1 := Nat.div_mul_le_self _ _
  have hmul : (f.rows + (f.used - 1) / width) * width =
      f.rows * width + (f.used - 1) / width * width := Nat.add_mul _ _ _
  simp only [breakLong, hmul]
  omega

/-! ## adding a word -/

/-- A word in a row of its own. -/
theorem add_of_empty {width len : Nat} {f : Fill} (h : f.used = 0) :
    f.add width len = breakLong width ⟨f.rows, len⟩ := by
  simp [add, makeRoom, h]

/-- A word that fits behind a blank. -/
theorem add_of_fits {width len : Nat} {f : Fill} (hpos : 0 < f.used)
    (h : f.used + 1 + len ≤ width) : f.add width len = ⟨f.rows, f.used + 1 + len⟩ := by
  have hroom : f.makeRoom width len = f := if_neg (by omega)
  simp only [add, hroom, hpos, if_true]
  exact breakLong_of_le h

/-- A word that goes to a new row. -/
theorem add_of_full {width len : Nat} {f : Fill} (hpos : 0 < f.used)
    (h : width < f.used + 1 + len) : f.add width len = breakLong width ⟨f.rows + 1, len⟩ := by
  have hroom : f.makeRoom width len = ⟨f.rows + 1, 0⟩ := if_pos ⟨hpos, h⟩
  simp [add, hroom]

/-- Behind a word no row is over-full. -/
theorem used_add_le {width : Nat} (hpos : 0 < width) (f : Fill) (len : Nat) :
    (f.add width len).used ≤ width := used_breakLong_le hpos _

/-- A word takes as many columns as it has characters, if the row before was not over-full. -/
theorem le_columns_add {width : Nat} {f : Fill} (h : f.used ≤ width) (len : Nat) :
    f.rows * width + f.used + len ≤ (f.add width len).rows * width + (f.add width len).used := by
  have hmul : (f.rows + 1) * width = f.rows * width + width := Nat.succ_mul _ _
  rcases Nat.eq_zero_or_pos f.used with hzero | hpos
  · rw [add_of_empty hzero, columns_breakLong]
    simp only
    omega
  · by_cases hfits : f.used + 1 + len ≤ width
    · rw [add_of_fits hpos hfits]
      simp only
      omega
    · rw [add_of_full hpos (Nat.lt_of_not_le hfits), columns_breakLong]
      simp only
      omega

/-- A word takes no row back. -/
theorem le_rows_add (width len : Nat) (f : Fill) : f.rows ≤ (f.add width len).rows := by
  rcases Nat.eq_zero_or_pos f.used with hzero | hpos
  · rw [add_of_empty hzero]
    exact le_rows_breakLong width ⟨f.rows, len⟩
  · by_cases hfits : f.used + 1 + len ≤ width
    · rw [add_of_fits hpos hfits]
    · rw [add_of_full hpos (Nat.lt_of_not_le hfits)]
      exact Nat.le_of_succ_le (le_rows_breakLong width ⟨f.rows + 1, len⟩)

/-! ## two fillings -/

/-- The first filling has come no further than the second. -/
def AtMost (f g : Fill) : Prop := f.rows < g.rows ∨ f.rows = g.rows ∧ f.used ≤ g.used

theorem AtMost.refl (f : Fill) : f.AtMost f := .inr ⟨rfl, Nat.le_refl _⟩

/-- A filling that is at most another has no more rows. -/
theorem AtMost.rows_le {f g : Fill} (h : f.AtMost g) : f.rows ≤ g.rows := by
  rcases h with h | h <;> omega

/-- A shorter word in a wider row is broken less often. -/
theorem AtMost.breakLong {w₁ w₂ : Nat} (hpos : 0 < w₁) (hw : w₁ ≤ w₂) {f g : Fill}
    (hrows : f.rows ≤ g.rows) (hused : f.used ≤ g.used) :
    (f.breakLong w₂).AtMost (g.breakLong w₁) := by
  have hbreaks : (f.used - 1) / w₂ ≤ (g.used - 1) / w₁ :=
    Nat.div_le_div (by omega) hw (by omega)
  rcases Nat.eq_or_lt_of_le (Nat.add_le_add hrows hbreaks) with heq | hlt
  · refine .inr ⟨heq, ?_⟩
    have hsame : (f.used - 1) / w₂ = (g.used - 1) / w₁ := by omega
    have hmul : (g.used - 1) / w₁ * w₁ ≤ (g.used - 1) / w₁ * w₂ := Nat.mul_le_mul_left _ hw
    simp only [Fill.breakLong, hsame]
    omega
  · exact .inl hlt

/-- **A filling that is behind stays behind** over a word that is at most as long in rows that
are at least as wide. -/
theorem AtMost.add {w₁ w₂ l₁ l₂ : Nat} (hpos : 0 < w₁) (hw : w₁ ≤ w₂) (hl : l₂ ≤ l₁)
    {f g : Fill} (h : f.AtMost g) : (f.add w₂ l₂).AtMost (g.add w₁ l₁) := by
  have hrows := h.rows_le
  have hbroken {m n : Nat} (hmn : m ≤ n) :
      (Fill.breakLong w₂ ⟨m, l₂⟩).AtMost (Fill.breakLong w₁ ⟨n, l₁⟩) :=
    AtMost.breakLong hpos hw hmn hl
  rcases Nat.eq_zero_or_pos g.used with hg | hg
  · rw [add_of_empty hg]
    rcases Nat.eq_zero_or_pos f.used with hf | hf
    · rw [add_of_empty hf]
      exact hbroken hrows
    · have hlt : f.rows < g.rows := by rcases h with h | h <;> omega
      by_cases hfits : f.used + 1 + l₂ ≤ w₂
      · rw [add_of_fits hf hfits]
        exact .inl (Nat.lt_of_lt_of_le hlt (le_rows_breakLong w₁ ⟨g.rows, l₁⟩))
      · rw [add_of_full hf (Nat.lt_of_not_le hfits)]
        exact hbroken hlt
  · by_cases hroom : g.used + 1 + l₁ ≤ w₁
    · rw [add_of_fits hg hroom]
      -- the word fits into one row of either filling
      have hone (m : Nat) : Fill.breakLong w₂ ⟨m, l₂⟩ = ⟨m, l₂⟩ :=
        breakLong_of_le (Nat.le_trans (by omega : l₂ ≤ w₁) hw)
      rcases Nat.eq_zero_or_pos f.used with hf | hf
      · rw [add_of_empty hf, hone]
        simp only [AtMost]
        omega
      · by_cases hfits : f.used + 1 + l₂ ≤ w₂
        · rw [add_of_fits hf hfits]
          rcases h with h | h <;> simp only [AtMost] <;> omega
        · rw [add_of_full hf (Nat.lt_of_not_le hfits), hone]
          rcases h with h | h <;> simp only [AtMost] <;> omega
    · rw [add_of_full hg (Nat.lt_of_not_le hroom)]
      rcases Nat.eq_zero_or_pos f.used with hf | hf
      · rw [add_of_empty hf]
        exact hbroken (Nat.le_succ_of_le hrows)
      · by_cases hfits : f.used + 1 + l₂ ≤ w₂
        · rw [add_of_fits hf hfits]
          exact .inl (Nat.lt_of_lt_of_le (Nat.lt_succ_of_le hrows)
            (le_rows_breakLong w₁ ⟨g.rows + 1, l₁⟩))
        · rw [add_of_full hf (Nat.lt_of_not_le hfits)]
          exact hbroken (Nat.succ_le_succ hrows)

/-! ## filling with words -/

/-- The filling after words. -/
def addWords (width : Nat) (f : Fill) (ws : List (List Char)) : Fill :=
  ws.foldl (fun f word => f.add width word.length) f

theorem addWords_append (width : Nat) (f : Fill) (ws vs : List (List Char)) :
    f.addWords width (ws ++ vs) = (f.addWords width ws).addWords width vs := List.foldl_append

/-- Words take no row back. -/
theorem le_rows_addWords (width : Nat) (ws : List (List Char)) (f : Fill) :
    f.rows ≤ (f.addWords width ws).rows := by
  induction ws generalizing f with
  | nil => exact Nat.le_refl _
  | cons word ws ih => exact Nat.le_trans (le_rows_add width word.length f) (ih _)

/-- In wider rows the same words never come further. -/
theorem AtMost.addWords {w₁ w₂ : Nat} (hpos : 0 < w₁) (hw : w₁ ≤ w₂) (ws : List (List Char))
    {f g : Fill} (h : f.AtMost g) : (f.addWords w₂ ws).AtMost (g.addWords w₁ ws) := by
  induction ws generalizing f g with
  | nil => exact h
  | cons word ws ih => exact ih (h.add hpos hw (Nat.le_refl word.length))

/-- Behind any words no row is over-full. -/
theorem used_addWords_le {width : Nat} (hpos : 0 < width) (ws : List (List Char)) {f : Fill}
    (h : f.used ≤ width) : (f.addWords width ws).used ≤ width := by
  induction ws generalizing f with
  | nil => exact h
  | cons word ws ih => exact ih (used_add_le hpos f word.length)

/-- The rows hold the characters of all words. -/
theorem le_columns_addWords {width : Nat} (hpos : 0 < width) (ws : List (List Char)) {f : Fill}
    (h : f.used ≤ width) :
    f.rows * width + f.used + ws.flatten.length ≤
      (f.addWords width ws).rows * width + (f.addWords width ws).used := by
  induction ws generalizing f with
  | nil => exact Nat.le_refl _
  | cons word ws ih =>
      have hword := le_columns_add h word.length
      have hrest := ih (used_add_le hpos f word.length)
      rw [List.flatten_cons, List.length_append]
      exact Nat.le_trans (by omega) hrest

end Fill

/-! ## lines -/

/-- The rows of a line are those its words fill. -/
theorem lineRows_eq (width : Nat) (line : List Char) :
    lineRows width line = (Fill.start.addWords width (words line)).rows := rfl

/-- Wider rows of a line are never more. -/
theorem lineRows_antitone {w₁ w₂ : Nat} (hpos : 0 < w₁) (hw : w₁ ≤ w₂) (line : List Char) :
    lineRows w₂ line ≤ lineRows w₁ line :=
  ((Fill.AtMost.refl Fill.start).addWords hpos hw (words line)).rows_le

/-- The rows of a line have room for all of it that is not blank. -/
theorem length_le_lineRows {width : Nat} (hpos : 0 < width) (line : List Char) :
    (line.filter fun c => !isBlank c).length ≤ lineRows width line * width := by
  have hcolumns := Fill.le_columns_addWords hpos (words line) (Fill.used_start_le width)
  have hused := Fill.used_addWords_le hpos (words line) (Fill.used_start_le width)
  rw [flatten_words, Fill.used_start, Fill.rows_start] at hcolumns
  rw [lineRows_eq]
  omega

/-- The lines of a text are counted one by one, and there is one at least. -/
theorem lineCount_eq (width : Nat) (text : List Char) :
    lineCount width text = max 1 ((lines text).map (lineRows width)).sum := by
  have hfold (ls : List (List Char)) (n : Nat) :
      ls.foldl (fun n line => n + lineRows width line) n = n + (ls.map (lineRows width)).sum := by
    induction ls generalizing n with
    | nil => simp
    | cons line ls ih => simp [ih, Nat.add_assoc]
  rw [lineCount, hfold, Nat.zero_add]

/-- Every line has a row. -/
theorem one_le_lineRows (width : Nat) (line : List Char) : 1 ≤ lineRows width line :=
  Fill.le_rows_addWords width (words line) Fill.start

/-- A text that is not empty takes the rows of its lines. -/
theorem lineCount_eq_sum (width : Nat) {text : List Char} (h : text ≠ []) :
    lineCount width text = ((lines text).map (lineRows width)).sum := by
  rw [lineCount_eq, Nat.max_eq_right]
  obtain ⟨line, rest, hlines⟩ := List.exists_cons_of_ne_nil (lines_ne_nil h)
  rw [hlines, List.map_cons, List.sum_cons]
  exact Nat.le_trans (one_le_lineRows width line) (Nat.le_add_right _ _)

/-- **A text takes no more rows where they are wider, and its rows have room for it.**  The rows
of a given width hold every character that is not blank: breaking a long word goes on until the row
is not over-full, and so no row is over-full behind any word of a line. -/
theorem lineCount_antitone_and_sufficient (text : List Char) :
    (∀ w₁ w₂, 1 ≤ w₁ → w₁ ≤ w₂ → lineCount w₂ text ≤ lineCount w₁ text) ∧
    ∀ w, 1 ≤ w →
      (text.filter fun c => !isBlank c).length ≤ lineCount w text * w ∧
      (∀ f : Fill,
        f.breakLong w = (if w < f.used then Fill.breakLong w ⟨f.rows + 1, f.used - w⟩ else f) ∧
        (f.breakLong w).used ≤ w) ∧
      ∀ line ∈ lines text, ∀ front, front <+: words line → (Fill.start.addWords w front).used ≤ w := by
  refine ⟨fun w₁ w₂ hpos hw => ?_, fun w hpos => ⟨?_, fun f => ?_, fun line _ front _ => ?_⟩⟩
  · rw [lineCount_eq, lineCount_eq]
    have hsum : ((lines text).map (lineRows w₂)).sum ≤ ((lines text).map (lineRows w₁)).sum :=
      List.sum_le_sum fun line _ => lineRows_antitone hpos hw line
    omega
  · have hsum : ((lines text).flatMap fun line => line.filter fun c => !isBlank c).length ≤
        ((lines text).map (lineRows w)).sum * w := by
      induction lines text with
      | nil => exact Nat.zero_le _
      | cons line ls ih =>
          have hline := length_le_lineRows hpos line
          rw [List.flatMap_cons, List.length_append, List.map_cons, List.sum_cons, Nat.add_mul]
          omega
    rw [filter_lines] at hsum
    rw [lineCount_eq]
    exact Nat.le_trans hsum (Nat.mul_le_mul_right w (Nat.le_max_right _ _))
  · exact ⟨Fill.breakLong_eq hpos f, Fill.used_breakLong_le hpos f⟩
  · exact Fill.used_addWords_le hpos front (Fill.used_start_le w)

/-- A long word, and words that have to move: four rows of five columns, three of eight. -/
theorem lineCount_antitone_and_sufficient_moved :
    (1 ≤ 5 ∧ 5 ≤ 8) ∧
    lineCount 8 "abcdefghijk lm nopq".toList ≤ lineCount 5 "abcdefghijk lm nopq".toList ∧
    lineCount 5 "abcdefghijk lm nopq".toList = 4 ∧
    17 ≤ lineCount 5 "abcdefghijk lm nopq".toList * 5 := by
  obtain ⟨hwider, hroom⟩ := lineCount_antitone_and_sufficient "abcdefghijk lm nopq".toList
  exact ⟨by decide, hwider 5 8 (by decide) (by decide), by decide +kernel,
    (hroom 5 (by decide)).1⟩

end MacConsent.Text
