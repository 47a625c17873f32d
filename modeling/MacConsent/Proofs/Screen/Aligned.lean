import MacConsent.Proofs.Screen.Drawn
import MacConsent.Proofs.Screen.Plain

/-!
# MacConsent.Proofs.Screen.Aligned

A row of narrow text in an area: the buttons of a dialog, and its line of help.

1. A text is `Thin` if each of its characters is a glyph of one column.  Its glyphs
   are its characters (`Span.glyphs_of_thin`), so a room holds as many of them as it
   has columns (`fitRow_of_thin`).
2. Each of these characters is drawn in a column of its own, from `startOf` on
   (`markAt_drawAligned`), and no other column is drawn (`markAt_drawAligned_beside`).
-/

namespace MacConsent.Screen

/-! ## thin text -/

/-- Each character of a text is a glyph of one column. -/
structure Thin (cs : List Char) : Prop where
  clusters : Text.clusters cs = cs.map fun c => [c]
  noFeed : '\n' ∉ cs
  width : ∀ c ∈ cs, Text.displayWidth [c] = 1

instance (cs : List Char) : Decidable (Thin cs) :=
  decidable_of_iff
    ((Text.clusters cs == cs.map (fun c => [c]) && !cs.contains '\n' &&
      cs.all fun c => Text.displayWidth [c] == 1) = true) <| by
      simp only [Bool.and_eq_true, beq_iff_eq, Bool.not_eq_true', List.contains_eq_mem,
        decide_eq_false_iff_not, List.all_eq_true]
      exact ⟨fun h => ⟨h.1.1, h.1.2, h.2⟩, fun h => ⟨⟨h.clusters, h.noFeed⟩, h.width⟩⟩

/-- Printable text is thin. -/
theorem thin_of_printable {cs : List Char} (h : ∀ c ∈ cs, Text.IsPrintable c) : Thin cs where
  clusters := Text.clusters_of_printable h
  noFeed := fun hfeed => absurd (h _ hfeed) (by decide)
  width := fun c hc => Text.displayWidth_of_latin (Nat.le_of_lt (Nat.lt_trans (h c hc).2 (by decide)))

/-- A thin text has one glyph for each character. -/
theorem Span.glyphs_of_thin {s : Span} (h : Thin s.text) :
    s.glyphs = s.text.map fun c => ⟨[c], s.style⟩ := by
  have hall : (s.text.map fun c => [c]).filter (· != ['\n']) = s.text.map fun c => [c] := by
    rw [List.filter_eq_self]
    intro symbol hsymbol
    obtain ⟨c, hc, rfl⟩ := List.mem_map.1 hsymbol
    have hne : c ≠ '\n' := fun hfeed => h.noFeed (hfeed ▸ hc)
    simpa using hne
  rw [Span.glyphs, h.clusters, hall, List.map_map]
  rfl

/-- The text of spans. -/
def textOf (spans : List Span) : List Char := spans.flatMap Span.text

/-- The glyphs of spans. -/
def glyphsOf (spans : List Span) : List Glyph := spans.flatMap Span.glyphs

section

variable {spans : List Span} (h : ∀ s ∈ spans, Thin s.text)
include h

/-- Thin spans show their text, character by character. -/
theorem symbol_glyphsOf : (glyphsOf spans).map Glyph.symbol = (textOf spans).map fun c => [c] := by
  induction spans with
  | nil => rfl
  | cons s spans ih =>
      obtain ⟨hs, hspans⟩ := List.forall_mem_cons.1 h
      simp only [glyphsOf, textOf, List.flatMap_cons, List.map_append] at ih ⊢
      rw [ih hspans, Span.glyphs_of_thin hs, List.map_map]
      rfl

theorem width_of_mem_glyphsOf {g : Glyph} (hg : g ∈ glyphsOf spans) : g.width = 1 := by
  obtain ⟨s, hs, hmem⟩ := List.mem_flatMap.1 hg
  rw [Span.glyphs_of_thin (h s hs)] at hmem
  obtain ⟨c, hc, rfl⟩ := List.mem_map.1 hmem
  exact (h s hs).width c hc

/-- Thin spans have as many glyphs as characters. -/
theorem length_glyphsOf : (glyphsOf spans).length = (textOf spans).length := by
  simpa using congrArg List.length (symbol_glyphsOf h)

theorem symbol_of_getElem? {i : Nat} {g : Glyph} (hg : (glyphsOf spans)[i]? = some g) :
    ∃ c, (textOf spans)[i]? = some c ∧ g.symbol = [c] := by
  have hsymbol := congrArg (·[i]?) (symbol_glyphsOf h)
  simp only [List.getElem?_map, hg, Option.map_some] at hsymbol
  obtain ⟨c, hc, hsame⟩ := Option.map_eq_some_iff.1 hsymbol.symm
  exact ⟨c, hc, hsame.symm⟩

end

/-! ## a row of glyphs of one column -/

variable {gs : List Glyph} {room : Nat}

theorem advance_of_width_one {g : Glyph} (h : g.width = 1) : g.advance = 1 := by
  rw [Glyph.advance, h]
  rfl

/-- Glyphs of one column take as many columns as there are glyphs. -/
theorem extent_of_width_one (h : ∀ g ∈ gs, g.width = 1) : extent gs = gs.length := by
  induction gs with
  | nil => rfl
  | cons g gs ih => grind [extent_cons, advance_of_width_one]

/-- As many glyphs fit as there are columns. -/
theorem fitRow_of_thin (h : ∀ g ∈ gs, g.width = 1) (row : List Glyph) {used : Nat}
    (hused : used ≤ room) :
    fitRow room row used gs =
      (row.reverse ++ gs.take (room - used), min room (used + gs.length)) := by
  induction gs generalizing row used with
  | nil => simp [fitRow, hused]
  | cons g gs ih =>
      obtain ⟨hg, hgs⟩ := List.forall_mem_cons.1 h
      rw [fitRow, advance_of_width_one hg]
      split
      · rw [ih hgs row hused]
        have hzero : room - used = 0 := by omega
        simp [hzero]
        omega
      · split
        · have hzero : room - used = 0 := by omega
          simp [hzero]
          omega
        · rw [ih hgs (g :: row) (by omega)]
          have hmore : room - used = room - (used + 1) + 1 := by omega
          simp [hmore]
          omega

/-! ## drawing it -/

/-- A list cut at a position. -/
theorem exists_split_of_getElem? {α : Type} {l : List α} {i : Nat} {a : α} (h : l[i]? = some a) :
    ∃ before after, l = before ++ a :: after ∧ before.length = i := by
  obtain ⟨hi, rfl⟩ := List.getElem?_eq_some_iff.1 h
  refine ⟨l.take i, l.drop (i + 1), ?_, List.length_take_of_le (Nat.le_of_lt hi)⟩
  rw [← List.drop_eq_getElem_cons hi, List.take_append_drop]

/-- The first column of a row of spans in an area. -/
def startOf (a : Alignment) (area : Area) (spans : List Span) : Nat :=
  area.x + a.offset area.width (min area.width (textOf spans).length)

section

variable {a : Alignment} {area : Area} {spans : List Span} (h : ∀ s ∈ spans, Thin s.text)
include h

/-- A thin row is drawn from its start, as far as its area goes. -/
theorem drawAligned_of_thin (harea : area.isEmpty = false) :
    drawAligned a area spans =
      drawRow area.y [] (startOf a area spans) ((glyphsOf spans).take area.width) := by
  rw [drawAligned, harea, ← glyphsOf, fitRow_of_thin (fun g => width_of_mem_glyphsOf h) []
    (Nat.zero_le area.width), startOf, length_glyphsOf h]
  simp

/-- **Each character has a column.** -/
theorem markAt_drawAligned (harea : area.isEmpty = false) {i : Nat} (hi : i < area.width)
    {g : Glyph} (hg : (glyphsOf spans)[i]? = some g) (c : Cell) :
    markAt (startOf a area spans + i) area.y c (drawAligned a area spans) =
      c.mark (.set g.symbol g.style) := by
  have hwidth : ∀ g ∈ (glyphsOf spans).take area.width, g.width = 1 := fun g hg =>
    width_of_mem_glyphsOf h (List.mem_of_mem_take hg)
  have htaken : ((glyphsOf spans).take area.width)[i]? = some g := by
    rw [List.getElem?_take_of_lt hi, hg]
  rw [drawAligned_of_thin h harea]
  obtain ⟨before, after, hsplit, hlength⟩ := exists_split_of_getElem? htaken
  rw [hsplit] at hwidth ⊢
  have hstart : extent before = i :=
    (extent_of_width_one fun g hg => hwidth g (List.mem_append_left _ hg)).trans hlength
  rw [← hstart]
  refine markAt_drawRow (fun g hg => ?_) ?_ c
  · rw [hwidth g hg]
    decide
  · rw [hwidth g (by simp)]
    decide

/-- Its strokes stay in the columns of the text. -/
theorem columns_of_mem_drawAligned {s : Stroke} (hs : s ∈ drawAligned a area spans) :
    startOf a area spans ≤ s.x ∧
      s.x < startOf a area spans + min area.width (textOf spans).length := by
  cases harea : area.isEmpty with
  | true => simp [drawAligned, harea] at hs
  | false =>
      rw [drawAligned_of_thin h harea] at hs
      obtain ⟨_, hle, g, hg, _, _, hend⟩ := mem_drawRow hs
      rw [extent_of_width_one fun g hg => width_of_mem_glyphsOf h (List.mem_of_mem_take hg),
        advance_of_width_one (width_of_mem_glyphsOf h (List.mem_of_mem_take hg)),
        List.length_take, length_glyphsOf h] at hend
      omega

/-- Other columns are not drawn. -/
theorem markAt_drawAligned_beside {x : Nat}
    (hx : x < startOf a area spans ∨
      startOf a area spans + min area.width (textOf spans).length ≤ x) (y : Nat) (c : Cell) :
    markAt x y c (drawAligned a area spans) = c := by
  refine markAt_of_elsewhere ?_ c
  rintro s hs ⟨rfl, rfl⟩
  have := columns_of_mem_drawAligned h hs
  omega

/-- A column of the row holds a character, or what it held before. -/
theorem markAt_drawAligned_cases (harea : area.isEmpty = false) (x : Nat) (c : Cell) :
    (∃ i g, x = startOf a area spans + i ∧ i < area.width ∧ (glyphsOf spans)[i]? = some g ∧
      markAt x area.y c (drawAligned a area spans) = c.mark (.set g.symbol g.style)) ∨
      markAt x area.y c (drawAligned a area spans) = c := by
  by_cases hx : x < startOf a area spans ∨
      startOf a area spans + min area.width (textOf spans).length ≤ x
  · exact .inr (markAt_drawAligned_beside h hx area.y c)
  · obtain ⟨i, rfl⟩ : ∃ i, x = startOf a area spans + i := ⟨x - startOf a area spans, by omega⟩
    have hlength := length_glyphsOf h
    have hi : i < area.width := by omega
    have hlt : i < (glyphsOf spans).length := by omega
    exact .inl ⟨i, _, rfl, hi, List.getElem?_eq_getElem hlt,
      markAt_drawAligned h harea hi (List.getElem?_eq_getElem hlt) c⟩

/-- The symbols of a row are the characters of its text. -/
theorem symbol_markAt_drawAligned (harea : area.isEmpty = false) (x : Nat) (c : Cell) :
    (markAt x area.y c (drawAligned a area spans)).symbol =
      if startOf a area spans ≤ x ∧ x < startOf a area spans + area.width then
        ((textOf spans)[x - startOf a area spans]?.map fun ch => [ch]).getD c.symbol
      else c.symbol := by
  by_cases hx : x < startOf a area spans ∨
      startOf a area spans + min area.width (textOf spans).length ≤ x
  · rw [markAt_drawAligned_beside h hx]
    split
    · have hnone : (textOf spans)[x - startOf a area spans]? = none :=
        List.getElem?_eq_none (by omega)
      rw [hnone]
      rfl
    · rfl
  · obtain ⟨i, rfl⟩ : ∃ i, x = startOf a area spans + i := ⟨x - startOf a area spans, by omega⟩
    have hlength := length_glyphsOf h
    have hlt : i < (glyphsOf spans).length := by omega
    obtain ⟨ch, hch, hsymbol⟩ := symbol_of_getElem? h (List.getElem?_eq_getElem hlt)
    rw [markAt_drawAligned h harea (by omega) (List.getElem?_eq_getElem hlt), if_pos (by omega),
      Nat.add_sub_cancel_left, hch]
    exact hsymbol

end

/-- A row stands between the columns of its area. -/
theorem startOf_bounds (a : Alignment) (area : Area) (spans : List Span) :
    area.x ≤ startOf a area spans ∧
      startOf a area spans + min area.width (textOf spans).length ≤ area.right := by
  cases a <;> simp only [startOf, Alignment.offset, Area.right] <;> omega

end MacConsent.Screen
