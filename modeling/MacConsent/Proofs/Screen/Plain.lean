import MacConsent.Proofs.Printable
import MacConsent.Proofs.Screen.Rows

/-!
# MacConsent.Proofs.Screen.Plain

Plain text on a screen: lines of printable words, one blank between two of them.
Each character is a glyph of one column (`glyphs_of_printable`), so that a line is
narrow (`narrow_plainLine`), and the rows that were counted for a text are the rows
that it is wrapped into (`lineCount_eq_length_wrapText`).
-/

namespace MacConsent.Screen

/-! ## the glyphs of a line -/

/-- The glyphs of a line hold all of it. -/
theorem flatMap_symbol_glyphs {line : List Char} (h : '\n' ∉ line) (style : Style) :
    (Span.mk line style).glyphs.flatMap Glyph.symbol = line := by
  have hall : (Text.clusters line).filter (· != ['\n']) = Text.clusters line := by
    rw [List.filter_eq_self]
    intro symbol hsymbol
    refine bne_iff_ne.2 fun hfeed => h ?_
    rw [← Text.flatten_clusters line]
    exact List.mem_flatten.2 ⟨symbol, hsymbol, hfeed ▸ List.mem_singleton_self _⟩
  rw [Span.glyphs, hall, List.flatMap_map]
  exact List.flatten_eq_flatMap.symm.trans (Text.flatten_clusters line)

/-- Each printable character is a glyph. -/
theorem glyphs_of_printable {line : List Char} (h : ∀ c ∈ line, Text.IsPrintable c) (style : Style) :
    (Span.mk line style).glyphs = line.map fun c => ⟨[c], style⟩ := by
  have hall : (line.map fun c => [c]).filter (· != ['\n']) = line.map fun c => [c] := by
    rw [List.filter_eq_self]
    intro symbol hsymbol
    obtain ⟨c, hc, rfl⟩ := List.mem_map.1 hsymbol
    refine bne_iff_ne.2 fun hfeed => ?_
    rw [(List.cons.inj hfeed).1] at hc
    exact absurd (h _ hc) (by decide)
  rw [Span.glyphs, Text.clusters_of_printable h, hall, List.map_map]
  rfl

/-- A printable character takes one column. -/
theorem advance_of_printable {c : Char} (h : Text.IsPrintable c) (style : Style) :
    (Glyph.mk [c] style).advance = 1 := by
  have hlatin : c.toNat ≤ 0xA0 := Nat.le_of_lt (Nat.lt_trans h.2 (by decide))
  rw [Glyph.advance, Glyph.width, Text.displayWidth_of_latin hlatin]
  rfl

/-! ## plain text -/

/-- Lines of words, one blank between two words. -/
def plainText (ls : List (List (List Char))) : List Char :=
  Text.joinPieces '\n' (ls.map (Text.joinPieces ' '))

/-- A word of printable characters. -/
structure PlainWord (word : List Char) : Prop where
  ne_nil : word ≠ []
  printable : ∀ c ∈ word, 0x21 ≤ c.toNat ∧ c.toNat ≤ 0x7E

instance (word : List Char) : Decidable (PlainWord word) :=
  decidable_of_iff
    ((!word.isEmpty && word.all fun c => 0x21 ≤ c.toNat && c.toNat ≤ 0x7E) = true) <| by
      simp only [Bool.and_eq_true, List.all_eq_true, decide_eq_true_eq, Bool.not_eq_true',
        List.isEmpty_eq_false_iff]
      exact ⟨fun h => ⟨h.1, h.2⟩, fun h => ⟨h.1, h.2⟩⟩

theorem isBlank_eq_false {c : Char} (h : 0x21 ≤ c.toNat ∧ c.toNat ≤ 0x7E) :
    Text.isBlank c = false := by
  simp [Text.isBlank]
  omega

/-- A visible character is no blank glyph. -/
theorem glyph_isBlank_eq_false {c : Char} (h : 0x21 ≤ c.toNat ∧ c.toNat ≤ 0x7E) (style : Style) :
    (Glyph.mk [c] style).isBlank = false := by
  have hmark : c ≠ '\u200b' := by
    rintro rfl
    exact absurd h.2 (by decide)
  simp [Glyph.isBlank, isBlank_eq_false h, hmark]

/-- A word does not count as spacing. -/
theorem spaced_append {word : List Glyph} (hne : word ≠ []) (hword : ∀ g ∈ word, g.isBlank = false)
    {gs : List Glyph} (behindWord : Bool) : Spaced behindWord (word ++ gs) ↔ Spaced true gs := by
  induction word generalizing behindWord with
  | nil => exact absurd rfl hne
  | cons g word ih =>
      obtain ⟨hg, hword⟩ := List.forall_mem_cons.1 hword
      rw [List.cons_append, Spaced, if_neg (by simp [hg])]
      rcases List.eq_nil_or_concat word with rfl | ⟨_, _, rfl⟩
      · rfl
      · exact ih (by simp) hword true

section

variable {ws : List (List Char)} (h : ∀ word ∈ ws, PlainWord word)
include h

/-- A plain line is made of words and single spaces. -/
theorem mem_plainLine {c : Char} (hc : c ∈ Text.joinPieces ' ' ws) :
    c = ' ' ∨ 0x21 ≤ c.toNat ∧ c.toNat ≤ 0x7E := by
  induction ws with
  | nil => cases hc
  | cons word ws ih =>
      obtain ⟨hword, hws⟩ := List.forall_mem_cons.1 h
      cases ws with
      | nil => exact .inr (hword.printable c hc)
      | cons next rest =>
          rw [Text.joinPieces_cons_cons, List.mem_append, List.mem_cons] at hc
          rcases hc with hc | rfl | hc
          · exact .inr (hword.printable c hc)
          · exact .inl rfl
          · exact ih hws hc

theorem printable_plainLine : ∀ c ∈ Text.joinPieces ' ' ws, Text.IsPrintable c := by
  intro c hc
  rcases mem_plainLine h hc with rfl | hc
  · decide
  · exact ⟨by omega, by omega⟩

/-- Between two words of a plain line stands one space. -/
theorem spaced_plainLine (style : Style) :
    Spaced false ((Text.joinPieces ' ' ws).map fun c => ⟨[c], style⟩) := by
  induction ws with
  | nil => trivial
  | cons word ws ih =>
      obtain ⟨hword, hws⟩ := List.forall_mem_cons.1 h
      have hne : word.map (fun c => Glyph.mk [c] style) ≠ [] := by
        simpa using hword.ne_nil
      have hclear : ∀ g ∈ word.map (fun c => Glyph.mk [c] style), g.isBlank = false := by
        intro g hg
        obtain ⟨c, hc, rfl⟩ := List.mem_map.1 hg
        exact glyph_isBlank_eq_false (hword.printable c hc) style
      cases ws with
      | nil =>
          rw [Text.joinPieces, ← List.append_nil (word.map _), spaced_append hne hclear]
          trivial
      | cons next rest =>
          rw [Text.joinPieces_cons_cons, List.map_append, spaced_append hne hclear, List.map_cons,
            Spaced, if_pos (by rfl)]
          exact ⟨rfl, ih hws⟩

/-- A line of plain words is narrow. -/
theorem narrow_plainLine (style : Style) :
    Narrow ((Text.joinPieces ' ' ws).map fun c => ⟨[c], style⟩) where
  clear := by
    intro g hg
    obtain ⟨c, hc, rfl⟩ := List.mem_map.1 hg
    rcases mem_plainLine h hc with rfl | hc
    · exact .inl ⟨rfl, ' ', rfl, rfl⟩
    · refine .inr ⟨glyph_isBlank_eq_false hc style, List.cons_ne_nil c [], ?_⟩
      exact List.forall_mem_singleton.2 (isBlank_eq_false hc)
  advance := by
    intro g hg
    obtain ⟨c, hc, rfl⟩ := List.mem_map.1 hg
    exact advance_of_printable (printable_plainLine h c hc) style
  spaced := spaced_plainLine h style

/-- **A plain line is drawn in as many rows as are counted for it.** -/
theorem length_wrapLine_plainLine {width : Nat} (hwidth : 1 ≤ width) (style : Style) :
    (wrapLine width (Span.mk (Text.joinPieces ' ' ws) style).glyphs).length =
      Text.lineRows width (Text.joinPieces ' ' ws) := by
  have hprintable := printable_plainLine h
  have hfeed : '\n' ∉ Text.joinPieces ' ' ws := fun hfeed =>
    absurd (hprintable _ hfeed) (by decide)
  have hflat := flatMap_symbol_glyphs hfeed style
  rw [glyphs_of_printable hprintable] at hflat ⊢
  rw [(narrow_plainLine h style).length_wrapLine_eq hwidth, hflat]
  intro g hg
  obtain ⟨c, _, rfl⟩ := List.mem_map.1 hg
  rfl

end

/-- **On plain text the rows counted are the rows drawn.**  Words of any length stand one blank
apart in lines that may be empty, and an empty text is one row. -/
theorem lineCount_eq_length_wrapText {width : Nat} (hwidth : 1 ≤ width)
    {ls : List (List (List Char))} (h : ∀ line ∈ ls, ∀ word ∈ line, PlainWord word)
    (style : Style) :
    Text.lineCount width (plainText ls) = (wrapText width (plainText ls) style).length ∧
      (plainText ls = [] → Text.lineCount width (plainText ls) = 1) := by
  have hempty : Text.lineCount width [] = 1 := rfl
  refine ⟨?_, fun hnil => hnil ▸ hempty⟩
  by_cases hnil : plainText ls = []
  · rw [hnil, hempty]
    rfl
  · have hlines : ∀ line ∈ Text.lines (plainText ls),
        (wrapLine width (Span.mk line style).glyphs).length = Text.lineRows width line := by
      intro line hline
      have hfeeds : ∀ line ∈ ls.map (Text.joinPieces ' '), '\n' ∉ line ∧ '\r' ∉ line := by
        intro line hline
        obtain ⟨ws, hws, rfl⟩ := List.mem_map.1 hline
        have hprintable := printable_plainLine (h ws hws)
        exact ⟨fun hmem => absurd (hprintable _ hmem) (by decide),
          fun hmem => absurd (hprintable _ hmem) (by decide)⟩
      obtain ⟨ws, hws, rfl⟩ := List.mem_map.1 (Text.mem_of_mem_lines hfeeds hline)
      exact length_wrapLine_plainLine (h ws hws) hwidth style
    rw [Text.lineCount_eq_sum width hnil, wrapText, if_neg (by simpa using hnil),
      List.length_flatMap, List.map_congr_left hlines]

/-- A word of two full rows, words that have to move, an empty line and a word of one full row. -/
theorem lineCount_eq_length_wrapText_moved :
    let ls := [["abcdefghij".toList, "kl".toList, "mnop".toList], [], ["abcde".toList, "f".toList]]
    (1 ≤ 5 ∧ ∀ line ∈ ls, ∀ word ∈ line, PlainWord word) ∧
      Text.lineCount 5 (plainText ls) = 7 ∧ (wrapText 5 (plainText ls) {}).length = 7 := by
  intro ls
  have hwidth : 1 ≤ 5 := by decide
  have hwords : ∀ line ∈ ls, ∀ word ∈ line, PlainWord word := by decide
  have hcount : Text.lineCount 5 (plainText ls) = 7 := by decide +kernel
  have hboth := (lineCount_eq_length_wrapText hwidth hwords {}).1
  exact ⟨⟨hwidth, hwords⟩, hcount, hboth ▸ hcount⟩

end MacConsent.Screen
