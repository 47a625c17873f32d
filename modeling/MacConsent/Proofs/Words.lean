import MacConsent.Proofs.Pieces
import MacConsent.Text.Blank
import MacConsent.Text.Lines

/-!
# MacConsent.Proofs.Words

The words and the lines of a text.

1. A blank divides: the words on its two sides are the words of the text
   (`words_append_blank`); a run without blanks is one word (`words_of_not_blank`).
2. The words hold all that is not blank (`flatten_words`), and so do the lines,
   which lose line ends only (`filter_lines`).
3. A text that lines were joined into has no other lines (`mem_of_mem_lines`), and a
   text that is not empty has a line (`lines_ne_nil`).
-/

namespace MacConsent.Text

/-! ## words -/

/-- The first, perhaps empty, word of a text and the others. -/
def firstWord (cs : List Char) : List Char × List (List Char) :=
  cs.foldr (fun c s => wordStep c s.1 s.2) ([], [])

theorem words_eq (cs : List Char) :
    words cs =
      if (firstWord cs).1.isEmpty then (firstWord cs).2
      else (firstWord cs).1 :: (firstWord cs).2 := rfl

theorem firstWord_cons (c : Char) (cs : List Char) :
    firstWord (c :: cs) =
      if isBlank c then ([], words cs) else (c :: (firstWord cs).1, (firstWord cs).2) := by
  have hstep : firstWord (c :: cs) = wordStep c (firstWord cs).1 (firstWord cs).2 := rfl
  rw [hstep, wordStep, words_eq]

/-- Behind a blank the words begin anew, whatever stands before it. -/
theorem firstWord_append_blank {b : Char} (hb : isBlank b = true) (x y : List Char) :
    firstWord (x ++ b :: y) = ((firstWord x).1, (firstWord x).2 ++ words y) := by
  induction x with
  | nil =>
      rw [List.nil_append, firstWord_cons, if_pos hb]
      rfl
  | cons c x ih =>
      rw [List.cons_append, firstWord_cons, firstWord_cons, ih, words_eq (x ++ b :: y), ih, words_eq x]
      cases isBlank c <;> cases (firstWord x).1 <;> simp

/-- **A blank divides a text**: its words are those on the two sides. -/
theorem words_append_blank {b : Char} (hb : isBlank b = true) (x y : List Char) :
    words (x ++ b :: y) = words x ++ words y := by
  rw [words_eq, firstWord_append_blank hb, words_eq x]
  cases (firstWord x).1 <;> simp

/-- A run without blanks is one word. -/
theorem words_of_not_blank {w : List Char} (hne : w ≠ []) (h : ∀ c ∈ w, isBlank c = false) :
    words w = [w] := by
  have hfirst : firstWord w = (w, []) := by
    clear hne
    induction w with
    | nil => rfl
    | cons c w ih =>
        obtain ⟨hc, hw⟩ := List.forall_mem_cons.1 h
        rw [firstWord_cons, hc, ih hw]
        rfl
  rw [words_eq, hfirst]
  simp [hne]

/-- **The words of a text hold all that is not blank.** -/
theorem flatten_words (cs : List Char) :
    (words cs).flatten = cs.filter fun c => !isBlank c := by
  have hclose (cs : List Char) : (words cs).flatten = (firstWord cs).1 ++ (firstWord cs).2.flatten := by
    rw [words_eq]
    cases (firstWord cs).1 <;> simp
  induction cs with
  | nil => rfl
  | cons c cs ih =>
      rw [hclose, firstWord_cons]
      cases hc : isBlank c with
      | true => simp [hc, ih]
      | false => simp [hc, ← ih, hclose]

/-! ## lines -/

theorem filter_dropReturn (line : List Char) :
    ((dropReturn line).filter fun c => !isBlank c) = line.filter fun c => !isBlank c := by
  rw [dropReturn]
  split
  · next hlast =>
      obtain ⟨front, rfl⟩ := List.getLast?_eq_some_iff.1 hlast
      rw [List.dropLast_concat, List.filter_append]
      simp [isBlank]
  · rfl

theorem filter_joinPieces {sep : Char} (hsep : isBlank sep = true) (ps : List (List Char)) :
    ((joinPieces sep ps).filter fun c => !isBlank c) =
      ps.flatMap fun p => p.filter fun c => !isBlank c := by
  induction ps with
  | nil => rfl
  | cons p ps ih =>
      cases ps with
      | nil => simp [joinPieces]
      | cons q qs => rw [joinPieces_cons_cons, List.filter_append]; simp [hsep, ih]

/-- **Cutting a text into lines loses blanks only.** -/
theorem filter_lines (cs : List Char) :
    ((lines cs).flatMap fun line => line.filter fun c => !isBlank c) =
      cs.filter fun c => !isBlank c := by
  have hne : pieces '\n' cs ≠ [] := List.cons_ne_nil _ _
  have hlast : (pieces '\n' cs).dropLast ++ [(pieces '\n' cs).getLast hne] = pieces '\n' cs :=
    List.dropLast_concat_getLast hne
  have hpieces : ((pieces '\n' cs).flatMap fun p => p.filter fun c => !isBlank c) =
      cs.filter fun c => !isBlank c := by
    have hfeed : isBlank '\n' = true := rfl
    rw [← filter_joinPieces hfeed, joinPieces_pieces]
  rw [← hpieces, ← hlast, lines, List.flatMap_append, List.flatMap_append, List.flatMap_map]
  simp only [filter_dropReturn]
  congr 1
  split
  · next hempty => simp [List.isEmpty_iff.1 hempty]
  · rfl

theorem dropReturn_of_not_mem {line : List Char} (h : '\r' ∉ line) : dropReturn line = line :=
  if_neg fun hlast => h (List.mem_of_getLast? hlast)

theorem mem_lines {cs line : List Char} (h : line ∈ lines cs) :
    line ∈ pieces '\n' cs ∨ ∃ piece ∈ pieces '\n' cs, line = dropReturn piece := by
  rw [lines, List.mem_append] at h
  rcases h with h | h
  · obtain ⟨piece, hpiece, rfl⟩ := List.mem_map.1 h
    exact .inr ⟨piece, (List.dropLast_sublist _).subset hpiece, rfl⟩
  · split at h
    · cases h
    · rw [List.mem_singleton.1 h]
      exact .inl (List.getLast_mem _)

/-- Lines hold no line feed. -/
theorem feed_not_mem_of_mem_lines {cs line : List Char} (h : line ∈ lines cs) : '\n' ∉ line := by
  rcases mem_lines h with hpiece | ⟨piece, hpiece, rfl⟩
  · exact not_mem_of_mem_pieces hpiece
  · intro hmem
    refine not_mem_of_mem_pieces hpiece ?_
    unfold dropReturn at hmem
    split at hmem
    · exact (List.dropLast_sublist _).subset hmem
    · exact hmem

/-- A text that lines were joined into has no other lines. -/
theorem mem_of_mem_lines {ls : List (List Char)} (h : ∀ line ∈ ls, '\n' ∉ line ∧ '\r' ∉ line)
    {line : List Char} (hline : line ∈ lines (joinPieces '\n' ls)) : line ∈ ls := by
  cases ls with
  | nil => cases hline
  | cons first rest =>
      have hpieces : pieces '\n' (joinPieces '\n' (first :: rest)) = first :: rest :=
        pieces_joinPieces (List.cons_ne_nil _ _) fun l hl => (h l hl).1
      rcases mem_lines hline with hpiece | ⟨piece, hpiece, rfl⟩
      · exact hpieces ▸ hpiece
      · rw [hpieces] at hpiece
        rwa [dropReturn_of_not_mem (h piece hpiece).2]

/-- A text that is not empty has a line. -/
theorem lines_ne_nil {cs : List Char} (h : cs ≠ []) : lines cs ≠ [] := by
  intro hnil
  have hne : pieces '\n' cs ≠ [] := List.cons_ne_nil _ _
  rw [lines, List.append_eq_nil_iff] at hnil
  obtain ⟨hfront, hlast⟩ := hnil
  rw [List.map_eq_nil_iff] at hfront
  split at hlast
  · next hempty =>
      have hone := List.dropLast_concat_getLast hne
      rw [hfront, List.isEmpty_iff.1 hempty] at hone
      have hjoin := joinPieces_pieces '\n' cs
      rw [← hone] at hjoin
      exact h hjoin.symm
  · cases hlast

end MacConsent.Text
