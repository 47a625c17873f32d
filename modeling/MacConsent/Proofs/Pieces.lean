import MacConsent.Text.Pieces

/-!
# MacConsent.Proofs.Pieces

Pieces of a text that is put together of two texts: the last piece of the first
and the first piece of the second become one, and all others stay
(`exists_pieces_append`).  So joined pieces that hold no separator are cut apart
again (`pieces_joinPieces`).
-/

namespace MacConsent.Text

variable {sep : Char}

theorem pieces_sep (cs : List Char) : pieces sep (sep :: cs) = [] :: pieces sep cs := by
  change (pieceStep sep sep _ _).1 :: (pieceStep sep sep _ _).2 = _
  rw [pieceStep, if_pos rfl]
  rfl

theorem pieces_cons {c : Char} {cs piece : List Char} {rest : List (List Char)} (hc : c ≠ sep)
    (h : pieces sep cs = piece :: rest) : pieces sep (c :: cs) = (c :: piece) :: rest := by
  obtain ⟨rfl, rfl⟩ := List.cons.inj h
  change (pieceStep sep c _ _).1 :: (pieceStep sep c _ _).2 = _
  rw [pieceStep, if_neg hc]
  rfl

theorem joinPieces_cons_cons (p q : List Char) (ps : List (List Char)) :
    joinPieces sep (p :: q :: ps) = p ++ sep :: joinPieces sep (q :: ps) := rfl

/-- Where two texts meet, a piece of either becomes one. -/
theorem exists_pieces_append (as : List Char) :
    ∃ init last, pieces sep as = init ++ [last] ∧
      ∀ {bs first rest}, pieces sep bs = first :: rest →
        pieces sep (as ++ bs) = init ++ (last ++ first) :: rest := by
  induction as with
  | nil => exact ⟨[], [], rfl, id⟩
  | cons c cs ih =>
      obtain ⟨init, last, hpieces, happend⟩ := ih
      by_cases hc : c = sep
      · subst hc
        refine ⟨[] :: init, last, by rw [pieces_sep, hpieces]; rfl, fun hbs => ?_⟩
        rw [List.cons_append, pieces_sep, happend hbs]
        rfl
      · cases init with
        | nil =>
            exact ⟨[], c :: last, pieces_cons hc hpieces,
              fun hbs => pieces_cons hc (happend hbs)⟩
        | cons piece init =>
            exact ⟨(c :: piece) :: init, last, pieces_cons hc hpieces,
              fun hbs => pieces_cons hc (happend hbs)⟩

/-- No piece holds a separator. -/
theorem not_mem_of_mem_pieces {cs piece : List Char} (h : piece ∈ pieces sep cs) :
    sep ∉ piece := by
  induction cs generalizing piece with
  | nil =>
      rw [List.mem_singleton.1 h]
      exact List.not_mem_nil
  | cons c cs ih =>
      by_cases hc : c = sep
      · subst hc
        rw [pieces_sep] at h
        rcases List.mem_cons.1 h with rfl | h
        · exact List.not_mem_nil
        · exact ih h
      · rw [pieces_cons hc rfl] at h
        rcases List.mem_cons.1 h with rfl | h
        · intro hsep
          rcases List.mem_cons.1 hsep with rfl | hsep
          · exact hc rfl
          · exact ih List.mem_cons_self hsep
        · exact ih (List.mem_cons_of_mem _ h)

/-- A text without separators in front of a separator is the first piece. -/
theorem pieces_append_sep {cs rest : List Char} (h : sep ∉ cs) :
    pieces sep (cs ++ sep :: rest) = cs :: pieces sep rest := by
  induction cs with
  | nil => exact pieces_sep rest
  | cons c cs ih =>
      obtain ⟨hc, hcs⟩ := not_or.1 (mt List.mem_cons.2 h)
      exact pieces_cons (Ne.symm hc) (ih hcs)

theorem pieces_of_not_mem {cs : List Char} (h : sep ∉ cs) : pieces sep cs = [cs] := by
  induction cs with
  | nil => rfl
  | cons c cs ih =>
      obtain ⟨hc, hcs⟩ := not_or.1 (mt List.mem_cons.2 h)
      exact pieces_cons (Ne.symm hc) (ih hcs)

/-- Cutting a text apart gives back what was joined. -/
theorem pieces_joinPieces {ps : List (List Char)} (hne : ps ≠ []) (h : ∀ p ∈ ps, sep ∉ p) :
    pieces sep (joinPieces sep ps) = ps := by
  induction ps with
  | nil => exact absurd rfl hne
  | cons p ps ih =>
      obtain ⟨hp, hps⟩ := List.forall_mem_cons.1 h
      cases ps with
      | nil => exact pieces_of_not_mem hp
      | cons q qs => rw [joinPieces_cons_cons, pieces_append_sep hp, ih (List.cons_ne_nil q qs) hps]

/-- A piece is no longer than what it is joined into. -/
theorem length_le_joinPieces {p : List Char} {ps : List (List Char)} (h : p ∈ ps) :
    p.length ≤ (joinPieces sep ps).length := by
  induction ps with
  | nil => cases h
  | cons q ps ih =>
      cases ps with
      | nil => exact (List.mem_singleton.1 h).symm ▸ Nat.le_refl q.length
      | cons r rs =>
          rw [joinPieces_cons_cons, List.length_append, List.length_cons]
          rcases List.mem_cons.1 h with rfl | h
          · omega
          · have := ih h
            omega

/-- All pieces but the first are shorter than the text. -/
theorem length_lt_of_mem_rest {cs first p : List Char} {rest : List (List Char)}
    (hcs : pieces sep cs = first :: rest) (h : p ∈ rest) : p.length < cs.length := by
  have hjoin := joinPieces_pieces sep cs
  rw [hcs] at hjoin
  cases rest with
  | nil => cases h
  | cons q qs =>
      rw [joinPieces_cons_cons] at hjoin
      have hle : p.length ≤ (joinPieces sep (q :: qs)).length := length_le_joinPieces h
      rw [← hjoin, List.length_append, List.length_cons]
      omega

end MacConsent.Text
