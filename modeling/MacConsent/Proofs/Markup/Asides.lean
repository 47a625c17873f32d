import MacConsent.Proofs.Markup.Tags

/-!
# MacConsent.Proofs.Markup.Asides

The parts of a document that carry no data: comments, character-data sections,
instructions and empty elements.  Each of them is one token that is ignored,
whatever stands behind it (`cut_aside`), as long as its closing mark does not
stand in it before.
-/

namespace MacConsent.Markup

/-- A part of a document that carries no data. -/
inductive Aside
  | comment (body : List Char)
  | characterData (body : List Char)
  | instruction (body : List Char)
  | emptyElement (name : String) (attributes : List Char)

namespace Aside

/-- How it is written. -/
def spell : Aside → List Char
  | .comment body => ['<', '!', '-', '-'] ++ body ++ ['-', '-', '>']
  | .characterData body =>
    ['<', '!', '[', 'C', 'D', 'A', 'T', 'A', '['] ++ body ++ [']', ']', '>']
  | .instruction body => ['<', '?'] ++ body ++ ['?', '>']
  | .emptyElement name attributes => '<' :: (name.toList ++ attributes ++ ['/', '>'])

/-- It does not end before its end. -/
def Spelled : Aside → Prop
  | .comment body => ¬ ['-', '-', '>'] <:+: body
  | .characterData body => ¬ [']', ']', '>'] <:+: body
  | .instruction body => ¬ ['?', '>'] <:+: '?' :: body
  | .emptyElement name attributes => IsName name ∧ IsAttributes attributes

end Aside

namespace Token

/-! ## closing marks -/

/-- A part ends at the first closing bracket that what stands before it lets close. -/
theorem closeAfter_of_first {closes : List Char → Bool} {cs before rest : List Char}
    (hlast : closes (cs.reverse ++ before) = true)
    (hfirst : ∀ as bs, cs = as ++ '>' :: bs → closes (as.reverse ++ before) = false) :
    closeAfter closes before (cs ++ '>' :: rest) = some (cs.reverse ++ before, rest) := by
  induction cs generalizing before with
  | nil =>
      rw [List.nil_append, closeAfter, if_pos ⟨rfl, hlast⟩]
      rfl
  | cons c cs ih =>
      have hc : ¬ (c = '>' ∧ closes before = true) := by
        rintro ⟨rfl, hcloses⟩
        have hopen := hfirst [] cs rfl
        rw [List.reverse_nil, List.nil_append, hcloses] at hopen
        cases hopen
      have htail := @ih (c :: before) (by simpa using hlast)
        fun as bs hcs => by simpa using hfirst (c :: as) bs (by rw [hcs]; rfl)
      rw [List.cons_append, closeAfter, if_neg hc, htail]
      simp

/-- A character that is not in the first part of a text stands behind it. -/
theorem length_le_of_not_mem {opening tail front back : List Char} {c : Char}
    (h : opening ++ tail = front ++ c :: back) (hc : c ∉ opening) :
    opening.length ≤ front.length := by
  rcases List.append_eq_append_iff.1 h with ⟨more, rfl, -⟩ | ⟨more, rfl, hmore⟩
  · rw [List.length_append]
    omega
  · cases more with
    | nil => simp
    | cons d more =>
        obtain ⟨rfl, -⟩ := List.cons.inj hmore
        simp at hc

/-- A mark with a closing bracket that stands in a part, behind its opening, but not at the end,
stands in the body of the part. -/
theorem infix_of_split {opening body mark front back : List Char}
    (h : opening ++ (body ++ mark) = front ++ (mark ++ '>' :: back))
    (hfront : opening.length ≤ front.length) (hmark : '>' ∉ mark) : mark ++ ['>'] <:+: body := by
  have hbody : ∃ front', body ++ mark = front' ++ (mark ++ '>' :: back) := by
    rcases List.append_eq_append_iff.1 h with ⟨more, rfl, hmore⟩ | ⟨more, rfl, hmore⟩
    · exact ⟨more, hmore⟩
    · have hnil : more = [] := by
        rw [List.length_append] at hfront
        exact List.length_eq_zero_iff.1 (by omega)
      exact ⟨[], by rw [hmore, hnil]; rfl⟩
  obtain ⟨front', hbody⟩ := hbody
  have hsplit : body ++ mark = front' ++ (mark ++ ['>']) ++ back := by
    rw [hbody]
    simp
  rcases List.append_eq_append_iff.1 hsplit with ⟨more, hinfix, hrest⟩ | ⟨more, rfl, -⟩
  · rcases List.eq_nil_or_concat more with rfl | ⟨more, d, rfl⟩
    · rw [List.append_nil] at hinfix
      exact ⟨front', [], by rw [List.append_nil, hinfix]⟩
    · -- the closing bracket would be in the mark at the end
      rw [List.concat_eq_append, ← List.append_assoc, ← List.append_assoc] at hinfix
      obtain ⟨-, hd⟩ := List.append_inj' hinfix rfl
      cases hd
      exact absurd (hrest ▸ by simp) hmark
  · exact ⟨front', more, rfl⟩

/-- What a closing mark is found in front of ends in the mark. -/
theorem exists_front_of_mark {mark as : List Char} (h : mark.isPrefixOf as.reverse = true) :
    ∃ front, as = front ++ mark.reverse := by
  obtain ⟨tail, htail⟩ := List.isPrefixOf_iff_prefix.1 h
  refine ⟨tail.reverse, ?_⟩
  rw [← List.reverse_append, htail, List.reverse_reverse]

/-! ## parts without data -/

theorem cut_comment {body : List Char} (h : ¬ ['-', '-', '>'] <:+: body) (rest : List Char) :
    cut '<' (['!', '-', '-'] ++ (body ++ ['-', '-']) ++ '>' :: rest) = .ok (.ignored, rest) := by
  have hclose : closeAfter closesComment [] (['!', '-', '-'] ++ (body ++ ['-', '-']) ++ '>' :: rest) =
      some ((['!', '-', '-'] ++ (body ++ ['-', '-'])).reverse ++ [], rest) := by
    refine closeAfter_of_first (by simp [closesComment]) fun as bs hsplit => ?_
    rw [List.append_nil, ← Bool.not_eq_true, closesComment, Bool.and_eq_true, decide_eq_true_eq,
      List.length_reverse]
    rintro ⟨hlong, hmark⟩
    obtain ⟨front, rfl⟩ := exists_front_of_mark hmark
    have hfront : 3 ≤ front.length := by
      have htwo : ['-', '-'].reverse.length = 2 := rfl
      rw [List.length_append] at hlong
      omega
    rw [List.append_assoc] at hsplit
    exact h (infix_of_split hsplit hfront (by decide))
  have hopen : ['!', '-', '-'].isPrefixOf (['!', '-', '-'] ++ (body ++ ['-', '-'])) = true := by
    simp
  rw [cut, if_pos rfl]
  change cutComment (['!', '-', '-'] ++ (body ++ ['-', '-']) ++ '>' :: rest) = _
  rw [cutComment, hclose, List.append_nil]
  simp only [List.reverse_reverse, hopen, if_true]

theorem cut_characterData {body : List Char} (h : ¬ [']', ']', '>'] <:+: body) (rest : List Char) :
    cut '<' (['!', '[', 'C', 'D', 'A', 'T', 'A', '['] ++ (body ++ [']', ']']) ++ '>' :: rest) =
      .ok (.ignored, rest) := by
  have hclose : closeAfter closesCData []
      (['!', '[', 'C', 'D', 'A', 'T', 'A', '['] ++ (body ++ [']', ']']) ++ '>' :: rest) =
      some ((['!', '[', 'C', 'D', 'A', 'T', 'A', '['] ++ (body ++ [']', ']'])).reverse ++ [], rest) := by
    refine closeAfter_of_first (by simp [closesCData]) fun as bs hsplit => ?_
    rw [List.append_nil, ← Bool.not_eq_true, closesCData]
    intro hmark
    obtain ⟨front, rfl⟩ := exists_front_of_mark hmark
    rw [List.append_assoc] at hsplit
    exact h (infix_of_split hsplit (length_le_of_not_mem hsplit (by decide)) (by decide))
  have hopen : ['!', '[', 'C', 'D', 'A', 'T', 'A', '['].isPrefixOf
      (['!', '[', 'C', 'D', 'A', 'T', 'A', '['] ++ (body ++ [']', ']'])) = true := by
    simp
  rw [cut, if_pos rfl]
  change cutCData (['!', '[', 'C', 'D', 'A', 'T', 'A', '['] ++ (body ++ [']', ']']) ++ '>' :: rest) = _
  rw [cutCData, hclose, List.append_nil]
  simp only [List.reverse_reverse, hopen, if_true]

theorem cut_instruction {body : List Char} (h : ¬ ['?', '>'] <:+: '?' :: body) (rest : List Char) :
    cut '<' ([] ++ ('?' :: body ++ ['?']) ++ '>' :: rest) = .ok (.ignored, rest) := by
  have hclose : closeAfter closesInstruction [] ([] ++ ('?' :: body ++ ['?']) ++ '>' :: rest) =
      some (([] ++ ('?' :: body ++ ['?'])).reverse ++ [], rest) := by
    refine closeAfter_of_first (by simp [closesInstruction]) fun as bs hsplit => ?_
    rw [List.append_nil, ← Bool.not_eq_true, closesInstruction]
    intro hmark
    obtain ⟨front, rfl⟩ := exists_front_of_mark hmark
    rw [List.append_assoc] at hsplit
    exact h (infix_of_split hsplit (Nat.zero_le _) (by decide))
  have hlong : 1 < ([] ++ ('?' :: body ++ ['?'])).reverse.length := by simp
  rw [cut, if_pos rfl]
  change cutInstruction ([] ++ ('?' :: body ++ ['?']) ++ '>' :: rest) = _
  rw [cutInstruction, hclose, List.append_nil]
  simp only [hlong, if_true]

/-- **A part that carries no data is one token.** -/
theorem cut_aside {a : Aside} (h : a.Spelled) (rest : List Char) :
    ∃ cs, a.spell ++ rest = '<' :: cs ∧ cut '<' cs = .ok (.ignored, rest) := by
  cases a with
  | comment body => exact ⟨_, by simp [Aside.spell], cut_comment h rest⟩
  | characterData body => exact ⟨_, by simp [Aside.spell], cut_characterData h rest⟩
  | instruction body => exact ⟨_, by simp [Aside.spell], cut_instruction h rest⟩
  | emptyElement name attributes =>
      have hcut := cut_tag h.1 (h.2.inTag.append (.of_plain (by simp) : InTag ['/'])) rest
      rw [if_pos (by simp)] at hcut
      exact ⟨_, by simp [Aside.spell], hcut⟩

end Token

end MacConsent.Markup
