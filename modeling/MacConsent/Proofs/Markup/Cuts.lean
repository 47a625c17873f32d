import MacConsent.Markup.Row
import MacConsent.Proofs.Markup.Tags

/-!
# MacConsent.Proofs.Markup.Cuts

Where the tokens of a written document end.  What a writer puts down is cut into
one token each, whatever stands behind it:

1. a tag, since its name is one that can stand in a tag (`IsTagName.isName`), and
   so is a name space (`isAttributes_spaceAttribute`);
2. the reference that a character of a value is written as (`escapeChar_cases`,
   `cut_reference`);
3. the declaration at the start of a document (`cut_declaration`).

A run of text is not cut so: it goes on as long as what stands behind it is text.
-/

namespace MacConsent.Markup

/-! ## names that stand in tags as they are -/

/-- A name of letters, with at least one. -/
def IsTagName (name : String) : Prop :=
  name.toList ≠ [] ∧ ∀ c ∈ name.toList, c.isAlpha = true

/-- A name space that stands between quotes as it is. -/
def IsSpaceName (space : Option String) : Prop := ∀ s ∈ space, '"' ∉ s.toList

theorem isSpaceName_none : IsSpaceName none := fun _ h => nomatch h

theorem isSpaceName_some {space : String} (h : '"' ∉ space.toList) : IsSpaceName (some space) := by
  intro s hs
  cases hs
  exact h

theorem ne_of_isAlpha {c d : Char} (h : c.isAlpha = true) (hd : d.isAlpha = false) : c ≠ d := by
  rintro rfl
  rw [h] at hd
  contradiction

/-- A letter does not separate the parts of a tag. -/
theorem not_isTagBlank_of_isAlpha {c : Char} (h : c.isAlpha = true) :
    Token.isTagBlank c = false := by
  simp [Token.isTagBlank, ne_of_isAlpha h]

/-- Names without a colon are local as they stand. -/
theorem localName_of_isTagName {name : String} (h : IsTagName name) :
    Event.localName name = name := by
  have hcolon : name.toList.dropWhile (· != ':') = [] := by
    have hne : ∀ c ∈ name.toList, (c != ':') = true :=
      fun c hc => by simp [ne_of_isAlpha (h.2 c hc)]
    rw [← List.append_nil name.toList, List.dropWhile_append_of_pos hne]
    rfl
  simp only [Event.localName, hcolon]

theorem spaceAttribute_some (space : String) : Row.spaceAttribute (some space) =
    [' ', 'x', 'm', 'l', 'n', 's', '='] ++ '"' :: (space.toList ++ ['"']) := by
  have hdef : Row.spaceAttribute (some space) = " xmlns=\"".toList ++ space.toList ++ ['"'] := rfl
  rw [hdef]
  simp

theorem IsTagName.isName {name : String} (h : IsTagName name) : IsName name where
  ne_nil := h.1
  plain c hc := by
    have halpha := h.2 c hc
    refine ⟨not_isTagBlank_of_isAlpha halpha, ?_, ?_, ?_, ?_⟩ <;>
      exact ne_of_isAlpha halpha (by decide)
  head c hc := by
    have halpha := h.2 c (List.mem_of_mem_head? hc)
    exact ⟨ne_of_isAlpha halpha (by decide), ne_of_isAlpha halpha (by decide)⟩

theorem isAttributes_spaceAttribute {space : Option String} (h : IsSpaceName space) :
    IsAttributes (Row.spaceAttribute space) := by
  cases space with
  | none => exact isAttributes_nil
  | some s =>
      rw [spaceAttribute_some]
      exact ⟨.append (.of_plain (by simp)) (.quoted (.inr rfl) (h s rfl) .nil),
        by simp [Token.isTagBlank]⟩

/-- No slash stands at the end of a start tag. -/
theorem getLast?_spaceAttribute_ne (space : Option String) :
    (Row.spaceAttribute space).getLast? ≠ some '/' := by
  cases space with
  | none => exact fun h => nomatch h
  | some s =>
      have hlast (cs : List Char) : (cs ++ ['"']).getLast? = some '"' := List.getLast?_concat
      rw [spaceAttribute_some, ← List.cons_append, ← List.append_assoc, hlast]
      decide

namespace Token

/-! ## text, references and the declaration -/

/-- A reference is one token. -/
theorem cut_reference {name : List Char} (h : ∀ c ∈ name, c != ';' && isPlain c)
    (rest : List Char) : cut '&' (name ++ ';' :: rest) = .ok (.reference name, rest) := by
  have htake : (name ++ ';' :: rest).takeWhile (fun c => c != ';' && isPlain c) = name := by
    rw [List.takeWhile_append_of_pos h]
    simp
  have hdrop : (name ++ ';' :: rest).dropWhile (fun c => c != ';' && isPlain c) = ';' :: rest := by
    rw [List.dropWhile_append_of_pos h]
    simp
  rw [cut, if_neg (by decide), if_pos rfl, cutReference, hdrop]
  simp only [htake]

/-- **A character of a value** is either text as it stands, or one reference that names it. -/
theorem escapeChar_cases (c : Char) :
    (isPlain c = true ∧ escapeChar c = [c]) ∨
      ∃ name, escapeChar c = '&' :: name ++ [';'] ∧ (∀ d ∈ name, d != ';' && isPlain d) ∧
        name.head? ≠ some '#' ∧ charOfName? name = some c := by
  by_cases hlt : c = '<'
  · exact .inr ⟨['l', 't'], by rw [hlt]; rfl, by simp [isPlain], by decide, by rw [hlt]; rfl⟩
  by_cases hgt : c = '>'
  · exact .inr ⟨['g', 't'], by rw [hgt]; rfl, by simp [isPlain], by decide, by rw [hgt]; rfl⟩
  by_cases hamp : c = '&'
  · exact .inr ⟨['a', 'm', 'p'], by rw [hamp]; rfl, by simp [isPlain], by decide, by rw [hamp]; rfl⟩
  by_cases hapos : c = '\''
  · exact .inr ⟨['a', 'p', 'o', 's'], by rw [hapos]; rfl, by simp [isPlain], by decide,
      by rw [hapos]; rfl⟩
  by_cases hquot : c = '"'
  · exact .inr ⟨['q', 'u', 'o', 't'], by rw [hquot]; rfl, by simp [isPlain], by decide,
      by rw [hquot]; rfl⟩
  · exact .inl ⟨by simp [isPlain, hlt, hamp], by simp [escapeChar, *]⟩

/-- The declaration is one token that carries no data. -/
theorem cut_declaration (rest : List Char) :
    ∃ cs, declaration ++ rest = '<' :: cs ∧ cut '<' cs = .ok (.ignored, rest) := by
  delta declaration
  simp only [String.reduceToList, List.cons_append]
  exact ⟨_, rfl, rfl⟩

end Token

end MacConsent.Markup
