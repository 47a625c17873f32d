import MacConsent.Text.Blank

/-!
# MacConsent.Proofs.Trim

Trimming a text twice is trimming it once (`trim_trim`), and a text without
blanks is left as it is (`trim_eq_self`).  What trimming leaves is a text whose
ends are not blank; the blanks inside stay.
-/

namespace MacConsent.Text

/-! ## trimming one end -/

/-- What is left begins with no blank. -/
theorem trimStart_eq_self_iff {cs : List Char} :
    trimStart cs = cs ↔ ∀ c ∈ cs.head?, isBlank c = false := by
  cases cs with
  | nil => simp [trimStart]
  | cons c cs =>
      cases hc : isBlank c with
      | false => simp [trimStart, hc]
      | true =>
          have hlen : (cs.dropWhile isBlank).length ≤ cs.length :=
            (List.dropWhile_suffix isBlank).length_le
          have hne : cs.dropWhile isBlank ≠ c :: cs := by
            intro heq
            rw [heq, List.length_cons] at hlen
            omega
          simp [trimStart, hc, hne]

theorem trimStart_head?_not_blank (cs : List Char) :
    ∀ c ∈ (trimStart cs).head?, isBlank c = false := by
  induction cs with
  | nil => simp [trimStart]
  | cons c cs ih =>
      cases hc : isBlank c with
      | false => simp [trimStart, hc]
      | true => simpa [trimStart, hc] using ih

theorem trimStart_trimStart (cs : List Char) : trimStart (trimStart cs) = trimStart cs :=
  trimStart_eq_self_iff.2 (trimStart_head?_not_blank cs)

/-- Trimming the end is trimming the start of the text read backwards. -/
theorem trimEnd_eq_reverse (cs : List Char) : trimEnd cs = (trimStart cs.reverse).reverse := rfl

theorem trimEnd_trimEnd (cs : List Char) : trimEnd (trimEnd cs) = trimEnd cs := by
  rw [trimEnd_eq_reverse, trimEnd_eq_reverse, List.reverse_reverse, trimStart_trimStart]

/-- Trimming the end keeps a beginning of the text. -/
theorem trimEnd_isPrefix (cs : List Char) : trimEnd cs <+: cs := by
  have hsuffix : trimStart cs.reverse <:+ cs.reverse := List.dropWhile_suffix isBlank
  rw [trimEnd_eq_reverse]
  simpa using List.reverse_prefix.2 hsuffix

/-! ## trimming both ends -/

/-- A text that begins with no blank still does so once its end is trimmed. -/
theorem trimStart_trimEnd {cs : List Char} (h : ∀ c ∈ cs.head?, isBlank c = false) :
    trimStart (trimEnd cs) = trimEnd cs := by
  rw [trimStart_eq_self_iff]
  intro c hc
  obtain ⟨rest, hrest⟩ := trimEnd_isPrefix cs
  apply h c
  rw [← hrest, List.head?_append, hc]
  rfl

/-- **Trimming is idempotent**. -/
theorem trim_trim (cs : List Char) : trim (trim cs) = trim cs := by
  unfold trim
  rw [trimStart_trimEnd (trimStart_head?_not_blank cs), trimEnd_trimEnd]

/-- A text without blanks has nothing to trim. -/
theorem trim_eq_self {cs : List Char} (h : ∀ c ∈ cs, isBlank c = false) : trim cs = cs := by
  have hstart : trimStart cs = cs :=
    trimStart_eq_self_iff.2 fun c hc => h c (List.mem_of_mem_head? hc)
  have hend : trimStart cs.reverse = cs.reverse :=
    trimStart_eq_self_iff.2 fun c hc =>
      h c (List.mem_reverse.1 (List.mem_of_mem_head? hc))
  rw [trim, hstart, trimEnd_eq_reverse, hend, List.reverse_reverse]

/-! ## trimmed strings -/

/-- A string without the blanks at its ends. -/
def trimmed (s : String) : String := String.ofList (trim s.toList)

theorem trimmed_trimmed (s : String) : trimmed (trimmed s) = trimmed s := by
  unfold trimmed
  rw [String.toList_ofList, trim_trim]

end MacConsent.Text
