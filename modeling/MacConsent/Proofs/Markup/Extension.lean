import MacConsent.Markup.Token

/-!
# MacConsent.Proofs.Markup.Extension

Documents that go on.  A token depends on no more of a document than it takes:
if something is cut off the start of a text, then the same is cut off the start
of any longer one (`cut_append`).  The one exception is a run of text at the very
end, which takes up what follows.  So what is read of a document that was cut off
differs from what is read of all of it in the last token only.
-/

namespace MacConsent.Markup.Token

/-! ## closing marks -/

/-- The end of a tag is found where it was, whatever follows. -/
theorem closeTag_append {quote : Option Char} {before cs b rest : List Char}
    (h : closeTag quote before cs = some (b, rest)) (more : List Char) :
    closeTag quote before (cs ++ more) = some (b, rest ++ more) := by
  induction cs generalizing quote before with
  | nil => cases quote <;> simp [closeTag] at h
  | cons c cs ih =>
      cases quote with
      | some q => exact ih h
      | none =>
          simp only [closeTag, List.cons_append] at h ⊢
          split at h
          · next hc =>
              cases h
              rw [if_pos hc]
          · next hc =>
              rw [if_neg hc]
              split at h
              · next hquote => rw [if_pos hquote]; exact ih h
              · next hquote => rw [if_neg hquote]; exact ih h

/-- A tag that is not closed is no tag. -/
theorem closeTag_eq_none {cs : List Char} (h : '>' ∉ cs) (quote : Option Char)
    (before : List Char) : closeTag quote before cs = none := by
  induction cs generalizing quote before with
  | nil => cases quote <;> rfl
  | cons c cs ih =>
      obtain ⟨hc, hcs⟩ := not_or.1 (mt List.mem_cons.2 h)
      cases quote with
      | some q => exact ih hcs _ _
      | none =>
          rw [closeTag, if_neg (Ne.symm hc)]
          split <;> exact ih hcs _ _

/-- The end of an aside is found where it was, whatever follows. -/
theorem closeAfter_append {closes : List Char → Bool} {before cs b rest : List Char}
    (h : closeAfter closes before cs = some (b, rest)) (more : List Char) :
    closeAfter closes before (cs ++ more) = some (b, rest ++ more) := by
  induction cs generalizing before with
  | nil => simp [closeAfter] at h
  | cons c cs ih =>
      rw [closeAfter] at h
      rw [List.cons_append, closeAfter]
      split at h
      · next hc =>
          cases h
          rw [if_pos hc]
      · next hc =>
          rw [if_neg hc]
          exact ih h

/-- The end of a declaration is found where it was, whatever follows. -/
theorem closeBalanced_append {depth : Nat} {before cs b rest : List Char}
    (h : closeBalanced depth before cs = some (b, rest)) (more : List Char) :
    closeBalanced depth before (cs ++ more) = some (b, rest ++ more) := by
  induction cs generalizing depth before with
  | nil => simp [closeBalanced] at h
  | cons c cs ih =>
      rw [closeBalanced.eq_def] at h
      rw [List.cons_append, closeBalanced.eq_def]
      simp only at h ⊢
      split at h
      · next hopen =>
          rw [if_pos hopen]
          exact ih h
      · next hopen =>
          rw [if_neg hopen]
          split at h
          · next hclose =>
              rw [if_pos hclose]
              cases depth with
              | zero =>
                  cases h
                  rfl
              | succ depth => exact ih h
          · next hclose =>
              rw [if_neg hclose]
              exact ih h

/-! ## tokens -/

theorem cutReference_append {cs rest : List Char} {t : Token}
    (h : cutReference cs = .ok (t, rest)) (more : List Char) :
    cutReference (cs ++ more) = .ok (t, rest ++ more) := by
  unfold cutReference at h
  split at h
  · next hdrop =>
      cases h
      obtain ⟨name, hname⟩ : ∃ name, cs.takeWhile (fun c => c != ';' && isPlain c) = name := ⟨_, rfl⟩
      have hcs : cs = name ++ ';' :: rest := by
        rw [← hname, ← hdrop, List.takeWhile_append_dropWhile]
      have hplain : ∀ c ∈ name, (c != ';' && isPlain c) = true := by
        intro c hc
        exact List.all_eq_true.1 List.all_takeWhile c (hname ▸ hc)
      have hsemicolon : (';' :: (rest ++ more)).takeWhile (fun c => c != ';' && isPlain c) = [] := rfl
      have hstop : (';' :: (rest ++ more)).dropWhile (fun c => c != ';' && isPlain c) =
          ';' :: (rest ++ more) := rfl
      rw [hname, hcs, List.append_assoc, List.cons_append, cutReference,
        List.dropWhile_append_of_pos hplain, List.takeWhile_append_of_pos hplain, hstop, hsemicolon,
        List.append_nil]
      rfl
  · cases h

/-- A start tag is cut off alike, whatever follows. -/
theorem cutStart_append {cs rest : List Char} {t : Token} (h : cutStart cs = .ok (t, rest))
    (more : List Char) : cutStart (cs ++ more) = .ok (t, rest ++ more) := by
  unfold cutStart at h
  split at h
  · cases h
  · next heq =>
      cases h
      rw [cutStart, closeTag_append heq]
      rfl
  · next hslash heq =>
      cases h
      rw [cutStart, closeTag_append heq]
      split
      · next hnone => cases hnone
      · next hsome =>
          obtain ⟨hbefore, -⟩ := Prod.mk.inj (Option.some.inj hsome)
          exact absurd hbefore (hslash _)
      · next hsome =>
          obtain ⟨rfl, rfl⟩ := Prod.mk.inj (Option.some.inj hsome)
          rfl

theorem cutEnd_append {cs rest : List Char} {t : Token} (h : cutEnd cs = .ok (t, rest))
    (more : List Char) : cutEnd (cs ++ more) = .ok (t, rest ++ more) := by
  unfold cutEnd at h
  split at h
  · cases h
  · next heq =>
      cases h
      rw [cutEnd, closeTag_append heq]

theorem cutInstruction_append {cs rest : List Char} {t : Token}
    (h : cutInstruction cs = .ok (t, rest)) (more : List Char) :
    cutInstruction (cs ++ more) = .ok (t, rest ++ more) := by
  unfold cutInstruction at h
  split at h
  · cases h
  · next heq =>
      simp only [cutInstruction, closeAfter_append heq]
      split at h
      · next hlong =>
          cases h
          rw [if_pos hlong]
      · cases h

theorem cutComment_append {cs rest : List Char} {t : Token} (h : cutComment cs = .ok (t, rest))
    (more : List Char) : cutComment (cs ++ more) = .ok (t, rest ++ more) := by
  unfold cutComment at h
  split at h
  · cases h
  · next heq =>
      simp only [cutComment, closeAfter_append heq]
      split at h
      · next hopen =>
          cases h
          rw [if_pos hopen]
      · cases h

theorem cutCData_append {cs rest : List Char} {t : Token} (h : cutCData cs = .ok (t, rest))
    (more : List Char) : cutCData (cs ++ more) = .ok (t, rest ++ more) := by
  unfold cutCData at h
  split at h
  · cases h
  · next heq =>
      simp only [cutCData, closeAfter_append heq]
      split at h
      · next hopen =>
          cases h
          rw [if_pos hopen]
      · cases h

theorem cutDoctype_append {cs rest : List Char} {t : Token} (h : cutDoctype cs = .ok (t, rest))
    (more : List Char) : cutDoctype (cs ++ more) = .ok (t, rest ++ more) := by
  unfold cutDoctype at h
  split at h
  · cases h
  · next heq =>
      simp only [cutDoctype, closeBalanced_append heq]
      simp only at h
      split at h
      · next hkeyword =>
          rw [if_pos hkeyword]
          split at h
          · cases h
          · next hname =>
              cases h
              rw [if_neg hname]
      · cases h

/-- **Markup that is complete is cut off alike, whatever follows.** -/
theorem cutMarkup_append {cs rest : List Char} {t : Token} (h : cutMarkup cs = .ok (t, rest))
    (more : List Char) : cutMarkup (cs ++ more) = .ok (t, rest ++ more) := by
  unfold cutMarkup at h
  split at h
  · cases h
  · exact cutCData_append h more
  · exact cutComment_append h more
  · exact cutDoctype_append h more
  · exact cutDoctype_append h more
  · cases h
  · exact cutInstruction_append h more
  · exact cutEnd_append h more
  · next hnil _ _ _ _ hbang hquery hslash =>
      obtain ⟨c, tail, rfl⟩ := List.exists_cons_of_ne_nil fun heq => hnil heq
      have hc : c ≠ '!' ∧ c ≠ '?' ∧ c ≠ '/' :=
        ⟨fun hc => hbang tail (by rw [hc]), fun hc => hquery tail (by rw [hc]),
          fun hc => hslash tail (by rw [hc])⟩
      have hstart : cutMarkup (c :: tail ++ more) = cutStart (c :: tail ++ more) := by
        simp [cutMarkup, hc]
      rw [hstart]
      exact cutStart_append h more

/-- **What is cut off a text is cut off any longer one**, unless it is a run of text that takes
all there is. -/
theorem cut_append {c : Char} {cs rest : List Char} {t : Token} (h : cut c cs = .ok (t, rest))
    (more : List Char) :
    (rest = [] ∧ ∃ content, t = .text content) ∨ cut c (cs ++ more) = .ok (t, rest ++ more) := by
  unfold cut at h ⊢
  split at h
  · next hlt =>
      rw [if_pos hlt]
      exact .inr (cutMarkup_append h more)
  · next hlt =>
      rw [if_neg hlt]
      split at h
      · next hamp =>
          rw [if_pos hamp]
          exact .inr (cutReference_append h more)
      · next hamp =>
          rw [if_neg hamp]
          cases h
          cases hrest : cs.dropWhile isPlain with
          | nil => exact .inl ⟨rfl, _, rfl⟩
          | cons d ds =>
              have hcs : cs = cs.takeWhile isPlain ++ d :: ds := by
                rw [← hrest, List.takeWhile_append_dropWhile]
              have hd : isPlain d = false := by
                have hhead := List.head?_dropWhile_not isPlain cs
                rw [hrest] at hhead
                simpa using hhead
              have hplain : ∀ e ∈ cs.takeWhile isPlain, isPlain e = true :=
                List.all_eq_true.1 List.all_takeWhile
              right
              have hlong : cs ++ more = cs.takeWhile isPlain ++ d :: (ds ++ more) := by
                rw [← List.cons_append, ← List.append_assoc, ← hcs]
              rw [hlong, List.takeWhile_append_of_pos hplain, List.dropWhile_append_of_pos hplain]
              simp [hd]

end MacConsent.Markup.Token
