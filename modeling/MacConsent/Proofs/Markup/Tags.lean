import MacConsent.Markup.Event

/-!
# MacConsent.Proofs.Markup.Tags

Where tags end.  A tag ends at the first closing bracket outside quotes, so what
stands in a tag may hold brackets between quotes and nowhere else (`InTag`).
Such a tag is one token, whatever stands behind it: a start tag, or an empty
element if a slash stands at its end (`cut_tag`), or an end tag (`cut_end`).  Its
name is what stands before the attributes (`tagName_append`), and in an end tag
what stands before the blanks (`endName_append`).
-/

namespace MacConsent.Markup

/-- What can stand in a tag: quotes come in pairs, and closing brackets between quotes. -/
inductive InTag : List Char → Prop
  | nil : InTag []
  | plain {c : Char} {cs : List Char} : c ≠ '>' → c ≠ '\'' → c ≠ '"' → InTag cs → InTag (c :: cs)
  | quoted {q : Char} {value cs : List Char} : q = '\'' ∨ q = '"' → q ∉ value → InTag cs →
      InTag (q :: (value ++ q :: cs))

theorem InTag.of_plain {cs : List Char} (h : ∀ c ∈ cs, c ≠ '>' ∧ c ≠ '\'' ∧ c ≠ '"') : InTag cs := by
  induction cs with
  | nil => exact .nil
  | cons c cs ih =>
      obtain ⟨⟨hgt, hapos, hquot⟩, hcs⟩ := List.forall_mem_cons.1 h
      exact .plain hgt hapos hquot (ih hcs)

theorem InTag.append {as bs : List Char} (ha : InTag as) (hb : InTag bs) : InTag (as ++ bs) := by
  induction ha with
  | nil => exact hb
  | plain hgt hapos hquot _ ih => exact .plain hgt hapos hquot ih
  | quoted hq hvalue _ ih =>
      rw [List.cons_append, List.append_assoc, List.cons_append]
      exact .quoted hq hvalue ih

/-- The name of an element: it holds nothing that ends a name or a tag, and it does not begin as
something else than an element does. -/
structure IsName (name : String) : Prop where
  ne_nil : name.toList ≠ []
  plain : ∀ c ∈ name.toList,
    Token.isTagBlank c = false ∧ c ≠ '>' ∧ c ≠ '\'' ∧ c ≠ '"' ∧ c ≠ '/'
  head : ∀ c ∈ name.toList.head?, c ≠ '!' ∧ c ≠ '?'

instance (name : String) : Decidable (IsName name) :=
  decidable_of_iff
    (name.toList ≠ [] ∧
      (name.toList.all fun c => !Token.isTagBlank c && c != '>' && c != '\'' && c != '"' && c != '/') ∧
      name.toList.head?.all fun c => c != '!' && c != '?') <| by
    simp only [List.all_eq_true, Option.all_eq_true, Bool.and_eq_true, Bool.not_eq_true', bne_iff_ne,
      and_assoc]
    exact ⟨fun ⟨hnil, hplain, hhead⟩ => ⟨hnil, hplain, hhead⟩,
      fun ⟨hnil, hplain, hhead⟩ => ⟨hnil, hplain, hhead⟩⟩

/-- The attributes of an element: they are apart from its name. -/
structure IsAttributes (attributes : List Char) : Prop where
  inTag : InTag attributes
  apart : ∀ c ∈ attributes.head?, Token.isTagBlank c = true

theorem isAttributes_nil : IsAttributes [] := ⟨.nil, fun _ h => (nomatch h)⟩

theorem IsName.inTag {name : String} (h : IsName name) : InTag name.toList :=
  .of_plain fun c hc => ⟨(h.plain c hc).2.1, (h.plain c hc).2.2.1, (h.plain c hc).2.2.2.1⟩

theorem inTag_of_blanks {gap : List Char} (h : ∀ c ∈ gap, Token.isTagBlank c = true) :
    InTag gap := by
  refine .of_plain fun c hc => ?_
  have hblank := h c hc
  refine ⟨?_, ?_, ?_⟩ <;> rintro rfl <;> exact absurd hblank (by decide)

namespace Token

/-! ## the closing bracket -/

/-- Quoted characters do not close a tag. -/
theorem closeTag_quoted {q : Char} {cs before rest : List Char} (h : q ∉ cs) :
    closeTag (some q) before (cs ++ q :: rest) = closeTag none (q :: (cs.reverse ++ before)) rest := by
  induction cs generalizing before with
  | nil => simp [closeTag]
  | cons c cs ih =>
      have hc : c ≠ q := fun heq => h (heq ▸ List.mem_cons_self)
      have htail : closeTag (some q) (c :: before) (cs ++ q :: rest) =
          closeTag none (q :: (cs.reverse ++ c :: before)) rest :=
        ih fun hd => h (List.mem_cons_of_mem c hd)
      simpa [closeTag, hc] using htail

/-- **A tag ends behind what can stand in it.** -/
theorem closeTag_of_inTag {cs : List Char} (h : InTag cs) (before rest : List Char) :
    closeTag none before (cs ++ '>' :: rest) = some (cs.reverse ++ before, rest) := by
  induction h generalizing before with
  | nil => rfl
  | @plain c cs hgt hapos hquot _ ih =>
      have htail := ih (c :: before)
      simpa [closeTag, hgt, hapos, hquot] using htail
  | @quoted q value cs hq hvalue _ ih =>
      have hgt : q ≠ '>' := by rcases hq with rfl | rfl <;> decide
      have hopen : closeTag none before (q :: (value ++ q :: (cs ++ '>' :: rest))) =
          closeTag (some q) (q :: before) (value ++ q :: (cs ++ '>' :: rest)) := by
        rw [closeTag, if_neg hgt, if_pos hq]
      rw [List.cons_append, List.append_assoc, List.cons_append, hopen, closeTag_quoted hvalue, ih]
      simp

/-! ## tags -/

/-- A name does not begin as something else than an element does. -/
theorem cutMarkup_of_isName {name : String} (h : IsName name) (cs : List Char) :
    cutMarkup (name.toList ++ cs) = cutStart (name.toList ++ cs) := by
  obtain ⟨c, tail, hname⟩ := List.exists_cons_of_ne_nil h.ne_nil
  obtain ⟨hbang, hquery⟩ := h.head c (by rw [hname]; rfl)
  have hslash : c ≠ '/' := (h.plain c (by rw [hname]; exact List.mem_cons_self)).2.2.2.2
  rw [hname]
  simp [cutMarkup, hbang, hquery, hslash]

/-- **A tag is one token**, which carries no data if a slash stands at its end. -/
theorem cut_tag {name : String} {cs : List Char} (h : IsName name) (hcs : InTag cs)
    (rest : List Char) :
    cut '<' (name.toList ++ cs ++ '>' :: rest) =
      .ok (if cs.getLast? = some '/' then .ignored else .startTag (name.toList ++ cs), rest) := by
  have hclose := closeTag_of_inTag (h.inTag.append hcs) [] rest
  have hlast : (name.toList ++ cs).reverse.head? = some '/' ↔ cs.getLast? = some '/' := by
    rw [List.head?_reverse, List.getLast?_append, Option.or_eq_some_iff]
    refine ⟨fun hlast => hlast.resolve_right fun hname => ?_, .inl⟩
    exact (h.plain '/' (List.mem_of_getLast? hname.2)).2.2.2.2 rfl
  rw [List.append_nil] at hclose
  rw [cut, if_pos rfl, List.append_assoc, cutMarkup_of_isName h, ← List.append_assoc, cutStart,
    hclose]
  split
  · next heq => cases heq
  · next heq =>
      obtain ⟨hrev, rfl⟩ := Prod.mk.inj (Option.some.inj heq)
      rw [if_pos (hlast.1 (by rw [hrev]; rfl))]
  · next before _ hslash heq =>
      obtain ⟨rfl, rfl⟩ := Prod.mk.inj (Option.some.inj heq)
      rw [if_neg, List.reverse_reverse]
      intro hend
      obtain ⟨cs', hrev⟩ := List.head?_eq_some_iff.1 (hlast.2 hend)
      exact hslash cs' hrev

/-- **An end tag is one token.** -/
theorem cut_end {name : String} {gap : List Char} (h : IsName name)
    (hgap : ∀ c ∈ gap, isTagBlank c = true) (rest : List Char) :
    cut '<' ('/' :: (name.toList ++ gap ++ '>' :: rest)) =
      .ok (.endTag (name.toList ++ gap), rest) := by
  have hclose := closeTag_of_inTag (h.inTag.append (inTag_of_blanks hgap)) [] rest
  rw [List.append_nil] at hclose
  rw [cut, if_pos rfl, cutMarkup, cutEnd, hclose]
  simp only [List.reverse_reverse]

/-! ## names -/

/-- The name in a start tag ends where the attributes begin. -/
theorem tagName_append {name : String} {attributes : List Char} (h : IsName name)
    (hattributes : IsAttributes attributes) :
    Event.tagName (name.toList ++ attributes) = name := by
  have hname : ∀ c ∈ name.toList, (!isTagBlank c) = true := by
    intro c hc
    rw [(h.plain c hc).1, Bool.not_false]
  have hrest : attributes.takeWhile (fun c => !isTagBlank c) = [] := by
    cases attributes with
    | nil => rfl
    | cons c cs => rw [List.takeWhile_cons, hattributes.apart c rfl]; rfl
  rw [Event.tagName, List.takeWhile_append_of_pos hname, hrest, List.append_nil,
    String.ofList_toList]

/-- The name in an end tag ends where the blanks begin. -/
theorem endName_append {name : String} {gap : List Char} (h : IsName name)
    (hgap : ∀ c ∈ gap, isTagBlank c = true) : Event.endName (name.toList ++ gap) = name := by
  have hdrop : (name.toList ++ gap).reverse.dropWhile isTagBlank = name.toList.reverse := by
    rw [List.reverse_append, List.dropWhile_append_of_pos fun c hc => hgap c (List.mem_reverse.1 hc)]
    cases hrev : name.toList.reverse with
    | nil => rfl
    | cons c cs =>
        have hc : c ∈ name.toList := by
          rw [← List.mem_reverse, hrev]
          exact List.mem_cons_self
        rw [List.dropWhile_cons, (h.plain c hc).1]
        rfl
  rw [Event.endName, hdrop]
  split
  · next hrev => exact absurd (List.reverse_eq_nil_iff.1 hrev) h.ne_nil
  · rw [List.reverse_reverse, String.ofList_toList]

end Token

end MacConsent.Markup
