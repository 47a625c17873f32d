import MacConsent.Remedy.Confirmation

/-!
# MacConsent.Proofs.Template

Filled templates.  The placeholder does not reach into itself: its bracket stands at its start
only.  So a placeholder that is put between two templates is found there, whatever fragments they
end or begin with (`fillFrom_append`), and what holds none stays as it is
(`fillFrom_of_not_infix`).

Every template is therefore pieces without a placeholder, with placeholders between, and a filled
one is the same pieces with the name between (`fill_single_pass`): the name is put in as it is, even
where it holds a placeholder, or makes one together with the pieces around it.
-/

namespace MacConsent

/-- A pattern whose first character stands nowhere else in it does not begin in front of a place
where it stands and end behind it. -/
theorem prefix_of_prefix_append {α : Type} {mark : α} {body front back : List α}
    (hmark : mark ∉ body) (hfront : front ≠ [])
    (h : mark :: body <+: front ++ (mark :: body ++ back)) : mark :: body <+: front := by
  rcases List.prefix_or_prefix_of_prefix h (List.prefix_append front _) with hin | ⟨tail, hout⟩
  · exact hin
  · -- the pattern ends behind the front, with what the second place begins with
    rw [← hout, List.prefix_append_right_inj, hout] at h
    cases tail with
    | nil => exact hout ▸ (List.append_nil front).symm ▸ List.prefix_refl _
    | cons c tail =>
        obtain ⟨rfl, -⟩ := List.cons_prefix_cons.1 h
        obtain ⟨d, front, rfl⟩ := List.exists_cons_of_ne_nil hfront
        obtain ⟨-, rfl⟩ := List.cons.inj hout
        exact absurd (List.mem_append_right front List.mem_cons_self) hmark

namespace Template

variable {name : List Char}

/-! ## going through a template -/

theorem fillFrom_nil (filled : List Char) : fillFrom name filled [] = filled.reverse := rfl

/-- A placeholder is taken out, and the name is put in. -/
theorem fillFrom_placeholder (filled rest : List Char) :
    fillFrom name filled (placeholder ++ rest) = fillFrom name (name.reverseAux filled) rest := rfl

/-- Without a placeholder at its start, a template keeps its first character. -/
theorem fillFrom_cons {c : Char} {rest : List Char} (h : ¬ placeholder <+: c :: rest)
    (filled : List Char) : fillFrom name filled (c :: rest) = fillFrom name (c :: filled) rest := by
  refine fillFrom.eq_2 name filled c rest fun rest' hc hrest => h ?_
  rw [hc, hrest]
  exact List.prefix_append placeholder rest'

/-- What is true of the empty template holds of all if it survives a placeholder, and a character
that begins none, being put in front. -/
theorem induction_on {motive : List Char → Prop} (nil : motive [])
    (placeholder : ∀ rest, motive rest → motive (placeholder ++ rest))
    (cons : ∀ c rest, ¬ Template.placeholder <+: c :: rest → motive rest → motive (c :: rest))
    (template : List Char) : motive template := by
  induction [], template using fillFrom.induct [] with
  | case1 filled rest ih => exact placeholder rest ih
  | case2 filled c rest hc ih =>
      refine cons c rest (fun ⟨rest', hrest⟩ => ?_) ih
      obtain ⟨rfl, rfl⟩ := List.cons.inj hrest
      exact hc rest' rfl rfl
  | case3 filled => exact nil

/-- What was filled so far stands in front of what is filled behind it. -/
theorem fillFrom_eq (filled template : List Char) :
    fillFrom name filled template = filled.reverse ++ fillFrom name [] template := by
  induction template using induction_on generalizing filled with
  | nil => simp [fillFrom_nil]
  | placeholder rest ih =>
      rw [fillFrom_placeholder, fillFrom_placeholder, ih (name.reverseAux filled),
        ih (name.reverseAux [])]
      simp [List.reverseAux_eq]
  | cons c rest hc ih =>
      rw [fillFrom_cons hc, fillFrom_cons hc, ih (c :: filled), ih [c]]
      simp

/-- **A placeholder between two templates is filled where it stands**, whatever they end or begin
with. -/
theorem fillFrom_append (front back : List Char) :
    fillFrom name [] (front ++ (placeholder ++ back)) =
      fillFrom name [] front ++ (name ++ fillFrom name [] back) := by
  induction front using induction_on with
  | nil =>
      rw [List.nil_append, fillFrom_placeholder, fillFrom_eq]
      simp [fillFrom_nil, List.reverseAux_eq]
  | placeholder rest ih =>
      rw [List.append_assoc, fillFrom_placeholder, fillFrom_placeholder, fillFrom_eq,
        fillFrom_eq _ rest, ih, List.append_assoc]
  | cons c rest hc ih =>
      have hrest : ¬ placeholder <+: c :: (rest ++ (placeholder ++ back)) :=
        mt (prefix_of_prefix_append (by decide) (List.cons_ne_nil c rest)) hc
      rw [List.cons_append, fillFrom_cons hrest, fillFrom_cons hc, fillFrom_eq, fillFrom_eq _ rest,
        ih, List.append_assoc]

/-- A template without a placeholder stays as it is. -/
theorem fillFrom_of_not_infix {template : List Char} (h : ¬ placeholder <:+: template) :
    fillFrom name [] template = template := by
  induction template with
  | nil => rfl
  | cons c rest ih =>
      obtain ⟨hstart, hrest⟩ := not_or.1 (mt List.infix_cons_iff.2 h)
      rw [fillFrom_cons hstart, fillFrom_eq, ih hrest]
      rfl

/-! ## pieces of a template -/

theorem prefix_intercalate {α : Type} (sep first : List α) (rest : List (List α)) :
    first <+: sep.intercalate (first :: rest) := by
  cases rest with
  | nil => exact List.intercalate_singleton ▸ List.prefix_refl first
  | cons second rest =>
      rw [List.intercalate_cons_cons, List.append_assoc]
      exact List.prefix_append first _

/-- Every template is pieces without a placeholder, with placeholders between. -/
theorem exists_pieces (template : List Char) :
    ∃ first rest, (∀ piece ∈ first :: rest, ¬ placeholder <:+: piece) ∧
      template = placeholder.intercalate (first :: rest) := by
  induction template using induction_on with
  | nil => exact ⟨[], [], by simp [placeholder], rfl⟩
  | placeholder template ih =>
      obtain ⟨first, rest, hpieces, rfl⟩ := ih
      refine ⟨[], first :: rest, List.forall_mem_cons.2 ⟨by simp [placeholder], hpieces⟩, ?_⟩
      rw [List.intercalate_cons_cons, List.nil_append]
  | cons c template hc ih =>
      obtain ⟨first, rest, hpieces, rfl⟩ := ih
      obtain ⟨hfirst, hrest⟩ := List.forall_mem_cons.1 hpieces
      have hjoin : c :: placeholder.intercalate (first :: rest) =
          placeholder.intercalate ((c :: first) :: rest) := by
        cases rest with
        | nil => rw [List.intercalate_singleton, List.intercalate_singleton]
        | cons second rest =>
            rw [List.intercalate_cons_cons, List.intercalate_cons_cons]
            rfl
      refine ⟨c :: first, rest, List.forall_mem_cons.2 ⟨fun hin => ?_, hrest⟩, hjoin⟩
      rcases List.infix_cons_iff.1 hin with hstart | hin
      · exact hc (hstart.trans (hjoin ▸ prefix_intercalate placeholder (c :: first) rest))
      · exact hfirst hin

/-- **The name stands between the pieces where the placeholders stood.** -/
theorem fillFrom_intercalate {pieces : List (List Char)}
    (h : ∀ piece ∈ pieces, ¬ placeholder <:+: piece) :
    fillFrom name [] (placeholder.intercalate pieces) = name.intercalate pieces := by
  induction pieces with
  | nil => rfl
  | cons piece pieces ih =>
      obtain ⟨hpiece, hpieces⟩ := List.forall_mem_cons.1 h
      cases pieces with
      | nil => rw [List.intercalate_singleton, List.intercalate_singleton,
          fillFrom_of_not_infix hpiece]
      | cons second pieces =>
          rw [List.intercalate_cons_cons, List.intercalate_cons_cons, List.append_assoc,
            fillFrom_append, fillFrom_of_not_infix hpiece, ih hpieces, List.append_assoc]

/-! ## texts -/

/-- The placeholder as a text. -/
def gap : String := "\x7bssid\x7d"

/-- The placeholder stands somewhere in a text. -/
def Holds (text : String) : Prop := gap.toList <:+: text.toList

instance (text : String) : Decidable (Holds text) :=
  inferInstanceAs (Decidable (gap.toList <:+: text.toList))

theorem toList_gap : gap.toList = placeholder := rfl

theorem toList_fill (template name : String) :
    (fill template name).toList = fillFrom name.toList [] template.toList := String.toList_ofList

theorem fill_append_gap (front back name : String) :
    fill (front ++ gap ++ back) name = fill front name ++ name ++ fill back name := by
  apply String.toList_injective
  simp only [toList_fill, String.toList_append, toList_gap, List.append_assoc, fillFrom_append]

theorem fill_of_not_holds {template : String} (h : ¬ Holds template) (name : String) :
    fill template name = template := by
  apply String.toList_injective
  rw [toList_fill, fillFrom_of_not_infix h]

/-- **Filling goes through a template once, and fills all of it.**  A placeholder between two texts
is filled, and they are filled each for itself; a text without one stays.  So a template is pieces
that hold no placeholder, with placeholders between, and whatever the name is, it stands between the
same pieces as it is: no part of it is ever filled. -/
theorem fill_single_pass :
    (∀ front back name : String,
      fill (front ++ gap ++ back) name = fill front name ++ name ++ fill back name) ∧
    (∀ template name : String, ¬ Holds template → fill template name = template) ∧
    ∀ template : String, ∃ pieces : List String, pieces ≠ [] ∧ (∀ piece ∈ pieces, ¬ Holds piece) ∧
      template = gap.intercalate pieces ∧ ∀ name, fill template name = name.intercalate pieces := by
  refine ⟨fill_append_gap, fun template name h => fill_of_not_holds h name, fun template => ?_⟩
  obtain ⟨first, rest, hpieces, htemplate⟩ := exists_pieces template.toList
  have htoList : ((first :: rest).map String.ofList).map String.toList = first :: rest := by
    simp [Function.comp_def]
  refine ⟨(first :: rest).map String.ofList, List.cons_ne_nil _ _, fun piece hpiece => ?_, ?_,
    fun name => ?_⟩
  · obtain ⟨cs, hcs, rfl⟩ := List.mem_map.1 hpiece
    rw [Holds, String.toList_ofList]
    exact hpieces cs hcs
  · apply String.toList_injective
    rw [String.toList_intercalate, htoList, htemplate, toList_gap]
  · apply String.toList_injective
    rw [toList_fill, String.toList_intercalate, htoList, htemplate, fillFrom_intercalate hpieces]

/-- A name that is the placeholder, between texts that make placeholders with parts of it. -/
theorem fill_single_pass_fragments :
    ¬ Holds "\x7bss" ∧ ¬ Holds "id\x7d \x7bssid" ∧
    fill ("\x7bss" ++ gap ++ "id\x7d \x7bssid") gap = "\x7bss" ++ gap ++ "id\x7d \x7bssid" := by
  obtain ⟨hgap, hnone, -⟩ := fill_single_pass
  have hfront : ¬ Holds "\x7bss" := by decide +kernel
  have hback : ¬ Holds "id\x7d \x7bssid" := by decide +kernel
  exact ⟨hfront, hback, by rw [hgap, hnone _ _ hfront, hnone _ _ hback]⟩

end Template

/-- The dialog names the network twice, as it is. -/
theorem Remedy.message_question (p : Profile) :
    (Remedy.question {} p).message = p.ssid ++
      " rejects randomized MAC addresses. This device will send its hardware MAC address when connecting to "
      ++ p.ssid ++ "." := by
  have hmessage : ({} : Messages).dialogMessage = "" ++ Template.gap ++
      " rejects randomized MAC addresses. This device will send its hardware MAC address when connecting to "
      ++ Template.gap ++ "." := by decide +kernel
  rw [Remedy.question, hmessage, Template.fill_append_gap, Template.fill_append_gap,
    Template.fill_of_not_holds (by decide +kernel), Template.fill_of_not_holds (by decide +kernel),
    Template.fill_of_not_holds (by decide +kernel), String.empty_append]

end MacConsent
