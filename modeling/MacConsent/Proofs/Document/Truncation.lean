import MacConsent.Proofs.Document.RoundTrip
import MacConsent.Proofs.Markup.Extension

/-!
# MacConsent.Proofs.Document.Truncation

Documents that were cut off.  Reading goes from the start of a document to its
end and takes back no profile, and a token does not depend on what stands behind
it.  So whatever is read of the start of a document is the start of what is read
of all of it, for every document (`read_append`).

In a written document a profile is there from the last character of its end tag
on: before it, the text gives an error or no profile more (`readFrom_block`).  A
written document that was cut off anywhere therefore gives an error or exactly the
profiles whose end tags it holds (`read_truncated`).
-/

namespace MacConsent.Document

open Markup

/-! ## profiles are only added -/

/-- Leaving an element adds to the profiles at most. -/
theorem Reader.done_of_leave {r r' : Reader} (h : r.leave = .ok r') : r.done <:+ r'.done := by
  obtain ⟨leaf, outer, behind, -, rfl, hfinish | htake⟩ := Reader.leave_cases h
  · obtain rfl | ⟨d, p, -, -, rfl⟩ := Reader.finish_cases hfinish
    · exact List.suffix_refl _
    · exact List.suffix_cons _ _
  · obtain rfl | ⟨d, field, d', -, -, rfl⟩ := Reader.take_cases htake
    · exact List.suffix_refl _
    · exact List.suffix_refl _

/-- No event takes a profile back. -/
theorem Reader.done_of_step {r r' : Reader} {e : Event} (h : r.step e = .ok r') :
    r.done <:+ r'.done := by
  cases e with
  | opened name =>
      cases h
      exact List.suffix_refl _
  | text content =>
      cases h
      exact List.suffix_refl _
  | reference name =>
      obtain ⟨c, -, rfl⟩ := map_eq_ok h
      exact List.suffix_refl _
  | closed name => exact Reader.done_of_leave (mapError_eq_ok h)
  | ignored =>
      cases h
      exact List.suffix_refl _

namespace Walk

/-- A token adds to the profiles at most. -/
theorem done_of_step {w w' : Walk} {t : Token} (h : w.step t = .ok w') :
    w.reader.done <:+ w'.reader.done := by
  unfold step at h
  split at h
  · cases h
  · split at h
    · cases h
    · next hreader =>
        cases h
        exact Reader.done_of_step hreader

/-- Text completes no profile. -/
theorem done_of_text {w w' : Walk} {content : List Char} (h : w.step (.text content) = .ok w') :
    w'.reader.done = w.reader.done := by
  cases h
  rfl

/-- What is read of a text that is not at fault: its first token, and then the rest. -/
theorem readFrom_cons_eq_ok {w : Walk} {c : Char} {cs : List Char} {ps : List Profile}
    (h : w.readFrom (c :: cs) = .ok ps) :
    ∃ t rest w', Token.cut c cs = .ok (t, rest) ∧ w.step t = .ok w' ∧ w'.readFrom rest = .ok ps := by
  rw [readFrom_cons] at h
  split at h
  · cases h
  · next t rest hcut =>
      split at h
      · cases h
      · next w' hstep => exact ⟨t, rest, w', hcut, hstep, h⟩

/-- The profiles so far stay at the front. -/
theorem done_prefix_readFrom {w : Walk} {text : List Char} {ps : List Profile}
    (h : w.readFrom text = .ok ps) : w.reader.done.reverse <+: ps := by
  induction hn : text.length using Nat.strongRecOn generalizing w text with
  | ind n ih =>
      cases text with
      | nil =>
          rw [readFrom] at h
          cases h
          exact List.prefix_refl _
      | cons c cs =>
          obtain ⟨t, rest, w', hcut, hstep, hrest⟩ := readFrom_cons_eq_ok h
          have hlt : rest.length < n := hn ▸ Token.length_rest_lt hcut
          exact (List.reverse_prefix.2 (done_of_step hstep)).trans (ih _ hlt hrest rfl)

/-- **What is read of the start of a text is the start of what is read of all of it.** -/
theorem readFrom_append {w : Walk} {text more : List Char} {qs ps : List Profile}
    (hstart : w.readFrom text = .ok qs) (hall : w.readFrom (text ++ more) = .ok ps) : qs <+: ps := by
  induction hn : text.length using Nat.strongRecOn generalizing w text with
  | ind n ih =>
      cases text with
      | nil =>
          rw [readFrom] at hstart
          cases hstart
          exact done_prefix_readFrom hall
      | cons c cs =>
          obtain ⟨t, rest, w', hcut, hstep, hrest⟩ := readFrom_cons_eq_ok hstart
          rcases Token.cut_append hcut more with ⟨rfl, content, rfl⟩ | hlong
          · -- a run of text that goes on: no profile was completed by it
            rw [readFrom] at hrest
            cases hrest
            rw [done_of_text hstep]
            exact done_prefix_readFrom hall
          · rw [List.cons_append] at hall
            obtain ⟨t', rest', w'', hcut', hstep', hrest'⟩ := readFrom_cons_eq_ok hall
            rw [hlong] at hcut'
            cases hcut'
            rw [hstep] at hstep'
            cases hstep'
            have hlt : rest.length < n := hn ▸ Token.length_rest_lt hcut
            exact ih _ hlt hrest hrest' rfl

/-- A text behind which no profile is complete gives none at any point. -/
theorem readFrom_of_prefix {w : Walk} {text front : List Char} (hfront : front <+: text)
    (htext : w.readFrom text = .ok w.reader.done.reverse) :
    (∃ f, w.readFrom front = .error f) ∨ w.readFrom front = .ok w.reader.done.reverse := by
  obtain ⟨more, rfl⟩ := hfront
  cases hread : w.readFrom front with
  | error f => exact .inl ⟨f, rfl⟩
  | ok qs =>
      have hle := (readFrom_append hread htext).length_le
      have hge := (done_prefix_readFrom hread).length_le
      have heq := (done_prefix_readFrom hread).eq_of_length (Nat.le_antisymm hge hle)
      exact .inr (by rw [heq])

/-- A tag that is cut off is a fault. -/
theorem readFrom_unclosed {w : Walk} {cs : List Char} (h : '>' ∉ cs)
    (hend : cs = [] ∨ cs.head? = some '/') : ∃ f, w.readFrom ('<' :: cs) = .error f := by
  refine ⟨.markup .unclosedTag, ?_⟩
  have hcut : Token.cut '<' cs = .error .unclosedTag := by
    rw [Token.cut, if_pos rfl]
    rcases hend with rfl | hend
    · rfl
    · obtain ⟨tail, rfl⟩ := List.head?_eq_some_iff.1 hend
      have htail : '>' ∉ tail := fun hmem => h (List.mem_cons_of_mem _ hmem)
      rw [Token.cutMarkup, Token.cutEnd, Token.closeTag_eq_none htail]
  rw [readFrom_cons, hcut]

end Walk

/-- **A document that goes on gives more profiles and no others.** -/
theorem read_append {document more : String} {qs ps : List Profile}
    (hstart : read document = .ok qs) (hall : read (document ++ more) = .ok ps) : qs <+: ps := by
  rw [Walk.read_eq_readFrom] at hstart hall
  rw [String.toList_append] at hall
  cases hdocument : document.toList with
  | nil =>
      rw [hdocument] at hstart
      change Walk.readFrom {} [] = _ at hstart
      rw [Walk.readFrom] at hstart
      cases hstart
      exact List.nil_prefix
  | cons c cs =>
      have hbehind : Walk.behindMark (c :: cs ++ more.toList) =
          Walk.behindMark (c :: cs) ++ more.toList := by
        by_cases hc : c = '\ufeff'
        · subst hc
          rfl
        · simp [Walk.behindMark, hc]
      rw [hdocument] at hstart hall
      rw [hbehind] at hall
      exact Walk.readFrom_append hstart hall

/-! ## counting end tags -/

/-- How often one text stands in another. -/
def occurrences (part : List Char) : List Char → Nat
  | [] => 0
  | c :: cs => (if part.isPrefixOf (c :: cs) then 1 else 0) + occurrences part cs

/-- The complete end tags of profiles in a text. -/
def endTags (text : List Char) : Nat := occurrences (Row.endTag profileName) text

/-- A front part holds no more occurrences than the whole. -/
theorem occurrences_le_of_prefix (part : List Char) {front text : List Char} (h : front <+: text) :
    occurrences part front ≤ occurrences part text := by
  obtain ⟨more, rfl⟩ := h
  induction front with
  | nil => exact Nat.zero_le _
  | cons c cs ih =>
      have hc : part.isPrefixOf (c :: cs) = true → part.isPrefixOf (c :: cs ++ more) = true := by
        rw [List.isPrefixOf_iff_prefix, List.isPrefixOf_iff_prefix]
        exact fun hpart => hpart.trans (List.prefix_append _ _)
      rw [List.cons_append, occurrences, occurrences]
      refine Nat.add_le_add ?_ ih
      split
      · next hpart => exact Nat.le_of_eq (if_pos (hc hpart)).symm
      · exact Nat.zero_le _

/-- An end tag begins with a bracket. -/
theorem endTags_cons_of_ne {c : Char} (hc : c ≠ '<') (cs : List Char) :
    endTags (c :: cs) = endTags cs := by
  have hpart : (Row.endTag profileName).isPrefixOf (c :: cs) = false := by
    simp [Row.endTag, List.isPrefixOf, Ne.symm hc]
  rw [endTags, occurrences, hpart]
  exact Nat.zero_add _

/-- An opening bracket that no slash follows starts no end tag. -/
theorem endTags_bracket {c : Char} (hc : c ≠ '/') (cs : List Char) :
    endTags ('<' :: c :: cs) = endTags (c :: cs) := by
  have hpart : (Row.endTag profileName).isPrefixOf ('<' :: c :: cs) = false := by
    simp [Row.endTag, List.isPrefixOf, Ne.symm hc]
  rw [endTags, occurrences, hpart]
  exact Nat.zero_add _

/-- A text without an opening bracket holds no end tag. -/
theorem endTags_append_of_not_mem {text : List Char} (h : '<' ∉ text) (cs : List Char) :
    endTags (text ++ cs) = endTags cs := by
  induction text with
  | nil => rfl
  | cons c text ih =>
      obtain ⟨hc, htext⟩ := not_or.1 (mt List.mem_cons.2 h)
      rw [List.cons_append, endTags_cons_of_ne (Ne.symm hc), ih htext]

/-! ## end tags of rows -/

/-- The name space that a row names. -/
def spaceOf : Row → Option String
  | .start _ space => space
  | .field _ _ => none
  | .finish _ => none

/-- A name space without an opening bracket. -/
def IsBareSpace (space : Option String) : Prop := ∀ s ∈ space, '<' ∉ s.toList

theorem isBareSpace_none : IsBareSpace none := fun _ h => nomatch h

theorem isBareSpace_some {space : String} (h : '<' ∉ space.toList) : IsBareSpace (some space) := by
  intro s hs
  cases hs
  exact h

/-- The names of tags are made of letters. -/
theorem not_mem_of_isTagName {name : String} (h : IsTagName name) {c : Char}
    (hc : c.isAlpha = false) : c ∉ name.toList := fun hmem => ne_of_isAlpha (h.2 c hmem) hc rfl

/-- An escaped value has no opening bracket. -/
theorem not_mem_escape (value : List Char) : '<' ∉ escape value := by
  intro hmem
  obtain ⟨c, -, hc⟩ := List.mem_flatMap.1 hmem
  obtain ⟨hplain, hchar⟩ | ⟨name, hname, hplain, -, -⟩ := Token.escapeChar_cases c
  · rw [hchar, List.mem_singleton] at hc
    rw [← hc] at hplain
    cases hplain
  · rw [hname] at hc
    have hin : '<' ∈ name := by simpa using hc
    have hlt := hplain '<' hin
    cases hlt

/-- A start tag is no end tag. -/
theorem endTags_startTag {name : String} {space : Option String} (h : IsTagName name)
    (hspace : IsBareSpace space) (cs : List Char) :
    endTags (Row.startTag name space ++ cs) = endTags cs := by
  have hattribute : '<' ∉ Row.spaceAttribute space := by
    cases space with
    | none => exact List.not_mem_nil
    | some s =>
        have hs : '<' ∉ s.toList := hspace s rfl
        simp [spaceAttribute_some, hs]
  have hopen : '<' ∉ name.toList ++ Row.spaceAttribute space ++ ['>'] := by
    simp [not_mem_of_isTagName h, hattribute]
  have htag : Row.startTag name space ++ cs =
      '<' :: (name.toList ++ Row.spaceAttribute space ++ ['>'] ++ cs) := by
    simp [Row.startTag]
  obtain ⟨c, tail, hname⟩ := List.exists_cons_of_ne_nil h.1
  have hc : c ≠ '/' := by
    rintro rfl
    exact not_mem_of_isTagName h rfl (hname ▸ List.mem_cons_self)
  rw [hname] at htag hopen
  exact (congrArg endTags htag).trans
    ((endTags_bracket hc _).trans (endTags_append_of_not_mem hopen cs))

/-- The end tag of a profile counts, any other does not. -/
theorem endTags_endTag {name : String} (h : IsTagName name) (cs : List Char) :
    endTags (Row.endTag name ++ cs) = (if name = profileName then 1 else 0) + endTags cs := by
  have hclose : '<' ∉ '/' :: name.toList ++ ['>'] := by
    simp [not_mem_of_isTagName h]
  have htag : Row.endTag name ++ cs = '<' :: ('/' :: name.toList ++ ['>'] ++ cs) := by
    simp [Row.endTag]
  have hpart : (Row.endTag profileName).isPrefixOf ('<' :: ('/' :: name.toList ++ ['>'] ++ cs)) =
      decide (name = profileName) := by
    rw [Bool.eq_iff_iff, List.isPrefixOf_iff_prefix, decide_eq_true_eq]
    constructor
    · intro hprefix
      -- both names end at the first closing bracket
      have hnames : profileName.toList ++ '>' :: [] <+: name.toList ++ '>' :: cs := by
        simpa [Row.endTag] using hprefix
      obtain ⟨more, hmore⟩ := hnames
      have htake (a : List Char) (ha : '>' ∉ a) (b : List Char) :
          (a ++ '>' :: b).takeWhile (· != '>') = a := by
        rw [List.takeWhile_append_of_pos fun c hc => by
          simpa using fun heq : c = '>' => ha (heq ▸ hc)]
        simp
      have hequal := congrArg (List.takeWhile (· != '>')) hmore
      rw [List.append_assoc, List.cons_append, htake _ (by simp [profileName]),
        htake _ (not_mem_of_isTagName h rfl)] at hequal
      exact String.toList_inj.1 hequal.symm
    · rintro rfl
      exact ⟨cs, by simp [Row.endTag]⟩
  rw [htag, endTags, occurrences, hpart, ← endTags, endTags_append_of_not_mem hclose]
  simp

/-- **A row that fits inside a profile ends none.** -/
theorem endTags_render {row : Row} (hfits : Fits row) (hspace : IsBareSpace (spaceOf row))
    (depth : Nat) (cs : List Char) : endTags (row.render depth ++ cs) = endTags cs := by
  have hindent : '<' ∉ '\n' :: List.replicate (2 * depth) ' ' := by simp
  rw [Row.render, List.append_assoc, endTags_append_of_not_mem hindent]
  cases row with
  | start name space => exact endTags_startTag hfits.1 hspace cs
  | field name value =>
      rw [Row.body, List.append_assoc, List.append_assoc, endTags_startTag hfits.1 isBareSpace_none,
        endTags_append_of_not_mem (not_mem_escape _), endTags_endTag hfits.1, if_neg hfits.2,
        Nat.zero_add]
  | finish name => rw [Row.body, endTags_endTag hfits.1, if_neg hfits.2, Nat.zero_add]

/-! ## one profile -/

/-- No name space within a profile holds a bracket. -/
theorem isBareSpace_innerRows (p : Profile) : ∀ row ∈ innerRows p, IsBareSpace (spaceOf row.2) := by
  have hspace : IsBareSpace (some macSpace) := isBareSpace_some (by simp [macSpace])
  cases hhidden : p.hidden <;> cases hkey : p.passphrase <;>
    simp [innerRows, ssidRows, securityRows, keyRows, macRows, hhidden, hkey, spaceOf, hspace,
      isBareSpace_none]

/-- A profile without its end tag. -/
def opening (p : Profile) : List Char :=
  (Row.start "WLANProfile" (some profileSpace)).render 1 ++
    ((innerRows p).flatMap fun r => r.2.render r.1) ++ ['\n', ' ', ' ']

/-- A profile as it is written. -/
def block (p : Profile) : List Char := opening p ++ Row.endTag profileName

/-- The rows of a profile make up its block. -/
theorem profileRows_render (p : Profile) :
    (profileRows p).flatMap (fun r => r.2.render r.1) = block p := by
  rw [profileRows_eq, List.cons_append, List.flatMap_cons, List.flatMap_append,
    List.flatMap_singleton, block, opening, List.append_assoc, List.append_assoc]
  rfl

/-- The only end tag of a profile is its last part. -/
theorem endTags_opening (p : Profile) (cs : List Char) : endTags (opening p ++ cs) = endTags cs := by
  have hname : IsTagName "WLANProfile" := by simp [IsTagName]
  have hspace : IsBareSpace (some profileSpace) := isBareSpace_some (by simp [profileSpace])
  have hinner (rows : List (Nat × Row)) (h : ∀ row ∈ rows, Fits row.2 ∧ IsBareSpace (spaceOf row.2))
      (more : List Char) : endTags (rows.flatMap (fun r => r.2.render r.1) ++ more) = endTags more := by
    induction rows with
    | nil => rfl
    | cons row rows ih =>
        obtain ⟨⟨hfits, hbare⟩, hrows⟩ := List.forall_mem_cons.1 h
        rw [List.flatMap_cons, List.append_assoc, endTags_render hfits hbare, ih hrows]
  rw [opening, List.append_assoc, List.append_assoc, Row.render, List.append_assoc,
    endTags_append_of_not_mem (by simp), Row.body, endTags_startTag hname hspace,
    hinner _ fun row hrow => ⟨fits_innerRows p row hrow, isBareSpace_innerRows p row hrow⟩,
    endTags_append_of_not_mem (by simp)]

/-- Each block counts as one end tag. -/
theorem endTags_block (p : Profile) (cs : List Char) : endTags (block p ++ cs) = 1 + endTags cs := by
  have hname : IsTagName profileName := by simp [IsTagName, profileName]
  rw [block, List.append_assoc, endTags_opening, endTags_endTag hname, if_pos rfl]

namespace Walk

/-- A whole block is read as its profile. -/
theorem readFrom_block_append (p : Profile) (outer : List String) (done : List Profile)
    (rest : List Char) :
    (behind outer none done).readFrom (block p ++ rest) =
      (behind outer none (p.kept :: done)).readFrom rest := by
  rw [← profileRows_render, readFrom_profile]

/-- Before its end tag a profile is read in full, and not yet taken. -/
theorem readFrom_opening (p : Profile) (outer : List String) (done : List Profile)
    (rest : List Char) :
    (behind outer none done).readFrom (opening p ++ rest) =
      ((behind ("WLANProfile" :: outer) (some (fullDraft p)) done).push ['\n', ' ', ' ']).readFrom
        rest := by
  have hname : IsTagName "WLANProfile" := by simp [IsTagName]
  have hspace : IsSpaceName (some profileSpace) := isSpaceName_some (by simp [profileSpace])
  have hinner := readFrom_follow (fits_innerRows p) (follow_innerRows outer p) done
    (['\n', ' ', ' '] ++ rest)
  rw [opening, List.append_assoc, List.append_assoc, readFrom_start hname hspace]
  refine hinner.trans ?_
  rw [readFrom_text (by simp [Token.isPlain])]

/-- **A profile that is cut off is no profile.** -/
theorem readFrom_block {p : Profile} {front : List Char} (hfront : front <+: block p)
    (hne : front ≠ block p) (outer : List String) (done : List Profile) :
    endTags front = 0 ∧
      ((∃ f, (behind outer none done).readFrom front = .error f) ∨
        (behind outer none done).readFrom front = .ok done.reverse) := by
  have htag : Row.endTag profileName = '<' :: ('/' :: profileName.toList) ++ ['>'] := by
    simp [Row.endTag]
  constructor
  · have hshort : front <+: opening p ++ ('<' :: ('/' :: profileName.toList)) := by
      rw [block, htag, ← List.append_assoc] at hfront hne
      exact (List.prefix_concat_iff.1 hfront).resolve_left hne
    have hcount := occurrences_le_of_prefix (Row.endTag profileName) hshort
    rw [← endTags, ← endTags, endTags_opening] at hcount
    exact Nat.le_zero.1 hcount
  · have hopening : (behind outer none done).readFrom (opening p) = .ok done.reverse := by
      rw [← List.append_nil (opening p), readFrom_opening, readFrom]
      rfl
    rcases List.prefix_or_prefix_of_prefix hfront (List.prefix_append (opening p) _) with
      hshort | ⟨tail, rfl⟩
    · exact readFrom_of_prefix hshort hopening
    · cases tail with
      | nil => exact .inr (by rw [List.append_nil, hopening])
      | cons c cs =>
          rw [block, List.prefix_append_right_inj, htag] at hfront
          have hcut : cs <+: '/' :: profileName.toList := by
            have hlong : c :: cs ≠ '<' :: ('/' :: profileName.toList) ++ ['>'] := by
              rintro htail
              exact hne (by rw [htail, block, htag])
            have hshort := (List.prefix_concat_iff.1 hfront).resolve_left hlong
            exact (List.cons_prefix_cons.1 hshort).2
          obtain ⟨rfl, -⟩ := List.cons_prefix_cons.1 hfront
          left
          rw [readFrom_opening]
          refine readFrom_unclosed (fun hmem => ?_) ?_
          · have hin := hcut.subset hmem
            simp [profileName] at hin
          · cases cs with
            | nil => exact .inl rfl
            | cons d ds =>
                obtain ⟨rfl, -⟩ := List.cons_prefix_cons.1 hcut
                exact .inr rfl

/-! ## documents -/

/-- The profiles of a document and what stands behind them, cut off anywhere. -/
theorem readFrom_blocks (ps : List Profile) {front : List Char}
    (hfront : front <+: ps.flatMap block ++ (Row.finish "WLANProfiles").render 0)
    (done : List Profile) :
    endTags front ≤ ps.length ∧
      ((∃ f, (behind ["WLANProfiles"] none done).readFrom front = .error f) ∨
        (behind ["WLANProfiles"] none done).readFrom front =
          .ok (done.reverse ++ (ps.map Profile.kept).take (endTags front))) := by
  induction ps generalizing front done with
  | nil =>
      have hname : IsTagName "WLANProfiles" := by simp [IsTagName]
      have hcount : endTags front = 0 := by
        have hle := occurrences_le_of_prefix (Row.endTag profileName) hfront
        exact Nat.le_zero.1 hle
      have hend : (behind ["WLANProfiles"] none done).readFrom
          ([] ++ (Row.finish "WLANProfiles").render 0) = .ok done.reverse := by
        rw [List.nil_append, ← List.append_nil ((Row.finish "WLANProfiles").render 0),
          readFrom_render, Row.body, readFrom_endTag hname rfl]
        change (Walk.mk [] _).readFrom [] = _
        rw [readFrom]
        rfl
      rw [hcount, List.take_zero, List.append_nil]
      exact ⟨Nat.le_refl 0, readFrom_of_prefix hfront hend⟩
  | cons p ps ih =>
      rw [List.flatMap_cons, List.append_assoc] at hfront
      by_cases hwhole : block p <+: front
      · obtain ⟨tail, rfl⟩ := hwhole
        rw [List.prefix_append_right_inj] at hfront
        obtain ⟨hcount, hread⟩ := ih hfront (p.kept :: done)
        rw [endTags_block, readFrom_block_append, Nat.add_comm 1]
        refine ⟨Nat.succ_le_succ hcount, hread.imp_right fun hok => ?_⟩
        rw [hok]
        simp
      · have hshort := (List.prefix_or_prefix_of_prefix hfront
          (List.prefix_append (block p) _)).resolve_right hwhole
        have hne : front ≠ block p := fun heq => hwhole (heq ▸ List.prefix_refl _)
        obtain ⟨hcount, hread⟩ := readFrom_block hshort hne ["WLANProfiles"] done
        rw [hcount, List.take_zero, List.append_nil]
        exact ⟨Nat.zero_le _, hread⟩

end Walk

/-- What stands in front of the profiles. -/
def heading : List Char := declaration ++ (Row.start "WLANProfiles" none).render 0

/-- A document is a heading, its blocks and an end tag. -/
theorem write_eq (ps : List Profile) :
    (write ps).toList =
      heading ++ (ps.flatMap block ++ (Row.finish "WLANProfiles").render 0) := by
  have hblocks : (ps.flatMap profileRows).flatMap (fun r => r.2.render r.1) = ps.flatMap block := by
    rw [List.flatMap_assoc]
    simp only [profileRows_render]
  rw [write, String.toList_ofList, renderRows, rows, List.flatMap_append, List.flatMap_append,
    List.flatMap_singleton, List.flatMap_singleton, hblocks, heading, List.append_assoc,
    List.append_assoc]

/-- No profile ends in the heading. -/
theorem endTags_heading (cs : List Char) : endTags (heading ++ cs) = endTags cs := by
  have hname : IsTagName "WLANProfiles" := by simp [IsTagName]
  have hdeclaration : declaration = '<' :: '?' :: declaration.drop 2 := rfl
  have hplain : '<' ∉ '?' :: declaration.drop 2 := by decide
  rw [heading, hdeclaration, List.append_assoc]
  calc endTags ('<' :: '?' :: (declaration.drop 2 ++
        ((Row.start "WLANProfiles" none).render 0 ++ cs)))
    _ = endTags ('?' :: declaration.drop 2 ++ ((Row.start "WLANProfiles" none).render 0 ++ cs)) :=
        endTags_bracket (by decide) _
    _ = endTags ((Row.start "WLANProfiles" none).render 0 ++ cs) :=
        endTags_append_of_not_mem hplain _
    _ = endTags cs := by
        rw [Row.render, List.append_assoc, endTags_append_of_not_mem (by simp), Row.body,
          endTags_startTag hname isBareSpace_none]

/-- Behind the heading the reader stands within the list. -/
theorem Walk.readFrom_heading (rest : List Char) :
    Walk.readFrom {} (heading ++ rest) = (Walk.behind ["WLANProfiles"] none []).readFrom rest := by
  have hname : IsTagName "WLANProfiles" := by simp [IsTagName]
  rw [heading, List.append_assoc, Walk.readFrom_declaration]
  exact Walk.readFrom_start hname isSpaceName_none 0 [] none [] rest

/-- **A written document that was cut off yields no corrupted profile.**  Wherever it is cut, what
is left of it is at fault, or it gives exactly the first profiles of the whole document, as many as
it holds complete end tags of profiles. -/
theorem read_truncated (ps : List Profile) (n : Nat) :
    ∃ qs, read (write ps) = .ok qs ∧ endTags ((write ps).toList.take n) ≤ qs.length ∧
      ((∃ f, read (String.ofList ((write ps).toList.take n)) = .error f) ∨
        read (String.ofList ((write ps).toList.take n)) =
          .ok (qs.take (endTags ((write ps).toList.take n)))) := by
  refine ⟨ps.map Profile.kept, read_write ps, ?_⟩
  have hfront : (write ps).toList.take n <+: (write ps).toList := List.take_prefix _ _
  generalize (write ps).toList.take n = front at hfront ⊢
  rw [write_eq] at hfront
  have hhead : (String.ofList front).toList.head? ≠ some '\ufeff' := by
    rw [String.toList_ofList]
    cases front with
    | nil => simp
    | cons c cs =>
        obtain ⟨rfl, -⟩ := List.cons_prefix_cons.1 hfront
        rw [List.head?_cons]
        decide
  rw [Walk.read_eq hhead, String.toList_ofList, List.length_map]
  rcases List.prefix_or_prefix_of_prefix hfront (List.prefix_append heading _) with
    hshort | ⟨tail, rfl⟩
  · have hcount : endTags front = 0 := by
      have hle := occurrences_le_of_prefix (Row.endTag profileName) hshort
      exact Nat.le_zero.1 (Nat.le_trans hle (by decide +kernel))
    have hheading : Walk.readFrom {} heading = .ok [] := by
      rw [← List.append_nil heading, Walk.readFrom_heading, Walk.readFrom]
      rfl
    rw [hcount, List.take_zero]
    exact ⟨Nat.zero_le _, Walk.readFrom_of_prefix hshort hheading⟩
  · rw [List.prefix_append_right_inj] at hfront
    rw [endTags_heading, Walk.readFrom_heading]
    exact Walk.readFrom_blocks ps hfront []

end MacConsent.Document
