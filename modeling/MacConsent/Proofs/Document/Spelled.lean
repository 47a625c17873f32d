import MacConsent.Proofs.Document.Elements

/-!
# MacConsent.Proofs.Document.Spelled

Documents that are spelled trees are read as the trees say.  A walk over the
spelling of a content does what a reader does with the events of the content
(`readFrom_spell`), and the reader makes of them the profiles of the tree, or
stops at its first fault.  So the profiles of a document are those of its
elements, in order (`read_spell`).
-/

namespace MacConsent.Document

open Markup (Content Token)

/-! ## spelled content -/

/-- **A walk over a spelled content** does what the reader does with its events. -/
theorem Walk.readFrom_spell {c : Content} (h : c.Spelled) (w : Walk) (rest : List Char) :
    w.readFrom (c.spell ++ rest) =
      (w.reader.run c.events).bind fun r => (Walk.mk w.opened r).readFrom rest := by
  induction c generalizing w rest with
  | done => rfl
  | text run next ih =>
      rw [Content.spell, List.append_assoc, readFrom_text h.1, ih h.2, Content.events,
        Reader.run_cons]
      rfl
  | reference name next ih =>
      have htext : (Content.reference name next).spell ++ rest =
          '&' :: name ++ ';' :: (next.spell ++ rest) := by
        simp [Content.spell]
      rw [htext, readFrom_ref h.1, Content.events, Reader.run_cons]
      cases w.reader.step (.reference name) with
      | error fault => rfl
      | ok r => exact ih h.2 ⟨w.opened, r⟩ rest
  | aside part next ih =>
      obtain ⟨cs, htext, hcut⟩ := Token.cut_aside h.1 (next.spell ++ rest)
      rw [Content.spell, List.append_assoc, htext, readFrom_ignored hcut, ih h.2, Content.events,
        Reader.run_cons]
      rfl
  | element tag inner next ihInner ihNext =>
      obtain ⟨htag, hinner, hnext⟩ := h
      have htext : (Content.element tag inner next).spell ++ rest =
          '<' :: (tag.name.toList ++ tag.attributes ++ '>' :: (inner.spell ++
            '<' :: '/' :: (tag.name.toList ++ tag.gap ++ '>' :: (next.spell ++ rest)))) := by
        simp [Content.spell]
      rw [htext, readFrom_open htag.name htag.attributes htag.openEnded, ihInner hinner,
        Content.events, Reader.run_cons]
      change Except.bind (Reader.run (w.reader.enter tag.localName) inner.events) _ =
        Except.bind (Reader.run (w.reader.enter tag.localName) _) _
      rw [Reader.run_append]
      cases Reader.run (w.reader.enter tag.localName) inner.events with
      | error fault => rfl
      | ok r =>
          simp only [Except.bind]
          rw [readFrom_close htag.name htag.gap rfl, Reader.run_cons]
          cases r.step (.closed tag.name) with
          | error fault => rfl
          | ok r => exact ihNext hnext ⟨w.opened, r⟩ rest

/-! ## a byte order mark -/

theorem faults_dropFirst (c : Content) (live : Bool) (parent : String) :
    c.dropFirst.faults live parent = c.faults live parent := by
  induction c with
  | text run rest ih =>
      cases run with
      | nil => exact ih
      | cons d run => rfl
  | _ => rfl

theorem profileElements_dropFirst (c : Content) :
    c.dropFirst.profileElements = c.profileElements := by
  induction c with
  | text run rest ih =>
      cases run with
      | nil => exact ih
      | cons d run => rfl
  | _ => rfl

/-! ## spelled documents -/

theorem readFrom_document {c : Content} (h : c.Spelled) :
    Walk.readFrom {} c.spell = firstOr (c.faults false "") (profilesOf c) := by
  have hspell := Walk.readFrom_spell h {} []
  rw [List.append_nil, Reader.run_events c {} none rfl] at hspell
  rw [hspell, ← List.append_nil (c.faults false "")]
  refine firstOr_bind ?_
  rw [Walk.readFrom]
  simp [Reader.past, firstOr]

/-- A spelled document has the profiles of its elements, or its first fault. -/
theorem read_spell_eq {c : Content} (h : c.Spelled) :
    read (String.ofList c.spell) = firstOr (c.faults false "") (profilesOf c) := by
  rw [Walk.read_eq_readFrom, String.toList_ofList]
  unfold Walk.behindMark
  split
  · next cs hmark =>
      -- the mark is the first character of the text, which no element sees
      have hdrop : c.dropFirst.spell = cs := Content.spell_dropFirst (by decide) hmark
      rw [← hdrop, readFrom_document h.dropFirst, faults_dropFirst]
      simp only [profilesOf, Content.innermost, profileElements_dropFirst]
  · exact readFrom_document h

/-- A content without faults has a profile in each of its innermost elements. -/
theorem profileOf_of_no_faults {c : Content} {live : Bool} {parent : String}
    (h : c.faults live parent = []) :
    ∀ inner ∈ c.innermost, ∃ p, profileOf (inner.fields profileName) = .ok p := by
  induction c generalizing live parent with
  | done => exact List.forall_mem_nil _
  | text run rest ih => exact ih h
  | aside part rest ih => exact ih h
  | reference name rest ih => exact ih (List.append_eq_nil_iff.1 h).2
  | element tag inner rest ihInner ihRest =>
      rw [Content.faults] at h
      rw [innermost_element, List.forall_mem_append, List.forall_mem_append]
      split at h
      · next hname =>
          obtain ⟨hfront, hrest⟩ := List.append_eq_nil_iff.1 h
          obtain ⟨hinner, hmissing⟩ := List.append_eq_nil_iff.1 hfront
          refine ⟨⟨fun content hcontent => ?_, ihInner hinner⟩, ihRest hrest⟩
          split at hcontent
          · next hinside =>
              obtain rfl := List.mem_singleton.1 hcontent
              rw [hname, hinside.2] at hmissing
              cases hprofile : profileOf (content.fields profileName) with
              | ok p => exact ⟨p, rfl⟩
              | error fault =>
                  rw [hprofile] at hmissing
                  cases hmissing
          · cases hcontent
      · next hname =>
          obtain ⟨hfront, hrest⟩ := List.append_eq_nil_iff.1 h
          rw [if_neg fun hand => hname hand.1]
          exact ⟨⟨List.forall_mem_nil _, ihInner (List.append_eq_nil_iff.1 hfront).1⟩,
            ihRest hrest⟩

theorem map_ok_filterMap {α β ε : Type} {f : α → Except ε β} {xs : List α}
    (h : ∀ x ∈ xs, ∃ b, f x = .ok b) :
    (xs.filterMap fun x => (f x).toOption).map Except.ok = xs.map f := by
  induction xs with
  | nil => rfl
  | cons x xs ih =>
      obtain ⟨⟨b, hb⟩, hxs⟩ := List.forall_mem_cons.1 h
      simp [hb, Except.toOption, ← ih hxs]

/-- **A document is read as its tree says.**  It may consist of closed elements of any names,
texts, references, and parts without data, one inside another in any way.  If it has a fault, then
the first one in the order of the document is reported.  Otherwise each element that holds a
profile and no other inside gives its profile, in the order of the document; and if no profile is
inside another, then so does every element that holds a profile. -/
theorem read_spell (c : Content) (h : c.Spelled) :
    (∀ fault more, c.faults false "" = fault :: more →
      read (String.ofList c.spell) = .error fault) ∧
    (c.faults false "" = [] → ∃ ps, read (String.ofList c.spell) = .ok ps ∧
      ps.map Except.ok = c.innermost.map (fun inner => profileOf (inner.fields profileName)) ∧
      ((∀ inner ∈ c.profileElements, inner.hasProfile = false) →
        ps.map Except.ok =
          c.profileElements.map fun inner => profileOf (inner.fields profileName))) := by
  rw [read_spell_eq h]
  refine ⟨fun fault more hfaults => by rw [hfaults]; rfl, fun hfaults => ?_⟩
  have hprofiles : (profilesOf c).map Except.ok =
      c.innermost.map fun inner => profileOf (inner.fields profileName) :=
    map_ok_filterMap (profileOf_of_no_faults hfaults)
  refine ⟨profilesOf c, by rw [hfaults]; rfl, hprofiles, fun hflat => ?_⟩
  have hall : c.innermost = c.profileElements :=
    List.filter_eq_self.2 fun inner hinner => by rw [hflat inner hinner]; rfl
  rw [hprofiles, hall]

/-- An element without attributes that holds a text. -/
def leaf (name text : String) (rest : Content) : Content :=
  .element { name } (.text text.toList .done) rest

theorem spelled_leaf {name text : String} {rest : Content} (hname : Markup.IsName name)
    (htext : text.toList.all Token.isPlain = true) (hrest : rest.Spelled) :
    (leaf name text rest).Spelled :=
  ⟨⟨hname, Markup.isAttributes_nil, by simp, by simp⟩,
    ⟨List.all_eq_true.1 htext, trivial⟩, hrest⟩

/-- A document with all kinds of parts: a declaration, names with prefixes, a comment, a
character-data section, an empty element, references, a value behind a child, and fields that are
there twice. -/
def wildContent : Content :=
  .aside (.instruction "xml version='1.0'".toList) <|
  .element { name := "w:saved", attributes := " w=".toList ++ '"' :: ("a>b".toList ++ ['"']) }
    (.aside (.emptyElement "WLANProfile" []) <|
      .element { name := "w:WLANProfile", gap := [' '] }
        (leaf "networkId" "7" <|
          .element { name := "w:networkId" }
            (.text [' '] <| .reference "#50".toList <| .aside (.comment "-".toList) .done) <|
          .element { name := "SSID" }
            (.element { name := "name" }
              (.text "no".toList <| leaf "b" "no" <| .text ['A'] <|
                .aside (.characterData "<]".toList) <| .reference "amp".toList <| .text ['B'] .done)
              .done) <|
          .element { name := "authEncryption" } (leaf "authentication" "WPA2PSK" .done) <|
          .element { name := "sharedKey" }
            (leaf "keyMaterial" "key" <| leaf "keyMaterial" " " .done) .done)
        .done)
    .done

theorem spelled_wildContent : wildContent.Spelled := by
  have hattributes : Markup.IsAttributes (" w=".toList ++ '"' :: ("a>b".toList ++ ['"'])) :=
    ⟨.append (.of_plain (by simp)) (.quoted (.inr rfl) (by decide) .nil), by simp [Token.isTagBlank]⟩
  have htag {name : String} {gap : List Char} (hname : Markup.IsName name)
      (hgap : gap.all Token.isTagBlank = true) : Markup.Tag.Spelled { name, gap } :=
    ⟨hname, Markup.isAttributes_nil, by simp, List.all_eq_true.1 hgap⟩
  have hopen {mark body : List Char} (hmark : '>' ∈ mark) (hbody : '>' ∉ body) :
      ¬ mark <:+: body := fun hin => hbody (hin.subset hmark)
  have hdeclaration : ¬ ['?', '>'] <:+: '?' :: "xml version='1.0'".toList :=
    hopen (by decide) (by decide)
  have hcomment : ¬ ['-', '-', '>'] <:+: "-".toList := hopen (by decide) (by decide)
  have hdata : ¬ [']', ']', '>'] <:+: "<]".toList := hopen (by decide) (by decide)
  have hid : (Content.text [' '] <| .reference "#50".toList <|
      .aside (.comment "-".toList) .done).Spelled :=
    ⟨List.all_eq_true.1 rfl, List.all_eq_true.1 rfl, hcomment, trivial⟩
  have hname : (Content.text "no".toList <| leaf "b" "no" <| .text ['A'] <|
      .aside (.characterData "<]".toList) <| .reference "amp".toList <|
      .text ['B'] .done).Spelled :=
    ⟨List.all_eq_true.1 rfl, spelled_leaf (by decide) rfl
      ⟨List.all_eq_true.1 rfl, hdata, List.all_eq_true.1 rfl, List.all_eq_true.1 rfl, trivial⟩⟩
  have hkey : (leaf "keyMaterial" "key" <| leaf "keyMaterial" " " .done).Spelled :=
    spelled_leaf (by decide) rfl (spelled_leaf (by decide) rfl trivial)
  refine ⟨hdeclaration, ⟨by decide, hattributes, by decide, by simp⟩,
    ⟨⟨by decide, Markup.isAttributes_nil⟩, htag (by decide) rfl, ?_, trivial⟩, trivial⟩
  refine spelled_leaf (by decide) rfl ⟨htag (by decide) rfl, hid, ?_⟩
  exact ⟨htag (by decide) rfl, ⟨htag (by decide) rfl, hname, trivial⟩,
    htag (by decide) rfl, spelled_leaf (by decide) rfl trivial,
    htag (by decide) rfl, hkey, trivial⟩

/-- A wild document is read as its tree says. -/
theorem read_spell_wildContent :
    wildContent.Spelled ∧
    read (String.ofList wildContent.spell) =
      .ok
        [{ id := ⟨2, by decide, by decide⟩, ssid := "A&B", security := .wpa2
           passphrase := some "key", enabled := false }] := by
  have hfaults : wildContent.faults false "" = [] := by decide +kernel
  have hprofiles : wildContent.innermost.map (fun inner => profileOf (inner.fields profileName)) =
      [.ok { id := ⟨2, by decide, by decide⟩, ssid := "A&B", security := .wpa2
             passphrase := some "key", enabled := false }] := rfl
  obtain ⟨-, hread⟩ := read_spell wildContent spelled_wildContent
  obtain ⟨ps, hps, hmap, -⟩ := hread hfaults
  rw [hprofiles] at hmap
  obtain ⟨p, rfl, hp⟩ := List.map_eq_singleton_iff.1 hmap
  cases hp
  exact ⟨spelled_wildContent, hps⟩

end MacConsent.Document
