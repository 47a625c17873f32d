import MacConsent.Proofs.Document.Outline
import MacConsent.Proofs.Document.Pieces

/-!
# MacConsent.Proofs.Document.Elements

A reader reads off a document what its tree says.  The reader keeps one path,
one text and one draft for the whole document; what it has made of them behind a
content depends on what they were before the content in a simple way
(`Reader.past`): the draft has the fields of the content besides those that it
had, or is gone if there was a profile inside.  The induction is on the content,
with the fields gathered so far generalized (`run_events`).
-/

namespace MacConsent.Document

open Markup (Content Event Token)

/-! ## the draft of gathered fields -/

/-- The draft that holds the fields gathered so far. -/
def draftOf (fields : List (Field × String)) : Draft where
  id := (value? fields .id).bind NetworkId.ofText?
  ssid := value? fields .name
  security := (value? fields .authentication).bind Security.ofAuthentication?
  macPolicy := if value? fields .randomization = some "false" then .disabled else .randomized
  passphrase := value? fields .passphrase
  hidden := value? fields .hidden = some "true"
  enabled := value? fields .mode = some "auto"

theorem draftOf_nil : draftOf [] = {} := by
  simp [draftOf, value?]

theorem profile?_draftOf (fields : List (Field × String)) :
    (draftOf fields).profile? = profileOf fields := rfl

/-- One more value of a field counts, unless it is an empty passphrase. -/
theorem value?_concat (fields : List (Field × String)) (field : Field) (value : String)
    (other : Field) :
    value? (fields ++ [(field, value)]) other =
      if field = other ∧ ¬ (other = .passphrase ∧ value = "") then some value
      else value? fields other := by
  by_cases h : field = other ∧ ¬ (other = .passphrase ∧ value = "")
  · rw [if_pos h, value?, List.filter_append, List.filter_cons_of_pos (by rwa [decide_eq_true_eq]),
      List.filter_nil, List.map_append]
    exact List.getLast?_concat
  · rw [if_neg h, value?, List.filter_append, List.filter_cons_of_neg (by rwa [decide_eq_true_eq]),
      List.filter_nil, List.append_nil, value?]

/-- A draft takes one more field if its value can be read. -/
theorem set_draftOf (fields : List (Field × String)) (field : Field) (value : String) :
    (draftOf fields).set field value =
      match fieldFault? field value with
      | some fault => .error fault
      | none => .ok (draftOf (fields ++ [(field, value)])) := by
  have hflag (flag : String) : (value == flag) = decide (value = flag) := rfl
  cases field with
  | id =>
      simp only [Draft.set, fieldFault?, draftOf, value?_concat]
      cases h : NetworkId.ofText? value <;> simp [h]
  | authentication =>
      simp only [Draft.set, fieldFault?, draftOf, value?_concat]
      cases h : Security.ofAuthentication? value <;> simp [h]
  | passphrase =>
      simp only [Draft.set, fieldFault?, draftOf, value?_concat]
      by_cases h : value = "" <;> simp [h]
  | name => simp [Draft.set, fieldFault?, draftOf, value?_concat]
  | hidden => simp [Draft.set, fieldFault?, draftOf, value?_concat, hflag]
  | mode => simp [Draft.set, fieldFault?, draftOf, value?_concat, hflag]
  | randomization => simp [Draft.set, fieldFault?, draftOf, value?_concat]

/-! ## the first fault -/

/-- A result, unless there are faults; then the first of them. -/
def firstOr {ε α : Type} (faults : List ε) (a : α) : Except ε α :=
  match faults with
  | [] => .ok a
  | fault :: _ => .error fault

/-- What comes after the first faults is at fault behind them. -/
theorem firstOr_bind {ε α β : Type} {faults more : List ε} {a : α} {b : β} {k : α → Except ε β}
    (h : k a = firstOr more b) : (firstOr faults a).bind k = firstOr (faults ++ more) b := by
  cases faults with
  | nil => exact h
  | cons fault faults => rfl

theorem mapError_ok {ε ε' α : Type} (f : ε → ε') (a : α) :
    (Except.ok a : Except ε α).mapError f = .ok a := rfl

theorem mapError_error {ε ε' α : Type} (f : ε → ε') (e : ε) :
    (Except.error e : Except ε α).mapError f = .error (f e) := rfl

namespace Reader

theorem run_cons (r : Reader) (e : Event) (es : List Event) :
    r.run (e :: es) = (r.step e).bind fun r => r.run es := by
  rw [run]
  cases r.step e <;> rfl

/-- Events are read one after the other. -/
theorem run_append (r : Reader) (es es' : List Event) :
    r.run (es ++ es') = (r.run es).bind fun r => r.run es' := by
  induction es generalizing r with
  | nil => rfl
  | cons e es ih =>
      rw [List.cons_append, run_cons, run_cons]
      cases r.step e with
      | error fault => rfl
      | ok r => exact ih r

/-! ## end tags -/

variable {r : Reader} {leaf : String} {outer : List String}

/-- The end tag of a profile turns what was gathered into the profile. -/
theorem step_closed_profile (gathered : Option (List (Field × String)))
    (hpath : r.path = profileName :: outer) (hdraft : r.draft = gathered.map draftOf)
    (name : String) :
    r.step (.closed name) =
      firstOr ((gathered.elim [] fun fields => faultsOf (profileOf fields)).map .content)
        { r with
          path := outer
          text := ""
          draft := none
          done := (gathered.bind fun fields => (profileOf fields).toOption).toList ++ r.done } := by
  cases gathered with
  | none =>
      simp [step, leave, hpath, finish, hdraft, firstOr, Except.map, mapError_ok]
  | some fields =>
      cases hprofile : profileOf fields <;>
        simp [step, leave, hpath, finish, hdraft, profile?_draftOf, hprofile, faultsOf, firstOr,
          Except.map, mapError_ok, mapError_error, Except.toOption]

/-- The end tag of another element hands its value to what was gathered, if that is a field. -/
theorem step_closed_field (gathered : Option (List (Field × String)))
    (hpath : r.path = leaf :: outer) (hleaf : leaf ≠ profileName)
    (hdraft : r.draft = gathered.map draftOf) (name : String) :
    r.step (.closed name) =
      firstOr
        ((if gathered.isSome then
            ((Field.at? (outer.headD "") leaf).bind fun field =>
              fieldFault? field (Text.trimmed r.text)).toList
          else []).map .content)
        { r with
          path := outer
          text := ""
          draft := (gathered.map fun fields => fields ++
            (Field.at? (outer.headD "") leaf).toList.map
              fun field => (field, Text.trimmed r.text)).map draftOf } := by
  have hstep : r.step (.closed name) =
      ((({ r with path := outer } : Reader).take leaf).map
        fun r => { r with text := "" }).mapError .content := by
    simp only [step, leave, hpath, if_neg hleaf]
  rw [hstep, take]
  cases gathered with
  | none => simp [hdraft, firstOr, Except.map, mapError_ok]
  | some fields =>
      cases outer with
      | nil =>
          have hnone : Field.at? "" leaf = none := rfl
          simp [hdraft, hnone, firstOr, Except.map, mapError_ok]
      | cons parent outer =>
          cases hfield : Field.at? parent leaf with
          | none => simp [hdraft, hfield, firstOr, Except.map, mapError_ok]
          | some field =>
              have hset : (draftOf fields).set field (String.ofList (Text.trim r.text.toList)) =
                  _ := set_draftOf fields field (Text.trimmed r.text)
              cases hfault : fieldFault? field (Text.trimmed r.text) <;> rw [hfault] at hset <;>
                simp [hdraft, hfield, hset, hfault, firstOr, Except.map, mapError_ok, mapError_error]

end Reader

/-! ## profiles inside a content -/

/-- The profiles of a content, without those that are at fault. -/
def profilesOf (c : Content) : List Profile :=
  c.innermost.filterMap fun inner => (profileOf (inner.fields profileName)).toOption

/-- Where there is no profile, none is innermost. -/
theorem innermost_of_not_hasProfile {c : Content} (h : c.hasProfile = false) : c.innermost = [] := by
  have hnil : c.profileElements = [] := by simpa [Content.hasProfile] using h
  rw [Content.innermost, hnil]
  rfl

/-- Where there is no profile element, no profile is read. -/
theorem profilesOf_of_not_hasProfile {c : Content} (h : c.hasProfile = false) :
    profilesOf c = [] := by
  rw [profilesOf, innermost_of_not_hasProfile h, List.filterMap_nil]

/-- A profile element is the element itself, within it or behind it. -/
theorem hasProfile_element (tag : Markup.Tag) (inner rest : Content) :
    (Content.element tag inner rest).hasProfile =
      (decide (tag.localName = profileName) || inner.hasProfile || rest.hasProfile) := by
  rw [Content.hasProfile, Content.profileElements, Content.hasProfile, Content.hasProfile]
  by_cases h : tag.localName = profileName
  · simp [h]
  · cases inner.profileElements <;> simp [h]

/-- A profile element that has no other within is an innermost one. -/
theorem innermost_element (tag : Markup.Tag) (inner rest : Content) :
    (Content.element tag inner rest).innermost =
      (if tag.localName = profileName ∧ inner.hasProfile = false then [inner] else []) ++
        inner.innermost ++ rest.innermost := by
  rw [Content.innermost, Content.profileElements, List.filter_append, List.filter_append]
  by_cases h : tag.localName = profileName <;> cases hinner : inner.hasProfile <;>
    simp [h, hinner, Content.innermost]

/-- A profile comes from an element that holds no other, or from inside. -/
theorem profilesOf_element (tag : Markup.Tag) (inner rest : Content) :
    profilesOf (.element tag inner rest) =
      (if tag.localName = profileName ∧ inner.hasProfile = false then
          (profileOf (inner.fields profileName)).toOption.toList
        else []) ++ profilesOf inner ++ profilesOf rest := by
  rw [profilesOf, innermost_element, List.filterMap_append, List.filterMap_append]
  split
  · cases h : (profileOf (inner.fields profileName)).toOption <;> simp [profilesOf, h]
  · rfl

namespace Reader

/-- What a reader is behind a content, if the content has no faults; `gathered` are the fields
that it had before. -/
def past (r : Reader) (gathered : Option (List (Field × String))) (c : Content) : Reader where
  path := r.path
  text := if c.hasElement then String.ofList c.tail else r.text ++ String.ofList c.tail
  draft := (if c.hasProfile then none
    else gathered.map fun fields => fields ++ c.fields (r.path.headD "")).map draftOf
  done := (profilesOf c).reverse ++ r.done

/-- Text is pushed to what has been gathered before it. -/
theorem past_text (r : Reader) (gathered : Option (List (Field × String))) (run : List Char)
    (rest : Content) :
    (r.push (String.ofList run)).past gathered rest = r.past gathered (.text run rest) := by
  simp only [past, push, Content.hasElement, Content.tail, Content.hasProfile,
    Content.profileElements, Content.fields, profilesOf, Content.innermost]
  split <;> simp [String.append_assoc]

/-- The text before an end tag is the value of the element. -/
theorem trimmed_past_enter (r : Reader) (gathered : Option (List (Field × String)))
    (name : String) (inner : Content) :
    Text.trimmed ((r.enter name).past gathered inner).text = inner.value := by
  rw [past, Content.value]
  split <;> simp [enter]

/-- The events of an element: those of the content between its tags, and those behind it. -/
theorem run_element {r inside behind : Reader} {tag : Markup.Tag} {inner rest : Content}
    {faults closing more : List Fault} {last : Reader}
    (hinner : (r.enter tag.localName).run inner.events = firstOr faults inside)
    (hclosed : inside.step (.closed tag.name) = firstOr closing behind)
    (hrest : behind.run rest.events = firstOr more last) :
    r.run (Content.element tag inner rest).events = firstOr (faults ++ closing ++ more) last := by
  rw [Content.events, run_cons]
  change (r.enter tag.localName).run (inner.events ++ .closed tag.name :: rest.events) = _
  rw [run_append, hinner, List.append_assoc]
  refine firstOr_bind ?_
  rw [run_cons, hclosed]
  exact firstOr_bind hrest

/-- What the reader makes of an element that may hold a profile. -/
theorem run_profile {r : Reader} {tag : Markup.Tag} {inner rest : Content}
    (gathered : Option (List (Field × String))) (hname : tag.localName = profileName)
    (hinner : (r.enter tag.localName).run inner.events =
      firstOr (inner.faults true tag.localName) ((r.enter tag.localName).past (some []) inner))
    (hrest : ∀ behind : Reader, behind.draft = none → behind.run rest.events =
      firstOr (rest.faults false (behind.path.headD "")) (behind.past none rest)) :
    r.run (Content.element tag inner rest).events =
      firstOr ((Content.element tag inner rest).faults gathered.isSome (r.path.headD ""))
        (r.past gathered (.element tag inner rest)) := by
  have hpath : ((r.enter tag.localName).past (some []) inner).path = profileName :: r.path := by
    rw [← hname]
    rfl
  cases hinside : inner.hasProfile with
  | true =>
      have hclosed := step_closed_profile none hpath (by simp [past, hinside]) tag.name
      rw [run_element hinner hclosed (hrest _ rfl)]
      congr 1
      · rw [Content.faults, if_pos hname, hinside]
        rfl
      · simp [past, Content.hasElement, Content.tail, hasProfile_element, profilesOf_element,
          hname, hinside, enter]
  | false =>
      have hclosed := step_closed_profile (some (inner.fields tag.localName)) hpath
        (by simp [past, hinside, enter]) tag.name
      rw [run_element hinner hclosed (hrest _ rfl)]
      congr 1
      · rw [Content.faults, if_pos hname, hinside]
        rfl
      · cases h : (profileOf (inner.fields tag.localName)).toOption <;>
          simp [past, Content.hasElement, Content.tail, hasProfile_element, profilesOf_element,
            profilesOf_of_not_hasProfile hinside, ← hname, hinside, enter, h]

/-- What the reader makes of any other element, which may hold a field. -/
theorem run_field {r : Reader} {tag : Markup.Tag} {inner rest : Content}
    (gathered : Option (List (Field × String))) (hname : tag.localName ≠ profileName)
    (hinner : (r.enter tag.localName).run inner.events =
      firstOr (inner.faults gathered.isSome tag.localName)
        ((r.enter tag.localName).past gathered inner))
    (hrest : ∀ (behind : Reader) (gathered : Option (List (Field × String))),
      behind.draft = gathered.map draftOf → behind.run rest.events =
        firstOr (rest.faults gathered.isSome (behind.path.headD "")) (behind.past gathered rest)) :
    r.run (Content.element tag inner rest).events =
      firstOr ((Content.element tag inner rest).faults gathered.isSome (r.path.headD ""))
        (r.past gathered (.element tag inner rest)) := by
  have hpath : ((r.enter tag.localName).past gathered inner).path = tag.localName :: r.path := rfl
  cases hinside : inner.hasProfile with
  | true =>
      have hclosed := step_closed_field none hpath hname (by simp [past, hinside]) tag.name
      rw [run_element hinner hclosed (hrest _ none rfl)]
      congr 1
      · rw [Content.faults, if_neg hname, hinside]
        simp
      · simp [past, Content.hasElement, Content.tail, hasProfile_element, profilesOf_element,
          hname, hinside, enter]
  | false =>
      have hclosed := step_closed_field (gathered.map fun fields => fields ++
        inner.fields tag.localName) hpath hname (by simp [past, hinside, enter]) tag.name
      rw [trimmed_past_enter] at hclosed
      rw [run_element hinner hclosed (hrest _ _ rfl)]
      congr 1
      · rw [Content.faults, if_neg hname, hinside]
        cases gathered <;> simp
      · cases gathered <;>
          simp [past, Content.hasElement, Content.tail, hasProfile_element, profilesOf_element,
            Content.fields, hname, hinside, enter]

/-- **A reader makes of the events of a content what the content says**, or it stops at the
first fault. -/
theorem run_events (c : Content) (r : Reader) (gathered : Option (List (Field × String)))
    (hdraft : r.draft = gathered.map draftOf) :
    r.run c.events =
      firstOr (c.faults gathered.isSome (r.path.headD "")) (r.past gathered c) := by
  induction c generalizing r gathered with
  | done =>
      have hpast : r.past gathered .done = r := by
        simp [past, Content.hasElement, Content.tail, Content.hasProfile,
          Content.profileElements, Content.fields, profilesOf, Content.innermost, ← hdraft]
      rw [hpast]
      rfl
  | text run rest ih =>
      rw [Content.events, run_cons, ← past_text]
      exact ih (r.push (String.ofList run)) gathered hdraft
  | aside part rest ih =>
      rw [Content.events, run_cons]
      exact ih r gathered hdraft
  | reference name rest ih =>
      rw [Content.events, run_cons, step, Content.faults]
      cases hname : resolve name with
      | error fault => rfl
      | ok d =>
          have hpush : r.push d.toString = r.push (String.ofList [d]) := by
            rw [Char.toString, String.singleton_eq_ofList]
          have hpast : r.past gathered (.reference name rest) = r.past gathered (.text [d] rest) := by
            simp [past, Content.hasElement, Content.tail, Content.hasProfile,
              Content.profileElements, Content.fields, profilesOf, Content.innermost, hname,
              Except.toOption]
          rw [hpast, ← past_text, ← hpush]
          exact ih (r.push d.toString) gathered hdraft
  | element tag inner rest ihInner ihRest =>
      by_cases hname : tag.localName = profileName
      · exact run_profile gathered hname
          (ihInner (r.enter tag.localName) (some []) (by simp [enter, hname, draftOf_nil]))
          fun behind => ihRest behind none
      · exact run_field gathered hname
          (ihInner (r.enter tag.localName) gathered (by simpa [enter, hname] using hdraft)) ihRest

end Reader

end MacConsent.Document
