import MacConsent.Proofs.Document.Walk

/-!
# MacConsent.Proofs.Document.Nesting

Elements inside elements.  Two stacks are kept while a document is read: the full names of the
open elements, which end tags are checked against, and their local names, which tell fields
apart.  A walk goes through the tokens with both (`Walk.run`), and every token leaves the second
stack the local names of the first (`Walk.Aligned.step`).

So an end tag that gets past the check finds an element to leave, and one that does not is the fault
that the reading ends with, unless it has ended before (`path_mirrors_elements`).
-/

namespace MacConsent.Document

open Markup (Token Event)

/-! ## faults of content -/

section Faults

variable {f : ContentFault}

/-- A value that is refused says why; it is no end tag too many. -/
theorem Draft.fault_of_set {d : Draft} {field : Field} {text : String}
    (h : d.set field text = .error f) : f ≠ .unbalancedEnd := by
  rintro rfl
  cases field with
  | id =>
      rw [set] at h
      split at h <;> cases h
  | authentication =>
      rw [set] at h
      split at h <;> cases h
  | _ => cases h

/-- A profile that is not complete lacks a field. -/
theorem Draft.fault_of_profile? {d : Draft} (h : d.profile? = .error f) : f ≠ .unbalancedEnd := by
  rintro rfl
  rw [profile?] at h
  split at h <;> cases h

/-- A profile that is incomplete is no unbalanced end. -/
theorem Reader.fault_of_finish {r : Reader} (h : r.finish = .error f) : f ≠ .unbalancedEnd := by
  unfold finish at h
  split at h
  · cases h
  · split at h
    · next hprofile =>
        cases h
        exact Draft.fault_of_profile? hprofile
    · cases h

/-- A value that is refused is no unbalanced end. -/
theorem Reader.fault_of_take {r : Reader} {leaf : String} (h : r.take leaf = .error f) :
    f ≠ .unbalancedEnd := by
  unfold take at h
  split at h
  · split at h
    · cases h
    · split at h
      · next hset =>
          cases h
          exact Draft.fault_of_set hset
      · cases h
  · cases h

/-- A reference that is refused is no unbalanced end. -/
theorem fault_of_resolve {name : List Char} {g : Fault} (h : resolve name = .error g) :
    g ≠ .content .unbalancedEnd := by
  rintro rfl
  unfold resolve at h
  split at h
  · next number => cases hchar : Markup.charOfNumber number <;> rw [hchar] at h <;> cases h
  · split at h <;> cases h

end Faults

/-! ## the path of a reader -/

namespace Reader

variable {r r' : Reader} {leaf : String} {outer : List String}

/-- Leaving an element takes its name off the path. -/
theorem path_of_leave (hpath : r.path = leaf :: outer) (h : r.leave = .ok r') :
    r'.path = outer := by
  obtain ⟨_, _, behind, hpath', rfl, hfinish | htake⟩ := leave_cases h
  all_goals cases hpath.symm.trans hpath'
  · obtain rfl | ⟨d, p, -, -, rfl⟩ := finish_cases hfinish
    · rfl
    · rfl
  · obtain rfl | ⟨d, field, d', -, -, rfl⟩ := take_cases htake
    · rfl
    · rfl

/-- **Only without an open element is there none to leave.** -/
theorem fault_of_leave (hpath : r.path = leaf :: outer) {f : ContentFault}
    (h : r.leave = .error f) : f ≠ .unbalancedEnd := by
  rw [leave_eq hpath] at h
  have hafter := map_eq_error h
  split at hafter
  · exact fault_of_finish hafter
  · exact fault_of_take hafter

end Reader

/-! ## both stacks -/

/-- The full names of the elements that are open behind a token, innermost first. -/
def openedAfter (opened : List String) : Token → List String
  | .startTag content => Event.tagName content :: opened
  | .endTag _ => opened.tail
  | _ => opened

/-- The full names of the elements that tokens open and do not end, innermost first; names of end
tags do not count. -/
def openedBy (ts : List Token) : List String := ts.foldl openedAfter []

/-- What is wrong with an end tag of a name, inside open elements. -/
def endFault? (opened : List String) (found : String) : Option Markup.Fault :=
  match opened with
  | [] => some (.unmatchedEnd found)
  | expected :: _ => if found = expected then none else some (.mismatchedEnd expected found)

/-- An end tag is right if it names the element that was opened last. -/
theorem endFault?_eq_none_iff {opened : List String} {found : String} :
    endFault? opened found = none ↔ ∃ outer, opened = found :: outer := by
  cases opened with
  | nil => simp [endFault?]
  | cons expected outer => simp [endFault?, eq_comm]

/-- An end tag that passes the check closes the innermost element. -/
theorem ofToken_endTag (opened : List String) (content : List Char) :
    Event.ofToken opened (.endTag content) =
      match endFault? opened (Event.endName content) with
      | some f => .error f
      | none => .ok (.closed (Event.endName content), opened.tail) := by
  cases opened with
  | nil => rfl
  | cons expected outer =>
      by_cases h : Event.endName content = expected
      · simp [Event.ofToken, endFault?, h]
      · simp [Event.ofToken, endFault?, h]

namespace Walk

variable {w w' : Walk} {t : Token} {ts : List Token}

/-- Follows tokens, to the first fault. -/
def run (w : Walk) (ts : List Token) : Except Fault Walk := ts.foldlM step w

theorem run_cons (w : Walk) (t : Token) (ts : List Token) :
    w.run (t :: ts) = (w.step t).bind fun w => w.run ts := rfl

/-- Tokens are read one after the other. -/
theorem run_append (w : Walk) (ts us : List Token) :
    w.run (ts ++ us) = (w.run ts).bind fun w => w.run us := List.foldlM_append

/-- What a walk comes to behind the last token: the profiles, unless a fault has ended the
tokens. -/
def ending (fault : Option Markup.Fault) (w : Walk) : Except Fault (List Profile) :=
  match fault with
  | some f => .error (.markup f)
  | none => .ok w.reader.done.reverse

/-- The path of the reader has the local names of the elements that are open. -/
def Aligned (w : Walk) : Prop := w.reader.path = w.opened.map Event.localName

/-- An end tag that does not pass the check is a fault. -/
theorem step_of_endFault? {content : List Char} {f : Markup.Fault}
    (h : endFault? w.opened (Event.endName content) = some f) :
    w.step (.endTag content) = .error (.markup f) := by
  rw [step, ofToken_endTag, h]

/-- An end tag that passes the check leaves the innermost element. -/
theorem step_endTag {content : List Char}
    (h : endFault? w.opened (Event.endName content) = none) :
    w.step (.endTag content) =
      (w.reader.leave.mapError .content).map fun reader => ⟨w.opened.tail, reader⟩ := by
  rw [step, ofToken_endTag, h]
  dsimp only [Reader.step]
  cases w.reader.leave <;> rfl

/-- A reference stands for its character. -/
theorem step_reference (w : Walk) (name : List Char) :
    w.step (.reference name) =
      (resolve name).map fun c => { w with reader := w.reader.push c.toString } := by
  rw [step, Event.ofToken]
  dsimp only [Reader.step]
  cases resolve name <;> rfl

/-- What a token does to both stacks: a tag opens an element, or closes the innermost one, and
anything else leaves them alone. -/
theorem step_cases (h : w.step t = .ok w') :
    (∃ content, t = .startTag content ∧ w'.opened = Event.tagName content :: w.opened ∧
      w'.reader.path = Event.localName (Event.tagName content) :: w.reader.path) ∨
    (∃ content, t = .endTag content ∧ endFault? w.opened (Event.endName content) = none ∧
      w'.opened = w.opened.tail ∧ w.reader.leave = .ok w'.reader) ∨
    openedAfter w.opened t = w.opened ∧ w'.opened = w.opened ∧
      w'.reader.path = w.reader.path := by
  cases t with
  | startTag content =>
      cases h
      exact .inl ⟨content, rfl, rfl, rfl⟩
  | endTag content =>
      refine .inr (.inl ⟨content, rfl, ?_⟩)
      cases hfault : endFault? w.opened (Event.endName content) with
      | some f =>
          rw [step_of_endFault? hfault] at h
          cases h
      | none =>
          rw [step_endTag hfault] at h
          obtain ⟨reader, hleave, rfl⟩ := map_eq_ok h
          exact ⟨rfl, rfl, mapError_eq_ok hleave⟩
  | reference name =>
      rw [step_reference] at h
      obtain ⟨c, -, rfl⟩ := map_eq_ok h
      exact .inr (.inr ⟨rfl, rfl, rfl⟩)
  | _ =>
      cases h
      exact .inr (.inr ⟨rfl, rfl, rfl⟩)

/-- The open elements are those the tokens have opened. -/
theorem opened_of_step (h : w.step t = .ok w') : w'.opened = openedAfter w.opened t := by
  obtain ⟨content, rfl, hopened, -⟩ | ⟨content, rfl, -, hopened, -⟩ | ⟨hsame, hopened, -⟩ :=
    step_cases h
  · exact hopened
  · exact hopened
  · exact hopened.trans hsame.symm

/-- **An end tag that passes the check finds the local name of its element on the path.** -/
theorem Aligned.path_of_endFault? (haligned : w.Aligned) {found : String}
    (h : endFault? w.opened found = none) :
    w.reader.path = Event.localName found :: w.opened.tail.map Event.localName := by
  obtain ⟨outer, hopened⟩ := endFault?_eq_none_iff.1 h
  rw [haligned, hopened, List.map_cons, List.tail_cons]

/-- **No token sets the stacks apart**: what a start tag puts on one it puts on the other, and an
end tag takes from both. -/
theorem Aligned.step (haligned : w.Aligned) (h : w.step t = .ok w') : w'.Aligned := by
  obtain ⟨content, -, hopened, hpath⟩ | ⟨content, -, hfault, hopened, hleave⟩ |
    ⟨-, hopened, hpath⟩ := step_cases h
  · rw [Aligned, hpath, hopened, haligned, List.map_cons]
  · rw [Aligned, Reader.path_of_leave (haligned.path_of_endFault? hfault) hleave, hopened]
  · rw [Aligned, hpath, hopened, haligned]

/-- Where the stacks go together, no end tag is one too many for the reader. -/
theorem Aligned.fault_of_step (haligned : w.Aligned) {f : Fault} (h : w.step t = .error f) :
    f ≠ .content .unbalancedEnd := by
  cases t with
  | endTag content =>
      cases hfault : endFault? w.opened (Event.endName content) with
      | some g =>
          rw [step_of_endFault? hfault] at h
          cases h
          exact Fault.noConfusion
      | none =>
          have hpath := haligned.path_of_endFault? hfault
          rw [step_endTag hfault] at h
          obtain ⟨g, hleave, rfl⟩ := mapError_eq_error (map_eq_error h)
          exact fun hsame => Reader.fault_of_leave hpath hleave (Fault.content.inj hsame)
  | reference name =>
      rw [step_reference] at h
      exact fault_of_resolve (map_eq_error h)
  | _ => cases h

/-! ## whole documents -/

/-- What every step keeps, and what it says of its fault, holds of many. -/
theorem Aligned.run (haligned : w.Aligned) (h : w.run ts = .ok w') :
    w'.Aligned ∧ w'.opened = ts.foldl openedAfter w.opened := by
  induction ts generalizing w with
  | nil =>
      cases h
      exact ⟨haligned, rfl⟩
  | cons t ts ih =>
      rw [run_cons] at h
      cases hstep : w.step t with
      | error f =>
          rw [hstep] at h
          cases h
      | ok behind =>
          rw [hstep] at h
          obtain ⟨haligned', hopened⟩ := ih (haligned.step hstep) h
          exact ⟨haligned', by rw [hopened, opened_of_step hstep, List.foldl_cons]⟩

/-- **No run reports an unbalanced end.** -/
theorem Aligned.fault_of_run (haligned : w.Aligned) {f : Fault} (h : w.run ts = .error f) :
    f ≠ .content .unbalancedEnd := by
  induction ts generalizing w with
  | nil => cases h
  | cons t ts ih =>
      rw [run_cons] at h
      cases hstep : w.step t with
      | error g =>
          rw [hstep] at h
          cases h
          exact haligned.fault_of_step hstep
      | ok behind =>
          rw [hstep] at h
          exact ih (haligned.step hstep) h

/-- A reader that is told of tokens as events does what a walk does. -/
theorem conclude_eq (fault : Option Markup.Fault) (w : Walk) (ts : List Token) :
    conclude w.reader (Event.ofTokensFrom fault [] w.opened ts) =
      (w.run ts).bind (ending fault) := by
  induction ts generalizing w with
  | nil => cases fault <;> rfl
  | cons t ts ih =>
      rw [conclude_cons, run_cons]
      cases w.step t with
      | error f => rfl
      | ok behind => exact ih behind

/-- **Reading is a walk through the tokens.** -/
theorem read_eq_run (document : String) :
    Document.read document = (run {} (Token.scan document.toList).items).bind
      (ending (Token.scan document.toList).fault) :=
  conclude_eq _ {} _

end Walk

/-- **The path of the reader has the local names of the elements that are open**, at every token of
every document.  So an end tag that passes the check has an element to leave, and the reader never
comes to one too many: one that no element was opened for, or that does not carry the name of the
innermost one, is the fault that the reading ends with, unless it has ended before. -/
theorem path_mirrors_elements (document : String) :
    read document ≠ .error (.content .unbalancedEnd) ∧
    ∀ before after, (Token.scan document.toList).items = before ++ after →
      match Walk.run {} before with
      | .error f => read document = .error f
      | .ok w =>
        w.opened = openedBy before ∧
        w.reader.path = (openedBy before).map Event.localName ∧
        ∀ content rest, after = .endTag content :: rest →
          match endFault? (openedBy before) (Event.endName content) with
          | some f => read document = .error (.markup f)
          | none => ∃ outer, w.reader.path = Event.localName (Event.endName content) :: outer := by
  have hstart : Walk.Aligned {} := rfl
  refine ⟨fun hread => ?_, fun before after htokens => ?_⟩
  · rw [Walk.read_eq_run] at hread
    cases hrun : Walk.run {} (Token.scan document.toList).items with
    | error f =>
        rw [hrun] at hread
        cases hread
        exact hstart.fault_of_run hrun rfl
    | ok w =>
        rw [hrun] at hread
        cases hfault : (Token.scan document.toList).fault <;> rw [hfault] at hread <;> cases hread
  · have hread := Walk.read_eq_run document
    rw [htokens, Walk.run_append] at hread
    cases hrun : Walk.run {} before with
    | error f =>
        rw [hrun] at hread
        exact hread
    | ok w =>
        obtain ⟨haligned, hopened⟩ := hstart.run hrun
        refine ⟨hopened, haligned.trans (congrArg (List.map Event.localName) hopened), ?_⟩
        rintro content rest rfl
        cases hfault : endFault? (openedBy before) (Event.endName content) with
        | some f =>
            have hstep : w.step (.endTag content) = .error (.markup f) :=
              Walk.step_of_endFault? (hopened ▸ hfault)
            rw [hrun] at hread
            refine hread.trans ?_
            change (w.run (.endTag content :: rest)).bind _ = _
            rw [Walk.run_cons, hstep]
            rfl
        | none => exact ⟨_, haligned.path_of_endFault? (hopened ▸ hfault)⟩

/-- An end tag with the local name of the innermost element, but in the place of another. -/
theorem path_mirrors_elements_prefixed :
    (Token.scan "<a:b><c><b></a:b>".toList).items =
      [.startTag ['a', ':', 'b'], .startTag ['c'], .startTag ['b']] ++ [.endTag ['a', ':', 'b']] ∧
    read "<a:b><c><b></a:b>" = .error (.markup (.mismatchedEnd "b" "a:b")) := by
  have htokens : (Token.scan "<a:b><c><b></a:b>".toList).items =
      [.startTag ['a', ':', 'b'], .startTag ['c'], .startTag ['b']] ++ [.endTag ['a', ':', 'b']] := by
    decide +kernel
  obtain ⟨-, htag⟩ := (path_mirrors_elements "<a:b><c><b></a:b>").2 _ _ htokens
  exact ⟨htokens, htag.2 _ _ rfl⟩

end MacConsent.Document
