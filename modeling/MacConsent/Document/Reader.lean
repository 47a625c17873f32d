import MacConsent.Document.Draft
import MacConsent.Markup.Event
import MacConsent.Text.Blank

/-!
# MacConsent.Document.Reader

Reading profiles from a document. A reader follows the events of the document
with the local names of the open elements, the text since the last tag, and the
draft of the profile that it is in. A profile's start tag begins a draft afresh,
its end tag turns the draft into a profile, and any other end tag inside a draft
hands the text before it to the draft. What carries no data leaves the text as
it is.
-/

namespace MacConsent.Document

/-- Why a document cannot be read. -/
inductive Fault
  | markup (fault : Markup.Fault)
  | content (fault : ContentFault)
deriving DecidableEq, Repr

/-- The element that holds a profile. -/
def profileName : String := "WLANProfile"

/-- The text that a reference stands for: a character by number, or one of five by name. -/
def resolve : List Char → Except Fault Char
  | '#' :: number => (Markup.charOfNumber number).mapError fun f => .markup (.charRef f)
  | name =>
    match Markup.charOfName? name with
    | some c => .ok c
    | none => .error (.content (.unknownEntity (String.ofList name)))

/-- What is known on the way through a document. -/
structure Reader where
  /-- The local names of the open elements, innermost first. -/
  path : List String := []
  /-- The text since the last tag. -/
  text : String := ""
  draft : Option Draft := none
  /-- The profiles so far, last first. -/
  done : List Profile := []

namespace Reader

/-- A tag opens an element. -/
def enter (r : Reader) (name : String) : Reader :=
  { r with
    path := name :: r.path
    text := ""
    draft := if name = profileName then some {} else r.draft }

/-- More text. -/
def push (r : Reader) (content : String) : Reader := { r with text := r.text ++ content }

/-- The profile that was being read is complete. -/
def finish (r : Reader) : Except ContentFault Reader :=
  match r.draft with
  | none => .ok r
  | some draft =>
    match draft.profile? with
    | .error f => .error f
    | .ok p => .ok { r with draft := none, done := p :: r.done }

/-- The element `leaf` has ended inside the elements that are still open. -/
def take (r : Reader) (leaf : String) : Except ContentFault Reader :=
  match r.draft, r.path with
  | some draft, parent :: _ =>
    match Field.at? parent leaf with
    | none => .ok r
    | some field =>
      match draft.set field (String.ofList (Text.trim r.text.toList)) with
      | .error f => .error f
      | .ok draft => .ok { r with draft := some draft }
  | _, _ => .ok r

/-- A tag closes the innermost element. -/
def leave (r : Reader) : Except ContentFault Reader :=
  match r.path with
  | [] => .error .unbalancedEnd
  | leaf :: outer =>
    let r := { r with path := outer }
    let after := if leaf = profileName then r.finish else r.take leaf
    after.map fun r => { r with text := "" }

/-- Follows one event. -/
def step (r : Reader) : Markup.Event → Except Fault Reader
  | .opened name => .ok (r.enter (Markup.Event.localName name))
  | .text content => .ok (r.push (String.ofList content))
  | .reference name => (resolve name).map fun c => r.push c.toString
  | .closed _ => r.leave.mapError .content
  | .ignored => .ok r

/-- Follows events to the first fault. -/
def run (r : Reader) : List Markup.Event → Except Fault Reader
  | [] => .ok r
  | e :: es =>
    match r.step e with
    | .error f => .error f
    | .ok r => run r es

end Reader

/-- The profiles of a document in the order of their end tags, or its first fault. -/
def read (document : String) : Except Fault (List Profile) :=
  let events := Markup.Event.read document.toList
  match Reader.run {} events.items with
  | .error f => .error f
  | .ok r =>
    match events.fault with
    | some f => .error (.markup f)
    | none => .ok r.done.reverse

end MacConsent.Document
