import MacConsent.Document.Reader
import MacConsent.Proofs.Markup.Content
import MacConsent.Proofs.Trim

/-!
# MacConsent.Proofs.Document.Outline

The profiles of a document, read off its tree.  Names are local names here.

1. The value of an element is its text behind its last child, trimmed and with
   references resolved; parts without data are no children (`Content.tail`).
2. An element is a field of a profile if the names of its parent and its own are
   those of the field; of several the one that is closed last counts, and of
   passphrases the last that is not empty (`value?`).
3. A field that is not there has its default, except for the id, the name and the
   authentication, which every profile has to have (`profileOf`).
4. A document is at fault where a reference stands for nothing, where an id or an
   authentication cannot be read, and where a profile ends that lacks one of the
   three (`Content.faults`, in the order of the document).

A profile inside another takes the place of the outer one, of which nothing is
read any more.
-/

namespace MacConsent

open Markup (Content)

/-! ## the tree of a document -/

namespace Markup.Content

/-- Whether an element stands among the content. -/
def hasElement : Content → Bool
  | done => false
  | text _ rest | reference _ rest | aside _ rest => rest.hasElement
  | element _ _ _ => true

/-- The text behind the last element. -/
def tail : Content → List Char
  | done => []
  | text run rest => if rest.hasElement then rest.tail else run ++ rest.tail
  | reference name rest =>
    if rest.hasElement then rest.tail
    else (Document.resolve name).toOption.toList ++ rest.tail
  | aside _ rest | element _ _ rest => rest.tail

/-- The trimmed text behind the last element. -/
def value (c : Content) : String := Text.trimmed (String.ofList c.tail)

/-- The fields of a profile in the content of an element of the name `parent`, each with its
value, in the order in which they are closed. -/
def fields (parent : String) : Content → List (Document.Field × String)
  | done => []
  | text _ rest | reference _ rest | aside _ rest => rest.fields parent
  | element tag inner rest =>
    inner.fields tag.localName ++
      ((Document.Field.at? parent tag.localName).toList.map fun field => (field, inner.value)) ++
      rest.fields parent

/-- What stands in the elements that hold profiles, in the order of the document. -/
def profileElements : Content → List Content
  | done => []
  | text _ rest | reference _ rest | aside _ rest => rest.profileElements
  | element tag inner rest =>
    (if tag.localName = Document.profileName then [inner] else []) ++
      inner.profileElements ++ rest.profileElements

/-- Whether there is an element that holds a profile. -/
def hasProfile (c : Content) : Bool := !c.profileElements.isEmpty

/-- The elements that hold a profile and no other profile inside. -/
def innermost (c : Content) : List Content :=
  c.profileElements.filter fun inner => !inner.hasProfile

end Markup.Content

namespace Document

/-! ## a profile from its fields -/

/-- The value that counts of a field: the last one, and the last one that is not empty if the
field is the passphrase. -/
def value? (fields : List (Field × String)) (field : Field) : Option String :=
  ((fields.filter fun entry => entry.1 = field ∧ ¬ (field = .passphrase ∧ entry.2 = "")).map
    Prod.snd).getLast?

/-- The profile of fields with their values. -/
def profileOf (fields : List (Field × String)) : Except ContentFault Profile :=
  match (value? fields .id).bind NetworkId.ofText?, value? fields .name,
      (value? fields .authentication).bind Security.ofAuthentication? with
  | none, _, _ => .error (.missing .id)
  | some _, none, _ => .error (.missing .name)
  | some _, some _, none => .error (.missing .authentication)
  | some id, some ssid, some security =>
    .ok
      { id, ssid, security
        macPolicy :=
          if value? fields .randomization = some "false" then .disabled else .randomized
        passphrase := value? fields .passphrase
        hidden := value? fields .hidden = some "true"
        enabled := value? fields .mode = some "auto" }

/-! ## faults -/

/-- What is wrong with the value of a field, if anything is. -/
def fieldFault? (field : Field) (value : String) : Option ContentFault :=
  match field with
  | .id => if NetworkId.ofText? value = none then some (.badId value) else none
  | .authentication =>
    if Security.ofAuthentication? value = none then some (.unknownAuthentication value) else none
  | _ => none

/-- What went wrong, if anything did. -/
def faultsOf {ε α : Type} : Except ε α → List ε
  | .error fault => [fault]
  | .ok _ => []

end Document

/-- The faults of the content of an element of the name `parent`, in the order of the document;
`live` tells whether it is read for a profile. -/
def Markup.Content.faults (live : Bool) (parent : String) : Content → List Document.Fault
  | done => []
  | text _ rest | aside _ rest => rest.faults live parent
  | reference name rest => Document.faultsOf (Document.resolve name) ++ rest.faults live parent
  | element tag inner rest =>
    if tag.localName = Document.profileName then
      inner.faults true tag.localName ++
        (if inner.hasProfile then []
          else (Document.faultsOf (Document.profileOf (inner.fields tag.localName))).map .content) ++
        rest.faults false parent
    else
      let live' := live && !inner.hasProfile
      inner.faults live tag.localName ++
        (if live' then
            ((Document.Field.at? parent tag.localName).bind fun field =>
              Document.fieldFault? field inner.value).toList.map .content
          else []) ++
        rest.faults live' parent

end MacConsent
