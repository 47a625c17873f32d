import MacConsent.Markup.Token

/-!
# MacConsent.Markup.Event

A document as events: elements that open and close, and the text and references
between. An end tag has to carry the name of the element that was opened last;
blanks after the name do not count. Elements that are still open when the
document ends are no fault.
-/

namespace MacConsent.Markup

/-- What a reader of a document is told, in order. -/
inductive Event
  | opened (name : String)
  | text (content : List Char)
  | reference (name : List Char)
  | closed (name : String)
  | ignored
deriving DecidableEq, Repr

namespace Event

/-- The name at the start of a tag; it may be empty. -/
def tagName (content : List Char) : String :=
  String.ofList (content.takeWhile fun c => !Token.isTagBlank c)

/-- The name in an end tag. Blanks after it are left out, unless there is nothing else. -/
def endName (content : List Char) : String :=
  match content.reverse.dropWhile Token.isTagBlank with
  | [] => String.ofList content
  | name => String.ofList name.reverse

/-- The part of a name behind its first colon, or all of it. -/
def localName (name : String) : String :=
  match name.toList.dropWhile (· != ':') with
  | _ :: rest => String.ofList rest
  | [] => name

/-- The event of a token while the elements `opened` are open, innermost first, and the
elements that are open afterwards. -/
def ofToken (opened : List String) : Token → Except Fault (Event × List String)
  | .text content => .ok (.text content, opened)
  | .reference name => .ok (.reference name, opened)
  | .ignored => .ok (.ignored, opened)
  | .startTag content => .ok (.opened (tagName content), tagName content :: opened)
  | .endTag content =>
    let found := endName content
    match opened with
    | [] => .error (.unmatchedEnd found)
    | expected :: outer =>
      if found = expected then .ok (.closed found, outer)
      else .error (.mismatchedEnd expected found)

/-- Goes through tokens with the events so far, last first; `fault` is what ended the tokens. -/
def ofTokensFrom (fault : Option Fault) (done : List Event) (opened : List String) :
    List Token → Reading Event Fault
  | [] => ⟨done.reverse, fault⟩
  | t :: ts =>
    match ofToken opened t with
    | .error f => ⟨done.reverse, some f⟩
    | .ok (e, opened) => ofTokensFrom fault (e :: done) opened ts

/-- The events of a document. -/
def read (document : List Char) : Reading Event Fault :=
  let tokens := Token.scan document
  ofTokensFrom tokens.fault [] [] tokens.items

end Event

/-! ## References -/

/-- The character that a number names: hexadecimal digits behind an `x`, or decimal ones. -/
def charOfNumber (number : List Char) : Except CharRefFault Char :=
  let (base, digits) :=
    match number with
    | 'x' :: digits => (16, digits)
    | digits => (10, digits)
  if digits.head? = some '+' ∨ digits.head? = some '-' then .error .sign
  else
    match Decimal.readUnsigned base 4294967295 digits with
    | .error fault => .error (.digits fault)
    | .ok 0 => .error .zero
    | .ok code => if code.isValidChar then .ok (Char.ofNat code) else .error (.notScalar code)

/-- The character of one of the five names that every document knows. -/
def charOfName? : List Char → Option Char
  | ['l', 't'] => some '<'
  | ['g', 't'] => some '>'
  | ['a', 'm', 'p'] => some '&'
  | ['a', 'p', 'o', 's'] => some '\''
  | ['q', 'u', 'o', 't'] => some '"'
  | _ => none

end MacConsent.Markup
