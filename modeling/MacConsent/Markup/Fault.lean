import MacConsent.Text.Decimal

/-!
# MacConsent.Markup.Fault

Why a document cannot be read as markup. A construct that is opened and not
closed is a fault of syntax; tags that do not match, and references that do not
end, leave a document ill-formed.
-/

namespace MacConsent.Markup

/-- Why a numeric reference names no character. -/
inductive CharRefFault
  | sign
  | digits (fault : Decimal.Fault)
  | zero
  | notScalar (code : Nat)
deriving DecidableEq, Repr

/-- The wording of a reference's fault. -/
def CharRefFault.message : CharRefFault → String
  | .sign => "unexpected number sign"
  | .digits fault => fault.message
  | .zero => "0x0 character is not permitted in XML"
  | .notScalar code =>
    "\x60" ++ String.ofList (Nat.toDigits 10 code) ++ "\x60 is not a valid codepoint"

/-- Why a document cannot be read on. -/
inductive Fault
  | unclosedTag
  | unknownMarkup
  | unclosedComment
  | unclosedCData
  | unclosedDoctype
  | unclosedInstruction
  | namelessDoctype
  | unclosedReference
  | unmatchedEnd (name : String)
  | mismatchedEnd (expected found : String)
  | charRef (fault : CharRefFault)
deriving DecidableEq, Repr

namespace Fault

/-- Something that is looked for up to the end of the document. -/
def notFound (thing close : String) : String :=
  thing ++ " not closed: \x60" ++ close ++ "\x60 not found before end of input"

/-- The wording of a fault. -/
def message : Fault → String
  | .unclosedTag => "syntax error: " ++ notFound "tag" ">"
  | .unknownMarkup => "syntax error: unknown or missed symbol in markup"
  | .unclosedComment => "syntax error: " ++ notFound "comment" "-->"
  | .unclosedCData => "syntax error: " ++ notFound "CDATA" "]]>"
  | .unclosedDoctype => "syntax error: " ++ notFound "DOCTYPE" ">"
  | .unclosedInstruction =>
    "syntax error: " ++ notFound "processing instruction or xml declaration" "?>"
  | .namelessDoctype =>
    "ill-formed document: \x60<!DOCTYPE>\x60 declaration does not contain a name of a document type"
  | .unclosedReference =>
    "ill-formed document: " ++ notFound "entity or character reference" ";"
  | .unmatchedEnd name =>
    "ill-formed document: close tag \x60</" ++ name ++ ">\x60 does not match any open tag"
  | .mismatchedEnd expected found =>
    "ill-formed document: expected \x60</" ++ expected ++ ">\x60, but \x60</" ++ found ++
      ">\x60 was found"
  | .charRef fault => "invalid character reference: " ++ fault.message

end Fault

/-- What was read of a document, and the fault that ended the reading, if one did. -/
structure Reading (α ε : Type) where
  items : List α
  fault : Option ε

end MacConsent.Markup
