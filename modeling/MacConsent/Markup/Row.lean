/-!
# MacConsent.Markup.Row

Documents that are written one tag or field to a row. A row is indented by two
blanks for each element around it and stands on a line of its own; a field holds
its value between its tags on that line. Five characters of a value are written
as references, so a value ends where its end tag begins.
-/

namespace MacConsent.Markup

/-- A character of a value. -/
def escapeChar (c : Char) : List Char :=
  if c = '<' then ['&', 'l', 't', ';']
  else if c = '>' then ['&', 'g', 't', ';']
  else if c = '&' then ['&', 'a', 'm', 'p', ';']
  else if c = '\'' then ['&', 'a', 'p', 'o', 's', ';']
  else if c = '"' then ['&', 'q', 'u', 'o', 't', ';']
  else [c]

/-- A value between tags. -/
def escape (value : List Char) : List Char := value.flatMap escapeChar

/-- A row of a document. -/
inductive Row
  /-- The start of an element, in the name space `space` if one is given. -/
  | start (name : String) (space : Option String)
  | field (name value : String)
  | finish (name : String)
deriving DecidableEq, Repr

namespace Row

/-- The attribute that puts an element into a name space. -/
def spaceAttribute : Option String → List Char
  | none => []
  | some space => " xmlns=\"".toList ++ space.toList ++ ['"']

/-- A start tag. -/
def startTag (name : String) (space : Option String) : List Char :=
  '<' :: name.toList ++ spaceAttribute space ++ ['>']

/-- An end tag. -/
def endTag (name : String) : List Char := '<' :: '/' :: name.toList ++ ['>']

/-- A row without its line break and indentation. -/
def body : Row → List Char
  | .start name space => startTag name space
  | .field name value => startTag name none ++ escape value.toList ++ endTag name
  | .finish name => endTag name

/-- A row on a line of its own, below `depth` elements. -/
def render (depth : Nat) (row : Row) : List Char :=
  '\n' :: List.replicate (2 * depth) ' ' ++ row.body

end Row

/-- The declaration that a document begins with. -/
def declaration : List Char := "<?xml version=\"1.0\" encoding=\"UTF-8\"?>".toList

/-- A document of rows, each with the number of elements around it. -/
def renderRows (rows : List (Nat × Row)) : List Char :=
  declaration ++ rows.flatMap fun r => r.2.render r.1

end MacConsent.Markup
