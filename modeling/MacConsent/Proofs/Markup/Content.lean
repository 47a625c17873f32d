import MacConsent.Proofs.Markup.Asides

/-!
# MacConsent.Proofs.Markup.Content

Documents as trees.  The content of a document, or of an element, is a sequence
of texts, references, parts without data, and elements; every element is closed,
and it holds content of its own.  A content has a spelling (`Content.spell`),
which is a document if all its parts can be told apart in it
(`Content.Spelled`), and it has the events that a reader of the document is told
(`Content.events`).
-/

namespace MacConsent.Markup

/-- The tags of an element. -/
structure Tag where
  /-- The full name, which both tags have. -/
  name : String
  /-- What follows the name in the start tag. -/
  attributes : List Char := []
  /-- The blanks that follow the name in the end tag. -/
  gap : List Char := []

/-- What goes by the name of the element inside a document. -/
def Tag.localName (tag : Tag) : String := Event.localName tag.name

/-- What stands between two tags, or in a document. -/
inductive Content
  | done
  | text (run : List Char) (rest : Content)
  /-- What stands between an ampersand and a semicolon. -/
  | reference (name : List Char) (rest : Content)
  | aside (part : Aside) (rest : Content)
  /-- An element with a start tag and an end tag, and what stands behind it. -/
  | element (tag : Tag) (inner rest : Content)

/-- The tags can be told apart from what stands between them and behind them. -/
structure Tag.Spelled (tag : Tag) : Prop where
  name : IsName tag.name
  attributes : IsAttributes tag.attributes
  /-- A slash would make it the tag of an empty element. -/
  openEnded : tag.attributes.getLast? ≠ some '/'
  gap : ∀ c ∈ tag.gap, Token.isTagBlank c = true

namespace Content

/-- How content is written. -/
def spell : Content → List Char
  | done => []
  | text run rest => run ++ rest.spell
  | reference name rest => '&' :: name ++ ';' :: rest.spell
  | aside part rest => part.spell ++ rest.spell
  | element tag inner rest =>
    '<' :: (tag.name.toList ++ tag.attributes ++ '>' :: (inner.spell ++
      '<' :: '/' :: (tag.name.toList ++ tag.gap ++ '>' :: rest.spell)))

/-- All parts can be told apart: no text and no reference begins something else, no part ends
before its end. -/
def Spelled : Content → Prop
  | done => True
  | text run rest => (∀ c ∈ run, Token.isPlain c = true) ∧ rest.Spelled
  | reference name rest =>
    (∀ c ∈ name, (c != ';' && Token.isPlain c) = true) ∧ rest.Spelled
  | aside part rest => part.Spelled ∧ rest.Spelled
  | element tag inner rest => tag.Spelled ∧ inner.Spelled ∧ rest.Spelled

/-- What a reader is told. -/
def events : Content → List Event
  | done => []
  | text run rest => .text run :: rest.events
  | reference name rest => .reference name :: rest.events
  | aside _ rest => .ignored :: rest.events
  | element tag inner rest =>
    .opened tag.name :: (inner.events ++ .closed tag.name :: rest.events)

/-- The content without the first character of its text. -/
def dropFirst : Content → Content
  | text [] rest => text [] rest.dropFirst
  | text (_ :: run) rest => text run rest
  | c => c

/-- A character that begins nothing but text is the first of the text. -/
theorem spell_dropFirst {c : Content} {d : Char} {cs : List Char} (hd : Token.isPlain d = true)
    (h : c.spell = d :: cs) : c.dropFirst.spell = cs := by
  have hlt : d ≠ '<' := by rintro rfl; exact absurd hd (by decide)
  have hamp : d ≠ '&' := by rintro rfl; exact absurd hd (by decide)
  induction c with
  | done => cases h
  | text run rest ih =>
      cases run with
      | nil => exact ih h
      | cons e run => exact (List.cons.inj h).2
  | reference name rest => exact absurd (List.cons.inj h).1.symm hamp
  | aside part rest =>
      cases part <;> exact absurd (List.cons.inj h).1.symm hlt
  | element tag inner rest => exact absurd (List.cons.inj h).1.symm hlt

theorem Spelled.dropFirst {c : Content} (h : c.Spelled) : c.dropFirst.Spelled := by
  induction c with
  | text run rest ih =>
      cases run with
      | nil => exact ⟨h.1, ih h.2⟩
      | cons d run => exact ⟨fun c hc => h.1 c (List.mem_cons_of_mem d hc), h.2⟩
  | _ => exact h

end Content

end MacConsent.Markup
