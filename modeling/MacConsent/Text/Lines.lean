import MacConsent.Text.Pieces

/-!
# MacConsent.Text.Lines

The lines of a text. A line feed ends a line, and a carriage return just before
it goes with it. What follows the last line feed is a line only if it is not
empty; there a carriage return stays.
-/

namespace MacConsent.Text

/-- A line without the carriage return that belongs to its end. -/
def dropReturn (line : List Char) : List Char :=
  if line.getLast? = some '\r' then line.dropLast else line

/-- The lines of a text. -/
def lines (cs : List Char) : List (List Char) :=
  let all := pieces '\n' cs
  let last := all.getLast (List.cons_ne_nil _ _)
  all.dropLast.map dropReturn ++ (if last.isEmpty then [] else [last])

end MacConsent.Text
