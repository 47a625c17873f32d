/-!
# MacConsent.Text.Blank

The blank characters (Unicode `White_Space`), the trimming of a text and its
division into words. A word is a run without blanks that cannot be made longer;
trimming takes the blanks off both ends and nothing else.
-/

namespace MacConsent.Text

/-- Whether a character is blank; there are twenty-five such characters. -/
def isBlank (c : Char) : Bool :=
  let n := c.toNat
  (9 ≤ n && n ≤ 13) || n == 0x20 || n == 0x85 || n == 0xA0 || n == 0x1680 ||
    (0x2000 ≤ n && n ≤ 0x200A) || n == 0x2028 || n == 0x2029 || n == 0x202F ||
    n == 0x205F || n == 0x3000

/-! ## Trimming -/

/-- A text without the blanks at its start. -/
def trimStart (cs : List Char) : List Char := cs.dropWhile isBlank

/-- A text without the blanks at its end. -/
def trimEnd (cs : List Char) : List Char := (cs.reverse.dropWhile isBlank).reverse

/-- A text without the blanks at its ends. -/
def trim (cs : List Char) : List Char := trimEnd (trimStart cs)

/-! ## Words -/

/-- Puts a character before a text of which the first, perhaps empty, word and the
others are known. -/
def wordStep (c : Char) (word : List Char) (rest : List (List Char)) :
    List Char × List (List Char) :=
  if isBlank c then ([], if word.isEmpty then rest else word :: rest) else (c :: word, rest)

/-- The words of a text, in order. -/
def words (cs : List Char) : List (List Char) :=
  let (word, rest) := cs.foldr (fun c s => wordStep c s.1 s.2) ([], [])
  if word.isEmpty then rest else word :: rest

end MacConsent.Text
