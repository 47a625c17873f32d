import MacConsent.Text.Blank
import MacConsent.Text.Decimal

/-!
# MacConsent.Pattern.Atom

The smallest parts of a regular expression: a character, a class given by a
letter, the dot, and a place in the text. A backslash takes the meaning from a
sign and gives one to a letter.

* A sign of ASCII stands for itself after a backslash, the angle brackets
  excepted, which are borders of words.
* A character may be given by its code point, in two, four or eight hexadecimal
  digits or between braces.
* References to groups and classes by a property of characters are not known.

Where a pattern is spaced, blanks and comments may stand between its signs.
-/

namespace MacConsent.Pattern

/-- How a pattern is read from some place on. -/
structure Mode where
  /-- Whether upper and lower case are taken for the same. -/
  caseless : Bool := false
  /-- Whether classes range over characters, and not over bytes. -/
  unicode : Bool := true
  /-- Whether blanks and comments are passed over. -/
  spaced : Bool := false
deriving DecidableEq, Repr

/-! ## Blanks and comments -/

/-- Passes over blanks and comments; a comment ends with its line. -/
def skipBlanks (inComment : Bool) : List Char → List Char
  | [] => []
  | c :: cs =>
    if inComment then skipBlanks (c != '\n') cs
    else if Text.isBlank c then skipBlanks false cs
    else if c = '#' then skipBlanks true cs
    else c :: cs

/-- Passes over what does not count in a mode. -/
def Mode.skip (m : Mode) (cs : List Char) : List Char := if m.spaced then skipBlanks false cs else cs

/-! ## Atoms -/

/-- A smallest part. -/
inductive Atom
  | char (c : Char)
  /-- A byte in two hexadecimal digits. -/
  | byte (c : Char)
  | any
  /-- Digits, blanks or word characters, or all others. -/
  | letterClass (negated : Bool)
  /-- A place in the text; whether it is seen by what is a word. -/
  | place (border : Bool)
deriving DecidableEq, Repr

/-- The signs that mean something without a backslash, or may come to. -/
def signs : List Char :=
  ['\\', '.', '+', '*', '?', '(', ')', '|', '[', ']', '\x7b', '\x7d', '^', '$', '#', '&', '-', '~']

/-- Whether a character stands for itself after a backslash. -/
def standsForItself (c : Char) : Bool :=
  signs.contains c ||
    (decide (c.toNat < 0x80) && !c.isAlphanum && c != '<' && c != '>')

/-! ## Code points -/

/-- The character of a code point in hexadecimal digits. -/
def charOfDigits? (digits : List Char) : Option Char :=
  match Decimal.readUnsigned 16 0x10FFFF digits with
  | .error _ => none
  | .ok n => if n.isValidChar then some (Char.ofNat n) else none

/-- So many hexadecimal digits, and the rest. -/
def takeDigits (m : Mode) : Nat → List Char → Option (List Char × List Char)
  | 0, cs => some ([], cs)
  | _ + 1, [] => none
  | n + 1, c :: cs =>
    if (Decimal.digit? 16 c).isSome then
      (takeDigits m n (m.skip cs)).map fun (digits, rest) => (c :: digits, rest)
    else none

/-- Hexadecimal digits up to a closing brace, and the rest. Each round takes a character, so as
many rounds as there are characters are enough. -/
def takeBraced (m : Mode) : Nat → List Char → Option (List Char × List Char)
  | 0, _ => none
  | fuel + 1, cs =>
    match m.skip cs with
    | [] => none
    | '\x7d' :: rest => some ([], rest)
    | c :: rest =>
      if (Decimal.digit? 16 c).isSome then
        (takeBraced m fuel rest).map fun (digits, rest) => (c :: digits, rest)
      else none

/-- A character by its code point; `count` is the number of digits without braces. -/
def readCodePoint (m : Mode) (count : Nat) (cs : List Char) : Option (Atom × List Char) :=
  match m.skip cs with
  | '\x7b' :: rest => do
    let (digits, rest) ← takeBraced m (rest.length + 1) rest
    return (.char (← charOfDigits? digits), rest)
  | cs => do
    let (digits, rest) ← takeDigits m count cs
    let c ← charOfDigits? digits
    return (if count = 2 then .byte c else .char c, rest)

/-! ## Borders of words -/

/-- Whether a character may stand in the name of a border. -/
def isBorderName (c : Char) : Bool := c.isAlpha || c == '-'

/-- The characters of a name up to the first that belongs to none, and the rest. -/
def takeName (m : Mode) : Nat → List Char → List Char × List Char
  | 0, cs => ([], cs)
  | fuel + 1, cs =>
    match cs with
    | [] => ([], [])
    | c :: rest =>
      if isBorderName c then
        let (name, rest) := takeName m fuel (m.skip rest)
        (c :: name, rest)
      else ([], cs)

/-- The names of the borders that are narrower than others. -/
def borderNames : List String := ["start", "end", "start-half", "end-half"]

/-- What follows the letter of a border: a name between braces, or a count, which is left. -/
def readBorder (m : Mode) (cs : List Char) : Option (Atom × List Char) :=
  match cs with
  | '\x7b' :: rest =>
    match m.skip rest with
    | [] => none
    | c :: inner =>
      if isBorderName c then
        match takeName m (rest.length + 1) (c :: inner) with
        | (name, '\x7d' :: rest) =>
          if borderNames.contains (String.ofList name) then some (.place true, rest) else none
        | _ => none
      else some (.place true, cs)
  | cs => some (.place true, cs)

/-! ## Reading -/

/-- What a letter means after a backslash; digits and other letters mean nothing. -/
def readLetter (m : Mode) (c : Char) (cs : List Char) : Option (Atom × List Char) :=
  if c = 'x' then readCodePoint m 2 cs
  else if c = 'u' then readCodePoint m 4 cs
  else if c = 'U' then readCodePoint m 8 cs
  else if ['d', 's', 'w'].contains c then some (.letterClass false, cs)
  else if ['D', 'S', 'W'].contains c then some (.letterClass true, cs)
  else if c = 'a' then some (.char '\x07', cs)
  else if c = 'f' then some (.char '\x0c', cs)
  else if c = 't' then some (.char '\t', cs)
  else if c = 'n' then some (.char '\n', cs)
  else if c = 'r' then some (.char '\r', cs)
  else if c = 'v' then some (.char '\x0b', cs)
  else if c = 'A' ∨ c = 'z' then some (.place false, cs)
  else if c = 'b' then readBorder m cs
  else if c = 'B' ∨ c = '<' ∨ c = '>' then some (.place true, cs)
  else none

/-- What follows a backslash. -/
def readEscape (m : Mode) : List Char → Option (Atom × List Char)
  | [] => none
  | c :: cs => if standsForItself c then some (.char c, cs) else readLetter m c cs

end MacConsent.Pattern
