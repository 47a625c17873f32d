import MacConsent.Pattern.Check
import MacConsent.Text.Pieces

/-!
# MacConsent.CommandLine.LogFilter

Whether a text is a filter for the log. A filter is a list of directives with
commas between. A directive is a level, the name of a part of the program, or a
name with a span in brackets, and may end in an equals sign and a level. A span
may have a field in braces, and a field a value; a value that is no number is a
pattern. What is no level by itself counts as a name, so few texts are no filter.

Where a directive is cut into its parts, the blanks around it do not count. Its
fields and its level are then taken from the text with its blanks, at the places
found without them. Places are counted in bytes.
-/

namespace MacConsent.CommandLine.LogFilter

/-- Why a text is no filter. -/
inductive Fault
  | directive
  | level
  | field (fault : Pattern.Fault)
deriving DecidableEq, Repr

/-- The wording of a fault. -/
def Fault.message : Fault → String
  | .directive => "invalid filter directive"
  | .level =>
    "error parsing level filter: expected one of \"off\", \"error\", \"warn\", \"info\", \"debug\", \"trace\", or a number 0-5"
  | .field .malformed => "invalid field filter: error building NFA"
  | .field .border =>
    "invalid field filter: unsupported regex feature for DFAs: cannot build DFAs for regexes with Unicode word boundaries; switch to ASCII word boundaries, or heuristically enable Unicode word boundaries or use a different regex engine"

/-! ## Levels -/

/-- Whether a text is a number from nought to five. -/
def isLevelNumber (cs : List Char) : Bool :=
  let digits :=
    match cs with
    | ['+'] => cs
    | '+' :: digits => digits
    | digits => digits
  match Decimal.readUnsigned 10 18446744073709551615 digits with
  | .ok n => decide (n ≤ 5)
  | .error _ => false

/-- Whether a text is a level; case does not matter, and no text is a level too. -/
def isLevel (cs : List Char) : Bool :=
  isLevelNumber cs ||
    ["", "off", "error", "warn", "info", "debug", "trace"].contains
      (String.ofList (cs.map Char.toLower))

/-! ## Places -/

/-- A text from a place on. -/
def dropBytes : Nat → List Char → List Char
  | 0, cs => cs
  | _ + 1, [] => []
  | n + 1, c :: cs => dropBytes (n + 1 - c.utf8Size) cs

/-- A text up to a place. -/
def takeBytes : Nat → List Char → List Char
  | 0, _ => []
  | _ + 1, [] => []
  | n + 1, c :: cs => c :: takeBytes (n + 1 - c.utf8Size) cs

/-! ## Fields -/

/-- Checks a field: a name, and after an equals sign a value that ends at the next one. -/
def checkField (cs : List Char) : Except Fault Unit :=
  match Text.pieces '=' cs with
  | _ :: value :: _ =>
    if Decimal.isReal value then .ok () else (Pattern.check value).mapError .field
  | _ => .ok ()

/-! ## Directives -/

/-- Whether a directive may begin with a character. -/
def beginsName (c : Char) : Bool :=
  c == '-' || c == ':' || c == '_' || Text.isAlphanumeric c

/-- What part of a directive is being read. -/
inductive Part
  | start
  | name
  | span
  /-- The field, from a place on. -/
  | field (begun : Nat)
  | fields
  | target
  /-- The level, from a place on. -/
  | level (begun : Nat)
deriving DecidableEq, Repr

/-- The part after one more character at a place of a directive. -/
def Part.next (directive : List Char) (place : Nat) (c : Char) : Part → Except Fault Part
  | .start => if c = '[' then .ok .span else if beginsName c then .ok .name else .error .directive
  | .name => .ok (if c = '=' then .level (place + 1) else if c = '[' then .span else .name)
  | .span =>
    .ok (if c = ']' then .target else if c = '\x7b' then .field (place + 1) else .span)
  | .field begun =>
    if c ≠ '\x7d' then .ok (.field begun)
    else if place = begun then .error .directive
    else (checkField (takeBytes (place - begun) (dropBytes begun directive))).map fun () => .fields
  | .fields => if c = ']' then .ok .target else .error .directive
  | .target => if c = '=' then .ok (.level (place + 1)) else .error .directive
  | .level begun => .ok (.level begun)

/-- Reads characters from a place on. -/
def readParts (directive : List Char) (place : Nat) (part : Part) : List Char → Except Fault Part
  | [] => .ok part
  | c :: cs =>
    match part.next directive place c with
    | .error fault => .error fault
    | .ok part => readParts directive (place + c.utf8Size) part cs

/-- Checks a directive. -/
def checkDirective (directive : List Char) : Except Fault Unit :=
  match readParts directive 0 .start (Text.trim directive) with
  | .error fault => .error fault
  | .ok (.level begun) => if isLevel (dropBytes begun directive) then .ok () else .error .level
  | .ok .name => .ok ()
  | .ok .target => .ok ()
  | .ok _ => .error .directive

/-- Checks a filter; empty directives are passed over. -/
def check (filter : String) : Except Fault Unit :=
  ((Text.pieces ',' filter.toList).filter (!·.isEmpty)).forM checkDirective

end MacConsent.CommandLine.LogFilter
