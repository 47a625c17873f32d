import MacConsent.Pattern.Brackets
import MacConsent.Text.Letters

/-!
# MacConsent.Pattern.Check

Whether a text is a regular expression that can be matched in one pass from left
to right. Nothing is matched here; of each part only what may rule the whole out
is kept.

* What the grammar does not allow is malformed: brackets without a partner, a
  repetition of nothing, an unknown escape, a group name that is taken.
* So is what needs tables of characters that are not there, what could match half
  a character, and what is nested too deep.
* A border between words cannot be found in one pass, since telling what is a word
  in any script takes more than a byte at a time.
-/

namespace MacConsent.Pattern

/-- Why a text cannot be matched. -/
inductive Fault
  | malformed
  | border
deriving DecidableEq, Repr

/-- What is known of a part. -/
structure Part where
  /-- How deep its parts are nested. -/
  depth : Nat
  /-- Whether it looks for a border between words of any script. -/
  border : Bool := false
  /-- Whether it may be repeated. -/
  repeatable : Bool := true
deriving DecidableEq, Repr

namespace Part

/-- Parts as one that is a level deeper. -/
def nest (ps : List Part) : Part := ⟨1 + deepest (ps.map depth), ps.any border, true⟩

/-- Parts one after another, last first. -/
def sequence : List Part → Part
  | [] => ⟨0, false, false⟩
  | [p] => p
  | ps => nest ps

/-- A part repeated up to `most` times; what is repeated no time is as good as not there. -/
def repeated (p : Part) (most : Option Nat) : Part :=
  ⟨1 + p.depth, p.border && most != some 0, true⟩

end Part

/-! ## Levels -/

/-- A group that is being read. -/
structure Level where
  mode : Mode
  /-- The alternatives that are complete. -/
  branches : List Part := []
  /-- The parts of the one that is not, last first. -/
  parts : List Part := []

namespace Level

/-- One more part. -/
def add (l : Level) (p : Part) : Level := { l with parts := p :: l.parts }

/-- The alternative is complete. -/
def branch (l : Level) : Level :=
  { l with branches := Part.sequence l.parts :: l.branches, parts := [] }

/-- What the group holds. -/
def part (l : Level) : Part :=
  match l.branches with
  | [] => Part.sequence l.parts
  | branches => Part.nest (Part.sequence l.parts :: branches)

/-- The last part is repeated. -/
def repeatLast (l : Level) (most : Option Nat) : Option Level :=
  match l.parts with
  | [] => none
  | p :: ps => if p.repeatable then some { l with parts := p.repeated most :: ps } else none

end Level

/-! ## Atoms -/

/-- The part that an atom makes. -/
def Atom.part? (m : Mode) : Atom → Option Part
  | .char _ => if m.caseless && m.unicode then none else some ⟨0, false, true⟩
  | .byte c =>
    if (m.caseless && m.unicode) || !m.holds c then none else some ⟨0, false, true⟩
  | .any => if m.unicode then some ⟨0, false, true⟩ else none
  | .letterClass negated => if m.unicode || negated then none else some ⟨0, false, true⟩
  | .place border => some ⟨0, border && m.unicode, true⟩

/-- An atom outside brackets. -/
def readAtom (m : Mode) : List Char → Option (Atom × List Char)
  | [] => none
  | '\\' :: cs => readEscape m cs
  | '.' :: cs => some (.any, cs)
  | '^' :: cs => some (.place false, cs)
  | '$' :: cs => some (.place false, cs)
  | c :: cs => some (.char c, cs)

/-! ## Repetitions -/

/-- The text without a sign that makes a repetition take as little as it can. -/
def dropLazy : List Char → List Char
  | '?' :: cs => cs
  | cs => cs

/-- Decimal digits, and the rest. -/
def takeDecimals (m : Mode) : Nat → List Char → List Char × List Char
  | 0, cs => ([], cs)
  | fuel + 1, cs =>
    match cs with
    | [] => ([], [])
    | c :: rest =>
      if c.isDigit then
        let (digits, rest) := takeDecimals m fuel (m.skip rest)
        (c :: digits, rest)
      else ([], cs)

/-- A count of thirty-two bits with blanks around it. -/
def readCount (m : Mode) (cs : List Char) : Option (Nat × List Char) :=
  let cs := cs.dropWhile Text.isBlank
  let (digits, rest) := takeDecimals m (cs.length + 1) cs
  match Decimal.readUnsigned 10 4294967295 digits with
  | .error _ => none
  | .ok n => some (n, m.skip (rest.dropWhile Text.isBlank))

/-- What follows an opening brace after a part: how often the part may be repeated, and the
rest. -/
def readRepetition (m : Mode) (cs : List Char) : Option (Option Nat × List Char) := do
  let close (least : Nat) (most : Option Nat) : List Char → Option (Option Nat × List Char)
    | '\x7d' :: rest =>
      if most.all (least ≤ ·) then some (most, dropLazy (m.skip rest)) else none
    | _ => none
  let (least, rest) ← readCount m (m.skip cs)
  match rest with
  | ',' :: rest =>
    match m.skip rest with
    | '\x7d' :: rest => close least none ('\x7d' :: rest)
    | rest => do
      let (most, rest) ← readCount m rest
      close least (some most) rest
  | rest => close least (some least) rest

/-! ## Groups -/

/-- The names of flags. -/
def flagNames : List Char := ['i', 'm', 's', 'U', 'u', 'R', 'x']

/-- The mode with a flag turned on or off; most flags do not matter here. -/
def Mode.set (m : Mode) (flag : Char) (on : Bool) : Mode :=
  if flag = 'i' then { m with caseless := on }
  else if flag = 'u' then { m with unicode := on }
  else if flag = 'x' then { m with spaced := on }
  else m

/-- Reads flags, given those so far, last first, up to a colon or a closing parenthesis: the mode
they make, whether there are any, whether it was a colon, and the rest. -/
def readFlags (m : Mode) (seen : List Char) : List Char → Option (Mode × Bool × Bool × List Char)
  | [] => none
  | c :: cs =>
    if c = ':' ∨ c = ')' then
      if seen.head? = some '-' then none else some (m, !seen.isEmpty, c == ':', cs)
    else if seen.contains c then none
    else if c = '-' then readFlags m (c :: seen) cs
    else if flagNames.contains c then readFlags (m.set c (!seen.contains '-')) (c :: seen) cs
    else none

/-- Whether a text may be the name of a group. -/
def isGroupName : List Char → Bool
  | [] => false
  | c :: cs =>
    (c == '_' || Text.isAlphabetic c) &&
      cs.all fun c => Text.isAlphanumeric c || ['_', '.', '[', ']'].contains c

/-- The name of a group up to an angle bracket, and the rest. -/
def readGroupName (cs : List Char) : Option (List Char × List Char) :=
  match cs.dropWhile (· != '>') with
  | _ :: rest =>
    let name := cs.takeWhile (· != '>')
    if isGroupName name then some (name, rest) else none
  | [] => none

/-- What an opening parenthesis begins. -/
inductive Opening
  /-- Flags for the rest of the group around them. -/
  | flags (m : Mode)
  | group (m : Mode)
  | named (name : List Char)

/-- What follows an opening parenthesis, and the rest. Looking ahead or back is not known. -/
def readOpening (m : Mode) (cs : List Char) : Option (Opening × List Char) :=
  match m.skip cs with
  | '?' :: '=' :: _ => none
  | '?' :: '!' :: _ => none
  | '?' :: '<' :: '=' :: _ => none
  | '?' :: '<' :: '!' :: _ => none
  | '?' :: 'P' :: '<' :: cs => (readGroupName cs).map fun (name, rest) => (.named name, rest)
  | '?' :: '<' :: cs => (readGroupName cs).map fun (name, rest) => (.named name, rest)
  | '?' :: cs =>
    match readFlags m [] cs with
    | none => none
    | some (m, _, true, rest) => some (.group m, rest)
    | some (m, true, false, rest) => some (.flags m, rest)
    | some (_, false, false, _) => none
  | cs => some (.group m, cs)

/-! ## The whole -/

/-- A pattern that is being read. -/
structure Reading where
  /-- The groups around the one at hand, innermost first. -/
  outer : List Level := []
  level : Level := { mode := {} }
  /-- The group names so far. -/
  names : List (List Char) := []

namespace Reading

/-- One more part. -/
def add (r : Reading) (p : Part) : Reading := { r with level := r.level.add p }

/-- A group begins. -/
def push (r : Reading) (m : Mode) : Reading :=
  { r with outer := r.level :: r.outer, level := { mode := m } }

/-- What an opening parenthesis begins. -/
def opening (r : Reading) : Opening → Option Reading
  | .flags m => some { r with level := { r.level.add ⟨0, false, false⟩ with mode := m } }
  | .group m => some (r.push m)
  | .named name =>
    if r.names.contains name then none
    else some { r.push r.level.mode with names := name :: r.names }

/-- A group ends. -/
def pop (r : Reading) : Option Reading :=
  match r.outer with
  | [] => none
  | l :: outer => some { r with outer, level := l.add (Part.nest [r.level.part]) }

/-- Reads one more thing; the rest is shorter. -/
def step (r : Reading) (cs : List Char) : Option (Reading × List Char) :=
  let m := r.level.mode
  let again (most : Option Nat) (rest : List Char) : Option (Reading × List Char) := do
    return ({ r with level := ← r.level.repeatLast most }, rest)
  match cs with
  | [] => none
  | '(' :: rest => do
    let (opening, rest) ← readOpening m rest
    return (← r.opening opening, rest)
  | ')' :: rest => do return (← r.pop, rest)
  | '|' :: rest => some ({ r with level := r.level.branch }, rest)
  | '[' :: rest => do
    let (p, rest) ← readSet m rest
    return (r.add ⟨p.depth, false, true⟩, rest)
  | '?' :: rest => again (some 1) (dropLazy rest)
  | '*' :: rest => again none (dropLazy rest)
  | '+' :: rest => again none (dropLazy rest)
  | '\x7b' :: rest => do
    let (most, rest) ← readRepetition m rest
    again most rest
  | cs => do
    let (atom, rest) ← readAtom m cs
    return (r.add (← atom.part? m), rest)

/-- Reads to the end. Each round takes a character, so as many rounds as there are characters
are enough. -/
def run : Nat → Reading → List Char → Option Reading
  | 0, _, _ => none
  | fuel + 1, r, cs =>
    match r.level.mode.skip cs with
    | [] => some r
    | cs => do
      let (r, rest) ← r.step cs
      run fuel r rest

/-- What was read, if no group is left open. -/
def whole (r : Reading) : Option Part := if r.outer.isEmpty then some r.level.part else none

end Reading

/-- How deep parts may be nested. -/
def deepestNesting : Nat := 250

/-- Checks a pattern. -/
def check (cs : List Char) : Except Fault Unit :=
  match (Reading.run (cs.length + 1) {} cs).bind Reading.whole with
  | none => .error .malformed
  | some p =>
    if deepestNesting < p.depth then .error .malformed
    else if p.border then .error .border
    else .ok ()

end MacConsent.Pattern
