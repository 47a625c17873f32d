import MacConsent.Pattern.Atom

/-!
# MacConsent.Pattern.Brackets

Sets of characters in brackets. A set holds characters, ranges, classes and
other sets; a caret at its start turns it around, and two signs between parts
stand for an operation on them. Sets are nested, so the outer ones wait on a
stack while an inner one is read.

What a set holds does not matter here, except where it cannot be had:

* over bytes, no character beyond ASCII has a place, and so no set turned
  around;
* over characters, no set that holds any can be made caseless, for want of the
  tables of case.
-/

namespace MacConsent.Pattern

/-- What is known of a set. -/
structure SetPart where
  /-- How deep its parts are nested. -/
  depth : Nat
  /-- Whether it was given anything to hold. -/
  filled : Bool
deriving DecidableEq, Repr

/-- A set with a single entry. -/
def SetPart.leaf : SetPart := ⟨0, true⟩

/-- The greatest of some depths. -/
def deepest (depths : List Nat) : Nat := depths.foldl max 0

namespace SetPart

/-- Entries side by side, last first. -/
def union : List SetPart → SetPart
  | [] => ⟨0, false⟩
  | [p] => p
  | ps => ⟨1 + deepest (ps.map depth), ps.any filled⟩

/-- The set with upper and lower case taken for the same, if the mode asks for it. -/
def fold (m : Mode) (p : SetPart) : Option SetPart :=
  if m.caseless && m.unicode && p.filled then none else some p

/-- An operation on two sets. -/
def combine (m : Mode) (p q : SetPart) : Option SetPart := do
  let p ← p.fold m
  let q ← q.fold m
  return ⟨1 + max p.depth q.depth, p.filled || q.filled⟩

/-- The set between its brackets. -/
def bracket (m : Mode) (negated : Bool) (p : SetPart) : Option SetPart := do
  let p ← p.fold m
  if negated && !m.unicode then none else some ⟨1 + p.depth, p.filled || negated⟩

end SetPart

/-! ## Entries -/

/-- Whether a character has a place in a set. -/
def Mode.holds (m : Mode) (c : Char) : Bool := m.unicode || decide (c.toNat < 0x80)

/-- The entry that an atom makes. A class by letter needs tables where it is not over bytes. -/
def Atom.entry? (m : Mode) : Atom → Option SetPart
  | .char c => if m.holds c then some .leaf else none
  | .byte c => if m.holds c then some .leaf else none
  | .letterClass negated => if m.unicode || negated then none else some .leaf
  | .any => none
  | .place _ => none

/-- The character that may end a range. -/
def Atom.bound? (m : Mode) : Atom → Option Char
  | .char c => if m.holds c then some c else none
  | .byte c => if m.holds c then some c else none
  | _ => none

/-- The classes by name. -/
def classNames : List String :=
  ["alnum", "alpha", "ascii", "blank", "cntrl", "digit", "graph", "lower", "print", "punct",
    "space", "upper", "word", "xdigit"]

/-- A class by name, as far as the text holds one: whether it is turned around, and the rest. -/
def namedClass? : List Char → Option (Bool × List Char)
  | '[' :: ':' :: cs =>
    let (negated, cs) :=
      match cs with
      | '^' :: cs => (true, cs)
      | cs => (false, cs)
    match cs.dropWhile (· != ':') with
    | ':' :: ']' :: rest =>
      if classNames.contains (String.ofList (cs.takeWhile (· != ':'))) then some (negated, rest)
      else none
    | _ => none
  | _ => none

/-- The entry that a class by name makes. -/
def classEntry? (m : Mode) (negated : Bool) : Option SetPart := do
  let p ← SetPart.leaf.fold m
  if negated && !m.unicode then none else some p

/-- The next character that counts, after the one at hand. Within a comment blanks are passed
over like elsewhere. -/
def nextSign (m : Mode) (cs : List Char) : Option Char :=
  if m.spaced then
    match cs.dropWhile Text.isBlank with
    | '#' :: cs => (cs.dropWhile Text.isBlank).head?
    | cs => cs.head?
  else cs.head?

/-- One end of a range, or an entry by itself. -/
def readBound (m : Mode) : List Char → Option (Atom × List Char)
  | [] => none
  | '\\' :: cs => readEscape m cs
  | c :: cs => some (.char c, cs)

/-- An entry: a range, or an atom. A hyphen before a bracket or another hyphen makes no range. -/
def readEntry (m : Mode) (cs : List Char) : Option (SetPart × List Char) := do
  let (first, rest) ← readBound m cs
  match m.skip rest with
  | [] => none
  | '-' :: rest =>
    if nextSign m rest = some ']' ∨ nextSign m rest = some '-' then
      return (← first.entry? m, '-' :: rest)
    else
      let (last, rest) ← readBound m (m.skip rest)
      let low ← first.bound? m
      let high ← last.bound? m
      if low ≤ high then some (.leaf, rest) else none
  | rest => return (← first.entry? m, rest)

/-! ## Sets -/

/-- A set that is being read. -/
structure OpenSet where
  negated : Bool
  /-- The left side of an operation. -/
  left : Option SetPart := none
  /-- The entries so far, last first. -/
  entries : List SetPart := []

namespace OpenSet

/-- One more entry. -/
def add (s : OpenSet) (p : SetPart) : OpenSet := { s with entries := p :: s.entries }

/-- What the set holds so far. -/
def part? (m : Mode) (s : OpenSet) : Option SetPart :=
  match s.left with
  | none => some (SetPart.union s.entries)
  | some left => left.combine m (SetPart.union s.entries)

/-- The set becomes the left side of an operation. -/
def operate (m : Mode) (s : OpenSet) : Option OpenSet := do
  return { s with left := some (← s.part? m), entries := [] }

end OpenSet

/-- The hyphens at the start of a set are characters, and so is a closing bracket that comes
first of all. -/
def readStart (m : Mode) : Nat → OpenSet → List Char → Option (OpenSet × List Char)
  | 0, _, _ => none
  | _ + 1, _, [] => none
  | fuel + 1, s, '-' :: rest => readStart m fuel (s.add .leaf) (m.skip rest)
  | _ + 1, s, ']' :: rest =>
    if s.entries.isEmpty then
      match m.skip rest with
      | [] => none
      | rest => some (s.add .leaf, rest)
    else some (s, ']' :: rest)
  | _ + 1, s, rest => some (s, rest)

/-- What follows an opening bracket, up to the entries. -/
def openSet (m : Mode) (cs : List Char) : Option (OpenSet × List Char) :=
  match m.skip cs with
  | '^' :: rest => readStart m (rest.length + 1) { negated := true } (m.skip rest)
  | rest => readStart m (rest.length + 1) { negated := false } rest

/-- Reads a set to its end, with the sets around it. Each round takes a character, so as many
rounds as there are characters are enough. -/
def readEntries (m : Mode) : Nat → List OpenSet → OpenSet → List Char →
    Option (SetPart × List Char)
  | 0, _, _, _ => none
  | fuel + 1, outer, s, cs =>
    let cs := m.skip cs
    match cs with
    | [] => none
    | ']' :: rest => do
      let p ← (← s.part? m).bracket m s.negated
      match outer with
      | [] => return (p, rest)
      | o :: outer => readEntries m fuel outer (o.add p) rest
    | '&' :: '&' :: rest => do readEntries m fuel outer (← s.operate m) rest
    | '-' :: '-' :: rest => do readEntries m fuel outer (← s.operate m) rest
    | '~' :: '~' :: rest => do readEntries m fuel outer (← s.operate m) rest
    | '[' :: rest =>
      match namedClass? cs with
      | some (negated, rest) => do readEntries m fuel outer (s.add (← classEntry? m negated)) rest
      | none => do
        let (inner, rest) ← openSet m rest
        readEntries m fuel (s :: outer) inner rest
    | _ => do
      let (p, rest) ← readEntry m cs
      readEntries m fuel outer (s.add p) rest

/-- The set that follows an opening bracket, and the rest. -/
def readSet (m : Mode) (cs : List Char) : Option (SetPart × List Char) := do
  let (s, rest) ← openSet m cs
  readEntries m (rest.length + 1) [] s rest

end MacConsent.Pattern
