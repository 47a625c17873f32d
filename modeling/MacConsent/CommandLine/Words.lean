import MacConsent.Files.Path
import MacConsent.Network.Id
import MacConsent.Network.Security
import MacConsent.Text.Pieces

/-!
# MacConsent.CommandLine.Words

Words of a command line read by a grammar: switches with or without a value,
operands in a fixed order, and names of subcommands. A value may be attached to
its switch by an equals sign or be the next word, unless that word looks like a
switch. After two hyphens alone every word is an operand.

What is given is checked late: a value that stands in a word of its own is
checked when the next thing is taken up or the words end, so a word that does
not belong there is reported first.
-/

namespace MacConsent.CommandLine

/-! ## Values -/

/-- A checked value. -/
inductive Value
  | text (s : String)
  | security (s : Security)
  | id (id : NetworkId)
  | present
deriving DecidableEq

/-- What a value may be. -/
inductive Kind
  | anyText
  | path
  | security
  | networkId
deriving DecidableEq, Repr

/-- Why a value is none of its kind. -/
inductive ValueFault
  | missing
  | unknown
  /-- The value is no number, or out of range. -/
  | reason (text : String)
deriving DecidableEq, Repr

/-- The names of security types. -/
def securityNames : List (String × Security) :=
  [("open", .unsecured), ("wep", .wep), ("wpa", .wpa), ("wpa2", .wpa2), ("wpa3", .wpa3),
    ("enterprise", .enterprise)]

/-- The id that a word names. The word is read as a number of 64 bits first. -/
def readId (word : String) : Except ValueFault NetworkId :=
  match Decimal.readSigned 9223372036854775807 word.toList with
  | .error fault => .error (.reason fault.message)
  | .ok n =>
    match NetworkId.ofInt? n with
    | some id => .ok id
    | none =>
      .error (.reason (String.ofList (Decimal.ofInt n) ++ " is not in -2147483648..=2147483647"))

/-- The value of a word. -/
def Kind.read (k : Kind) (word : String) : Except ValueFault Value :=
  match k with
  | .anyText => .ok (.text word)
  | .path => if word = "" then .error .missing else .ok (.text word)
  | .security =>
    match securityNames.lookup word with
    | some s => .ok (.security s)
    | none => .error (if word = "" then .missing else .unknown)
  | .networkId => (readId word).map .id

/-! ## Grammars -/

/-- What a switch is for. -/
inductive Purpose
  | flag
  | value (name : String) (kind : Kind)
  | help
  | version
deriving DecidableEq, Repr

/-- A switch: its long name, and its letter if it has one. -/
structure Switch where
  long : String
  letter : Option Char := none
  purpose : Purpose := .flag
deriving DecidableEq, Repr

/-- A switch as messages name it. -/
def Switch.shown (s : Switch) : String :=
  match s.purpose with
  | .value name _ => "--" ++ s.long ++ " <" ++ name ++ ">"
  | _ => "--" ++ s.long

/-- An operand: its name and what it may be. -/
structure Operand where
  name : String
  kind : Kind
deriving DecidableEq, Repr

/-- An operand as messages name it. -/
def Operand.shown (o : Operand) : String := "<" ++ o.name ++ ">"

/-- What the words of a command may be. -/
structure Grammar where
  switches : List Switch
  operands : List Operand := []
  subcommands : List String := []
deriving DecidableEq, Repr

/-! ## Faults -/

/-- What is wrong with a command line. -/
inductive UsageFault
  | unexpectedWord (word : String)
  | unknownSubcommand (word : String)
  | missingValue (shown : String)
  | invalidValue (value shown : String)
  | rejectedValue (value shown reason : String)
  | unneededValue (value shown : String)
  | repeated (shown : String)
  | missingOperands
  | missingSubcommand
  /-- There are no words at all. -/
  | bare
deriving DecidableEq, Repr

/-- Why the reading of words ends early. -/
inductive Halt
  | fault (fault : UsageFault)
  | help
  | helpOn (words : List String)
  | version
deriving DecidableEq, Repr

/-- The fault of a value that is none of its kind. -/
def ValueFault.usage (shown value : String) : ValueFault → UsageFault
  | .missing => .missingValue shown
  | .unknown => .invalidValue value shown
  | .reason text => .rejectedValue value shown text

/-! ## Reading -/

/-- What was taken up and is not checked yet. -/
inductive Unchecked
  /-- A switch whose value has not come yet. -/
  | switch (s : Switch)
  | value (shown : String) (kind : Kind) (word : String)
deriving DecidableEq, Repr

/-- What the words so far have given. -/
structure Given where
  checked : List (String × Value) := []
  unchecked : Option Unchecked := none
  /-- The operands that may still come. -/
  operands : List Operand
  /-- Whether every word is an operand from here on. -/
  literal : Bool := false

namespace Given

/-- Adds a value, unless there is one already. -/
def add (g : Given) (shown : String) (value : Except ValueFault Value) (word : String) :
    Except Halt Given :=
  if (g.checked.lookup shown).isSome then .error (.fault (.repeated shown))
  else
    match value with
    | .error f => .error (.fault (f.usage shown word))
    | .ok v => .ok { g with checked := g.checked ++ [(shown, v)] }

/-- Checks what is not checked yet. -/
def check (g : Given) : Except Halt Given :=
  let rest := { g with unchecked := none }
  match g.unchecked with
  | none => .ok rest
  | some (.switch s) => .error (.fault (.missingValue s.shown))
  | some (.value shown kind word) => rest.add shown (kind.read word) word

/-- Whether the value of a switch is still to come. -/
def awaitsValue (g : Given) : Option (String × Kind) :=
  match g.unchecked with
  | some (.switch s) =>
    match s.purpose with
    | .value _ kind => some (s.shown, kind)
    | _ => none
  | _ => none

/-- Takes a switch with what is attached to it. -/
def takeSwitch (g : Given) (s : Switch) (attached : Option String) : Except Halt Given :=
  match s.purpose, attached with
  | .value _ kind, some word => do (← g.check).add s.shown (kind.read word) word
  | .value .., none => do return { ← g.check with unchecked := some (.switch s) }
  | _, some word => .error (.fault (.unneededValue word s.shown))
  | .flag, none => do (← g.check).add s.shown (.ok .present) ""
  | .help, none => do
    let _ ← g.check
    .error .help
  | .version, none => do
    let _ ← g.check
    .error .version

/-- Takes an operand. -/
def takeOperand (g : Given) (o : Operand) (later : List Operand) (word : String) :
    Except Halt Given := do
  return { ← g.check with unchecked := some (.value o.shown o.kind word), operands := later }

end Given

/-- What a word looks like. -/
inductive Look
  | hyphens
  | long (name : String) (attached : Option String)
  | short (letter : Char)
  | plain
deriving DecidableEq, Repr

/-- The look of a word. A hyphen alone is plain. -/
def Look.ofWord (word : String) : Look :=
  match word.toList with
  | ['-', '-'] => .hyphens
  | '-' :: '-' :: rest =>
    let name := rest.takeWhile (· != '=')
    let attached :=
      match rest.dropWhile (· != '=') with
      | _ :: value => some (String.ofList value)
      | [] => none
    .long (String.ofList name) attached
  | '-' :: letter :: _ => .short letter
  | _ => .plain

/-- Takes a plain word: a value that is awaited, or the next operand. -/
def takePlain (grammar : Grammar) (g : Given) (word : String) : Except Halt Given :=
  match g.literal, g.awaitsValue with
  | false, some (shown, kind) =>
    .ok { g with unchecked := some (.value shown kind word) }
  | _, _ =>
    match g.operands with
    | o :: later => g.takeOperand o later word
    | [] =>
      if grammar.subcommands.isEmpty ∨ (g.literal = true ∧ word ∈ grammar.subcommands) then
        .error (.fault (.unexpectedWord word))
      else .error (.fault (.unknownSubcommand word))

/-- Takes a word that names no subcommand. -/
def takeWord (grammar : Grammar) (g : Given) (word : String) : Except Halt Given :=
  if g.literal then takePlain grammar g word
  else
    match Look.ofWord word with
    | .hyphens => .ok { g with literal := true }
    | .long name attached =>
      match grammar.switches.find? (·.long == name) with
      | some s => g.takeSwitch s attached
      | none => .error (.fault (.unexpectedWord ("--" ++ name)))
    | .short letter =>
      match grammar.switches.find? (·.letter == some letter) with
      | some s => g.takeSwitch s none
      | none => .error (.fault (.unexpectedWord ("-" ++ letter.toString)))
    | .plain => takePlain grammar g word

/-- Reads words up to the name of a subcommand: what they give, and the subcommand with the
words after it. -/
def readWords (grammar : Grammar) (g : Given) :
    List String → Except Halt (Given × Option (String × List String))
  | [] => .ok (g, none)
  | word :: words =>
    if !g.literal && g.awaitsValue.isNone && grammar.subcommands.contains word then
      .ok (g, some (word, words))
    else
      match takeWord grammar g word with
      | .error halt => .error halt
      | .ok g => readWords grammar g words

end MacConsent.CommandLine
