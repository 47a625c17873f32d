import MacConsent.CommandLine.Words
import MacConsent.Dialog.Icons
import MacConsent.Store.Durable

/-!
# MacConsent.CommandLine.Invocation

The command line of the program: its options, its three commands, and the texts
that explain them. The words after a subcommand's name are read before the last
word before it is checked.
-/

namespace MacConsent.CommandLine

/-- What is to be done. -/
inductive Command
  | add (ssid : String) (security : Security) (passphrase : Option String) (hidden : Bool)
  | list
  | notify (id : NetworkId) (noTap : Bool)
deriving DecidableEq

/-- A command and the options for all commands. -/
structure Invocation where
  store : Files.Path
  icons : Dialog.IconSet
  logFilter : String
  command : Command
deriving DecidableEq

/-! ## Grammars -/

/-- The name of the program. -/
def programName : String := "wifi-remedy"

/-- The switch that explains a command. -/
def helpSwitch : Switch := ⟨"help", some 'h', .help⟩

/-- The switch for the path of the document. -/
def storeSwitch : Switch := ⟨"store", none, .value "STORE" .path⟩

/-- The switch for signs without special fonts. -/
def asciiSwitch : Switch := ⟨"ascii", none, .flag⟩

/-- The switch for the filter of the log. -/
def logSwitch : Switch := ⟨"log-level", none, .value "LOG_LEVEL" .anyText⟩

/-- The switch for the security of a new profile. -/
def securitySwitch : Switch := ⟨"security", none, .value "SECURITY" .security⟩

/-- The switch for the passphrase of a new profile. -/
def passphraseSwitch : Switch := ⟨"passphrase", none, .value "PASSPHRASE" .anyText⟩

/-- The switch for a new profile of a hidden network. -/
def hiddenSwitch : Switch := ⟨"hidden", none, .flag⟩

/-- The switch that leaves a notification alone. -/
def noTapSwitch : Switch := ⟨"no-tap", none, .flag⟩

/-- The name of a new network. -/
def ssidOperand : Operand := ⟨"SSID", .anyText⟩

/-- The id of a saved network. -/
def idOperand : Operand := ⟨"NETWORK_ID", .networkId⟩

/-- The words before a command. -/
def rootGrammar : Grammar where
  switches := [storeSwitch, asciiSwitch, logSwitch, helpSwitch, ⟨"version", some 'V', .version⟩]
  subcommands := ["add", "list", "notify", "help"]

/-- The words after `add`. -/
def addGrammar : Grammar where
  switches := [securitySwitch, passphraseSwitch, hiddenSwitch, helpSwitch]
  operands := [ssidOperand]

/-- The words after `list`. -/
def listGrammar : Grammar := { switches := [helpSwitch] }

/-- The words after `notify`. -/
def notifyGrammar : Grammar where
  switches := [noTapSwitch, helpSwitch]
  operands := [idOperand]

/-! ## Texts -/

/-- What the program is for. -/
def about : String :=
  "Offers to turn off MAC randomization for a saved network that rejects randomized addresses."

/-- Lines with a line end each. -/
def paragraph (lines : List String) : String := String.join (lines.map (· ++ "\n"))

/-- The program's name and version. -/
def versionText : String := paragraph [programName ++ " 0.1.0"]

/-- The explanation of the program. -/
def rootHelp : String := paragraph
  [about,
    "",
    "Usage: wifi-remedy [OPTIONS] <COMMAND>",
    "",
    "Commands:",
    "  add     Save a network profile",
    "  list    List saved profiles",
    "  notify  Report that a network rejected its randomized MAC and offer to fix it",
    "  help    Print this message or the help of the given subcommand(s)",
    "",
    "Options:",
    "      --store <STORE>          Profile store to read and update [default: profiles.xml]",
    "      --ascii                  Use ASCII icons (no Nerd Fonts required)",
    "      --log-level <LOG_LEVEL>  Log filter used when RUST_LOG is not set [default: info]",
    "  -h, --help                   Print help",
    "  -V, --version                Print version"]

/-- The explanation of `add`. -/
def addHelp : String := paragraph
  ["Save a network profile",
    "",
    "Usage: wifi-remedy add [OPTIONS] <SSID>",
    "",
    "Arguments:",
    "  <SSID>  ",
    "",
    "Options:",
    "      --security <SECURITY>      " ++
      "[default: wpa2] [possible values: open, wep, wpa, wpa2, wpa3, enterprise]",
    "      --passphrase <PASSPHRASE>  ",
    "      --hidden                   ",
    "  -h, --help                     Print help"]

/-- The explanation of `list`. -/
def listHelp : String := paragraph
  ["List saved profiles",
    "",
    "Usage: wifi-remedy list",
    "",
    "Options:",
    "  -h, --help  Print help"]

/-- The explanation of `notify`. -/
def notifyHelp : String := paragraph
  ["Report that a network rejected its randomized MAC and offer to fix it",
    "",
    "Usage: wifi-remedy notify [OPTIONS] <NETWORK_ID>",
    "",
    "Arguments:",
    "  <NETWORK_ID>  ",
    "",
    "Options:",
    "      --no-tap  Only post the notification, don't open it",
    "  -h, --help    Print help"]

/-- The explanation of `help`. -/
def helpHelp : String := paragraph
  ["Print this message or the help of the given subcommand(s)",
    "",
    "Usage: wifi-remedy help [COMMAND]...",
    "",
    "Arguments:",
    "  [COMMAND]...  Print help for the subcommand(s)"]

/-- The explanation of each subcommand. -/
def helpTexts : List (String × String) :=
  [("add", addHelp), ("list", listHelp), ("notify", notifyHelp), ("help", helpHelp)]

/-- The explanation that words ask for; a subcommand has none of its own. -/
def helpFor : List String → Except UsageFault String
  | [] => .ok rootHelp
  | word :: words =>
    match helpTexts.lookup word, words with
    | none, _ => .error (.unknownSubcommand word)
    | some text, [] => .ok text
    | some _, word :: _ => .error (.unknownSubcommand word)

/-- The first line that tells what is wrong with a command line. -/
def UsageFault.message : UsageFault → String
  | .unexpectedWord word => "error: unexpected argument '" ++ word ++ "' found"
  | .unknownSubcommand word => "error: unrecognized subcommand '" ++ word ++ "'"
  | .missingValue shown =>
    "error: a value is required for '" ++ shown ++ "' but none was supplied"
  | .invalidValue value shown => "error: invalid value '" ++ value ++ "' for '" ++ shown ++ "'"
  | .rejectedValue value shown reason =>
    "error: invalid value '" ++ value ++ "' for '" ++ shown ++ "': " ++ reason
  | .unneededValue value shown =>
    "error: unexpected value '" ++ value ++ "' for '" ++ shown ++ "' found; no more were expected"
  | .repeated shown => "error: the argument '" ++ shown ++ "' cannot be used multiple times"
  | .missingOperands => "error: the following required arguments were not provided:"
  | .missingSubcommand =>
    "error: '" ++ programName ++ "' requires a subcommand but one was not provided"
  | .bare => about

/-! ## Reading a command line -/

/-- Why there is nothing to be done. -/
inductive Refusal
  | usage (fault : UsageFault)
  /-- A text was asked for. -/
  | shown (text : String)
deriving DecidableEq, Repr

/-- What a halt comes to; `help` is the explanation of the command it occurred in. -/
def Halt.refusal (help : String) : Halt → Refusal
  | .fault f => .usage f
  | .help => .shown help
  | .version => .shown versionText
  | .helpOn words =>
    match helpFor words with
    | .ok text => .shown text
    | .error f => .usage f

/-- The text given for a switch or an operand. -/
def Given.text? (g : Given) (shown : String) : Option String :=
  match g.checked.lookup shown with
  | some (.text s) => some s
  | _ => none

/-- Whether a flag was given. -/
def Given.has (g : Given) (s : Switch) : Bool := (g.checked.lookup s.shown).isSome

/-- Reads and checks all words of a command without subcommands. -/
def readAll (grammar : Grammar) (words : List String) : Except Halt Given := do
  let (g, _) ← readWords grammar { operands := grammar.operands } words
  g.check

/-- The words after `add`. -/
def readAdd (words : List String) : Except Halt Command := do
  let g ← readAll addGrammar words
  match g.text? ssidOperand.shown with
  | none => .error (.fault .missingOperands)
  | some ssid =>
    let security :=
      match g.checked.lookup securitySwitch.shown with
      | some (.security s) => s
      | _ => .wpa2
    return .add ssid security (g.text? passphraseSwitch.shown) (g.has hiddenSwitch)

/-- The words after `list`. -/
def readList (words : List String) : Except Halt Command := do
  let _ ← readAll listGrammar words
  return .list

/-- The words after `notify`. -/
def readNotify (words : List String) : Except Halt Command := do
  let g ← readAll notifyGrammar words
  match g.checked.lookup idOperand.shown with
  | some (.id id) => return .notify id (g.has noTapSwitch)
  | _ => .error (.fault .missingOperands)

/-- The words after a subcommand's name. -/
def readCommand (name : String) (words : List String) : Except Refusal Command :=
  match name with
  | "add" => (readAdd words).mapError (Halt.refusal addHelp)
  | "list" => (readList words).mapError (Halt.refusal listHelp)
  | "notify" => (readNotify words).mapError (Halt.refusal notifyHelp)
  | _ => .error ((Halt.helpOn words).refusal rootHelp)

/-- A command line without a subcommand. -/
def withoutCommand (g : Given) : Refusal :=
  match g.check with
  | .error halt => halt.refusal rootHelp
  | .ok g => .usage (if g.checked.isEmpty then .bare else .missingSubcommand)

/-- The invocation that words ask for. -/
def Invocation.ofWords (words : List String) : Except Refusal Invocation := do
  let (g, command) ←
    (readWords rootGrammar { operands := [] } words).mapError (Halt.refusal rootHelp)
  match command with
  | none => .error (withoutCommand g)
  | some (name, words) =>
    let command ← readCommand name words
    let g ← g.check.mapError (Halt.refusal rootHelp)
    return {
      store := ⟨(g.text? storeSwitch.shown).getD Store.Durable.defaultPath.text⟩
      icons := if g.has asciiSwitch then .ascii else .nerd
      logFilter := (g.text? logSwitch.shown).getD "info"
      command }

end MacConsent.CommandLine
