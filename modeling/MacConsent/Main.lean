import MacConsent.CommandLine.Program
import MacConsent.Screen.Popup

/-!
# MacConsent.Main

The program on a real host: files on disk, a dialog in lines of text, and an
observer that writes to the error output. The dialog shows the whole screen and
takes keys a line at a time; the end of a line is the key that presses a button.
-/

namespace MacConsent.Main

open CommandLine (Host)

/-- The number of an error, if the system has given one. -/
def number? : IO.Error → Option UInt32
  | .alreadyExists _ n _ | .otherError n _ | .resourceBusy n _ | .resourceVanished n _ => some n
  | .unsupportedOperation n _ | .hardwareFault n _ | .unsatisfiedConstraints n _ => some n
  | .illegalOperation n _ | .protocolError n _ | .timeExpired n _ | .interrupted _ n _ => some n
  | .noFileOrDirectory _ n _ | .invalidArgument _ n _ | .permissionDenied _ n _ => some n
  | .resourceExhausted _ n _ | .inappropriateType _ n _ | .noSuchThing _ n _ => some n
  | .unexpectedEof | .userError _ => none

/-- What is wrong with a file, by the system's number. -/
def faultOf (e : IO.Error) : Files.Fault :=
  match (number? e).map UInt32.toNat with
  | some 2 => .missing
  | some 13 => .denied
  | some 16 => .busy
  | some 20 => .notDirectory
  | some 21 => .isDirectory
  | some 36 => .nameTooLong
  | some n => .refused n
  | none => .nulInPath

/-- Does something to files. -/
def attempt {α : Type} (action : IO α) : IO (Except Files.Fault α) := do
  try
    return .ok (← action)
  catch e => return .error (faultOf e)

/-- The text of a file. -/
def readText (path : Files.Path) : IO (Except Files.Fault String) := do
  match ← attempt (IO.FS.readBinFile path.text) with
  | .error fault => return .error fault
  | .ok bytes =>
    match String.fromUTF8? bytes with
    | none => return .error .notText
    | some text => return .ok text

/-- Writes what matters to the error output. -/
def observe (d : Diagnostic) : IO Unit :=
  match d.level with
  | .trace | .debug => pure ()
  | level => do
    let fields := d.fields.map fun field => field.1 ++ "=" ++ field.2
    IO.eprintln (" ".intercalate (level.name :: d.message :: fields))

/-- The lines of a screen with a dialog, if it can be drawn. -/
def screenLines? (f : Dialog.Form) : Option (List String) :=
  (Screen.frame 80 24 f).map fun grid =>
    grid.shown.map fun row => String.ofList (row.flatMap (·.symbol))

/-- The key press of a character in a line. -/
def keyOf (c : Char) : Dialog.KeyPress := if c = '\n' then ⟨.enter, false⟩ else .ofTyped c

/-- Shows a dialog until a key decides. At the end of the input it is dismissed, and so is one that
cannot be drawn. -/
partial def ask (f : Dialog.Form) : IO Dialog.Choice := do
  let some lines := screenLines? f
    | do
      IO.eprintln "WARN terminal dialog task aborted"
      return .dismissed
  for line in lines do
    IO.println line
  let line ← (← IO.getStdin).getLine
  if line.isEmpty then return .dismissed
  match f.pressAll (line.toList.map keyOf) with
  | (_, some choice) => return choice
  | (f, none) => ask f

/-- The real host. -/
def host : Host IO where
  backing := {
    read := readText
    write := fun path text => attempt (IO.FS.writeFile path.text text)
    rename := fun source target => attempt (IO.FS.rename source.text target.text)
    trace := observe }
  write := IO.print
  toast message := IO.eprintln (Console.toastLine message)
  ask := ask

end MacConsent.Main

/-- Runs the program on its arguments. -/
def main (args : List String) : IO UInt32 := do
  let ending ← MacConsent.Main.host.run args
  if let some message := ending.message? then
    IO.eprintln message
  return UInt32.ofNat ending.code
