import MacConsent.CommandLine.Invocation
import MacConsent.CommandLine.LogFilter
import MacConsent.Console
import MacConsent.Dialog.Key
import MacConsent.Remedy.Confirmation
import MacConsent.Router

/-!
# MacConsent.CommandLine.Program

The program from its words to its exit code, over a host that has files, two
kinds of output and a dialog. A notification that is posted is taken up at once,
unless it is to be left alone; what comes of the confirmation does not change
the exit code.
-/

namespace MacConsent.CommandLine

/-- What a program runs on. -/
structure Host (m : Type → Type) where
  backing : Store.Backing m
  /-- Writes text to the output. -/
  write : String → m Unit
  /-- Shows a short message. -/
  toast : String → m Unit
  /-- Opens a dialog. -/
  ask : Dialog.Form → m Dialog.Choice

/-- Why a command is not carried out. -/
inductive Failure
  | logFilter (fault : LogFilter.Fault)
  | store (fault : Store.Fault)
deriving DecidableEq

/-- The wording of a failure. -/
def Failure.message : Failure → String
  | .logFilter fault => fault.message
  | .store fault => fault.message

/-- How a run has ended. -/
inductive Ending
  | done
  | misused (fault : UsageFault)
  | failed (failure : Failure)
deriving DecidableEq

namespace Ending

/-- The exit code. -/
def code : Ending → Nat
  | .done => 0
  | .failed _ => 1
  | .misused _ => 2

/-- What is reported about a run that has not succeeded. -/
def message? : Ending → Option String
  | .done => none
  | .misused fault => some fault.message
  | .failed failure => some failure.message

end Ending

variable {m : Type → Type} [Monad m] (h : Host m)

/-- Writes a line to the output. -/
def Host.writeLine (line : String) : m Unit := h.write (line ++ "\n")

/-! ## Lists -/

/-- A text with blanks before it up to a length. -/
def padLeft (length : Nat) (s : String) : String :=
  String.ofList (List.replicate (length - s.length) ' ') ++ s

/-- A text with blanks behind it up to a length. -/
def padRight (length : Nat) (s : String) : String :=
  s ++ String.ofList (List.replicate (length - s.length) ' ')

/-- The line of a profile: its id, its identity and its policy. -/
def profileLine (p : Profile) : String :=
  padLeft 4 p.id.text ++ "  " ++ padRight 32 p.identity ++ " " ++ p.macPolicy.name

/-! ## Remedies -/

/-- A store, and the notices that were put up. -/
structure Shelf where
  store : Store.Durable
  board : NoticeBoard := {}

/-- What an operation on the store leads to: its success, and the shelf afterwards. -/
def Shelf.after (s : Shelf) : Except Store.Fault Store.Durable → Except Store.Fault Unit × Shelf
  | .ok store => (.ok (), { s with store })
  | .error fault => (.error fault, s)

/-- Carries out a request. -/
def Host.carryOut : (r : Remedy.Request) → StateT Shelf m r.Answer
  | .look id => return (← get).store.roster.find? id
  | .update p uid => fun s => return s.after (← s.store.update h.backing p uid)
  | .enable id uid => fun s => return s.after (← s.store.enable h.backing id uid)
  | .post number notification => fun s => do
    let (board, line, notes) := Console.post s.board number notification
    h.writeLine line
    notes.forM h.backing.trace
    return ((), { s with board })
  | .toast message => h.toast message
  | .scan source => h.backing.trace (.scanRequested source)
  | .trace d => h.backing.trace d

/-- Goes through a confirmation. -/
def Host.confirm (icons : Dialog.IconSet) (id : NetworkId) (captured : Option String) :
    StateT Shelf m Remedy.Outcome := do
  match ← (Remedy.check {} id captured).run h.carryOut with
  | .error fault => return .invalidated fault
  | .ok p =>
    let choice ← h.ask { request := Remedy.question {} p, icons }
    (Remedy.conclude {} id p choice).run h.carryOut

/-- Takes a notice off the board and acts on its tap. -/
def Host.tap (icons : Dialog.IconSet) : StateT Shelf m Unit := do
  let (taken, board) := Console.take (← get).board noticeNumber
  modify fun s => { s with board }
  match taken with
  | none => return ()
  | some notification =>
    let (told, wanted) := Router.hear notification.tapAction
    h.backing.trace told
    match wanted with
    | none => return ()
    | some (id, captured) =>
      let _ ← h.confirm icons id captured
      return ()

/-- Offers a remedy for a network, and takes the offer up unless it is to be left alone. -/
def Host.remedy (icons : Dialog.IconSet) (id : NetworkId) (noTap : Bool) :
    StateT Shelf m Unit := do
  match ← (Remedy.offer {} id).run h.carryOut with
  | none => h.writeLine ("Network " ++ id.text ++ " is not saved")
  | some _ => if noTap then return () else h.tap icons

/-! ## Runs -/

/-- Carries out a command on a store. -/
def Host.perform (icons : Dialog.IconSet) (store : Store.Durable) : Command → m Ending
  | .add ssid security passphrase hidden => do
    let p : Profile := { id := .first, ssid, security, passphrase, hidden }
    match ← store.add h.backing p with
    | .error fault => return .failed (.store fault)
    | .ok (id, _) =>
      h.writeLine ("Saved as network " ++ id.text)
      return .done
  | .list => do
    h.writeLine ("Profiles in " ++ store.path.text)
    store.roster.toList.forM fun p => h.writeLine (profileLine p)
    return .done
  | .notify id noTap => do
    let _ ← (h.remedy icons id noTap).run { store }
    return .done

/-- Runs the program on the words of its command line. -/
def Host.run (words : List String) : m Ending := do
  match Invocation.ofWords words with
  | .error (.usage fault) => return .misused fault
  | .error (.shown text) =>
    h.write text
    return .done
  | .ok invocation =>
    match LogFilter.check invocation.logFilter with
    | .error fault => return .failed (.logFilter fault)
    | .ok () =>
      match ← Store.Durable.load h.backing invocation.store with
      | .error fault => return .failed (.store fault)
      | .ok store => h.perform invocation.icons store invocation.command

end MacConsent.CommandLine
