/-!
# MacConsent.Files.Fault

Why a file cannot be read, written or renamed. What the system refuses has a
number, which its wording ends with.
-/

namespace MacConsent.Files

/-- What is wrong with a file or a path. -/
inductive Fault
  | missing
  | denied
  | busy
  | notDirectory
  | isDirectory
  | nameTooLong
  /-- The system refuses with some other number. -/
  | refused (number : Nat)
  | nulInPath
  | notText
deriving DecidableEq, Repr

namespace Fault

/-- What the system says, and its number. -/
def numbered (text : String) (number : Nat) : String :=
  text ++ " (os error " ++ String.ofList (Nat.toDigits 10 number) ++ ")"

/-- The wording of a fault. -/
def message : Fault → String
  | .missing => numbered "No such file or directory" 2
  | .denied => numbered "Permission denied" 13
  | .busy => numbered "Device or resource busy" 16
  | .notDirectory => numbered "Not a directory" 20
  | .isDirectory => numbered "Is a directory" 21
  | .nameTooLong => numbered "File name too long" 36
  | .refused number => numbered ("Unknown error " ++ String.ofList (Nat.toDigits 10 number)) number
  | .nulInPath => "file name contained an unexpected NUL byte"
  | .notText => "stream did not contain valid UTF-8"

end Fault

end MacConsent.Files
