import MacConsent.Text.Pieces

/-!
# MacConsent.Files.Path

Paths as they are spelled. A path is cut at its slashes; empty parts and single
dots at the end do not count when it comes to the name of the file, and a path
that ends in two dots names none.
-/

namespace MacConsent.Files

/-- The spelling of a path. -/
structure Path where
  text : String
deriving DecidableEq, Repr

namespace Path

/-- The parts between the slashes; there is at least one. -/
def parts (p : Path) : List String := (Text.pieces '/' p.text.toList).map String.ofList

/-- Parts with slashes between. -/
def join (parts : List String) : String :=
  String.ofList (Text.joinPieces '/' (parts.map String.toList))

/-- Whether a part names nothing by itself. -/
def isIdle (part : String) : Bool := part == "" || part == "."

/-- The name of the file, and the parts before it, last first. -/
def split? (p : Path) : Option (String × List String) :=
  match p.parts.reverse.dropWhile isIdle with
  | [] => none
  | name :: before => if name = ".." then none else some (name, before)

/-- A name up to its last dot, and its extension, which is what comes after that dot. A dot at
the start of a name does not count. -/
def stemAndExtension (name : String) : String × String :=
  let after := name.toList.reverse.takeWhile (· != '.')
  match name.toList.reverse.dropWhile (· != '.') with
  | _ :: before =>
    if before.isEmpty then (name, "")
    else (String.ofList before.reverse, String.ofList after.reverse)
  | [] => (name, "")

/-- The path without the characters of its extension, taken off its end. -/
def dropExtension (p : Path) : Path :=
  match p.split? with
  | none => p
  | some (name, _) =>
    let cs := p.text.toList
    ⟨String.ofList (cs.take (cs.length - (stemAndExtension name).2.length))⟩

/-- The path of the same name with another extension. The old extension is dropped first; if
what is left names no file, as two dots do not, it stays as it is. -/
def withExtension (p : Path) (extension : String) : Path :=
  let p := p.dropExtension
  match p.split? with
  | none => p
  | some (name, before) =>
    ⟨join (((stemAndExtension name).1 ++ "." ++ extension) :: before).reverse⟩

end Path

end MacConsent.Files
