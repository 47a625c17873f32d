import MacConsent.Files.Fault
import MacConsent.Files.Path

/-!
# MacConsent.Files.Tree

A tree of files below a working directory, and the three operations on it that
a store needs: reading a file as text, writing one, and renaming one over
another. A path is followed part by part; each part but the last has to lead to
a directory. Paths may leave the working directory, upwards or from the root;
nothing but directories is known out there at first.
-/

namespace MacConsent.Files

/-- What stands at a place of a tree: a directory or a file. Links are not modelled, so a path leads
to one place at most. -/
inductive Entry
  | directory
  /-- A file with its text, or with bytes that are no text. -/
  | file (content : Option String)
deriving DecidableEq, Repr

/-- A place below the working directory: names from the outside in. Places outside it begin
with two dots, or with a slash for the root. -/
abbrev Place := List String

/-- What stands at each place below the working directory. -/
structure Tree where
  entries : List (Place × Entry) := []
deriving DecidableEq, Repr

namespace Tree

/-- Whether a name leads out of the working directory. -/
def isOutward (name : String) : Bool := name == ".." || name == "/"

/-- What stands at a place. -/
def find? (t : Tree) (place : Place) : Option Entry :=
  if place.all isOutward then some .directory else t.entries.lookup place

/-- The tree without a place and without all below it. -/
def remove (t : Tree) (place : Place) : Tree :=
  ⟨t.entries.filter fun e => !place.isPrefixOf e.1⟩

/-- The tree with an entry at a place, whatever stood there. -/
def put (t : Tree) (place : Place) (entry : Entry) : Tree :=
  ⟨t.entries.filter (fun e => e.1 != place) ++ [(place, entry)]⟩

/-! ## Following a path -/

/-- The place around a place. -/
def around (place : Place) : Place :=
  if place = ["/"] then place
  else if place.all isOutward then place ++ [".."]
  else place.dropLast

/-- Goes from a place, which has to be a directory, to one of its parts. -/
def enter (t : Tree) (place : Place) (part : String) : Except Fault Place :=
  match t.find? place with
  | none => .error .missing
  | some (.file _) => .error .notDirectory
  | some .directory =>
    if Path.isIdle part then .ok place
    else if part = ".." then .ok (around place)
    else if 255 < part.utf8ByteSize then .error .nameTooLong
    else .ok (place ++ [part])

/-- Goes along parts. -/
def follow (t : Tree) (place : Place) : List String → Except Fault Place
  | [] => .ok place
  | part :: parts =>
    match t.enter place part with
    | .error f => .error f
    | .ok place => t.follow place parts

/-- Where a path ends. -/
inductive Spot
  /-- At a directory that the path does not name: it ends in dots, or is the root. -/
  | directory
  /-- At a name in a directory; `asDirectory` tells that slashes follow the name. -/
  | named (place : Place) (asDirectory : Bool)
deriving DecidableEq, Repr

/-- Follows a path to its end. -/
def locate (t : Tree) (path : Path) : Except Fault Spot :=
  if path.text.toList.contains '\x00' then .error .nulInPath
  else if path.text = "" then .error .missing
  else if 4095 < path.text.utf8ByteSize then .error .nameTooLong
  else
    let parts := path.parts
    let start : Place := if parts.head? = some "" then ["/"] else []
    match parts.reverse.dropWhile (· == "") with
    | [] => .ok .directory
    | last :: before =>
      match t.follow start (before.reverse ++ [last]) with
      | .error f => .error f
      | .ok place =>
        if last = "." ∨ last = ".." then .ok .directory
        else .ok (.named place (parts.getLast? == some ""))

/-! ## Reading, writing and renaming -/

/-- The text of the file at a path. -/
def read (t : Tree) (path : Path) : Except Fault String :=
  match t.locate path with
  | .error f => .error f
  | .ok .directory => .error .isDirectory
  | .ok (.named place asDirectory) =>
    match t.find? place with
    | none => .error .missing
    | some .directory => .error .isDirectory
    | some (.file content) =>
      if asDirectory then .error .notDirectory
      else
        match content with
        | none => .error .notText
        | some text => .ok text

/-- The tree with a file at a path, new or in place of an earlier file. -/
def write (t : Tree) (path : Path) (content : Option String) : Except Fault Tree :=
  match t.locate path with
  | .error f => .error f
  | .ok .directory => .error .isDirectory
  | .ok (.named place asDirectory) =>
    if asDirectory ∨ t.find? place = some .directory then .error .isDirectory
    else .ok (t.put place (.file content))

/-- The tree with the file at `source` under the path `target`; a file there is replaced.
Only files are renamed. -/
def rename (t : Tree) (source target : Path) : Except Fault Tree :=
  match t.locate source with
  | .error f => .error f
  | .ok source =>
    match t.locate target with
    | .error f => .error f
    | .ok target =>
      match source, target with
      | .named source sourceAsDirectory, .named target targetAsDirectory =>
        match t.find? source with
        | none => .error .missing
        | some .directory => .error .isDirectory
        | some (.file content) =>
          if sourceAsDirectory ∨ targetAsDirectory then .error .notDirectory
          else if t.find? target = some .directory then .error .isDirectory
          else .ok ((t.remove source).put target (.file content))
      | _, _ => .error .busy

/-! ## Making and clearing -/

/-- The tree with a directory along the parts; those that are missing are made. -/
def makeAlong (t : Tree) (place : Place) : List String → Except Fault Tree
  | [] => .ok t
  | part :: parts =>
    match t.enter place part with
    | .error f => .error f
    | .ok place =>
      match t.find? place with
      | none => (t.put place .directory).makeAlong place parts
      | some .directory => t.makeAlong place parts
      | some (.file _) => .error .notDirectory

/-- The tree with a directory at a path, and with those around it. -/
def makeDirectory (t : Tree) (path : Path) : Except Fault Tree :=
  let parts := path.parts
  t.makeAlong (if parts.head? = some "" then ["/"] else []) parts

/-- The tree without what stands at a path, and without all below it. -/
def clear (t : Tree) (path : Path) : Except Fault Tree :=
  match t.locate path with
  | .error f => .error f
  | .ok .directory => .error .busy
  | .ok (.named place _) =>
    match t.find? place with
    | none => .error .missing
    | some _ => .ok (t.remove place)

/-- What stands below the working directory, each entry under its path. -/
def listing (t : Tree) : List (String × Entry) :=
  (t.entries.filter fun e => !(e.1.take 1).all isOutward).map fun e => (Path.join e.1, e.2)

end Tree

end MacConsent.Files
