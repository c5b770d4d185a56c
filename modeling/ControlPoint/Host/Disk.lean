import ControlPoint.Host.Basic
import ControlPoint.Host.Path

/-!
A file system in memory. Paths are walked name by name from the root or from the working directory.
-/

namespace ControlPoint.Host

/-- The names from the root to a file or directory. -/
abbrev Location := List String

/-- What is at a location. In a closed directory nothing new can be made. -/
inductive Item
  | directory (isClosed : Bool)
  | file (text : String)
  deriving DecidableEq, Repr

/-- A file system: what is at which location, and the working directory. -/
structure Disk where
  items : List (Location × Item)
  working : Location

namespace Disk

/-- The longest name in bytes. -/
def longestName : Nat := 255

/-- What is at a location. -/
def item? (d : Disk) (l : Location) : Option Item :=
  if l.isEmpty then some (.directory false)
  else (d.items.find? fun (known, _) => known == l).map Prod.snd

/-- Puts something at a location. -/
def put (d : Disk) (l : Location) (i : Item) : Disk :=
  if (d.item? l).isSome then
    { d with items := d.items.map fun (known, old) => if known == l then (known, i) else (known, old) }
  else { d with items := d.items ++ [(l, i)] }

/-- Takes away what is at a location. -/
def erase (d : Disk) (l : Location) : Disk :=
  { d with items := d.items.filter fun (known, _) => known != l }

/-! ### Walking -/

/-- One name further from a location, where there must be a directory. -/
def step (d : Disk) (l : Location) (name : String) : Except Fault Location :=
  match d.item? l with
  | some (.directory _) =>
    if isIdle name then .ok l
    else if name == ".." then .ok l.dropLast
    else if longestName < name.utf8ByteSize then .error .nameTooLong
    else .ok (l ++ [name])
  | some (.file _) => .error .notDirectory
  | none => .error .missing

/-- The location that names lead to. There need not be anything. -/
def walk (d : Disk) (names : List String) (start : Location) : Except Fault Location :=
  names.foldlM d.step start

/-- Where the walk along a path starts. -/
def start (d : Disk) (path : String) : Location :=
  if isAbsolute path then [] else d.working

/-- The location that a path leads to. -/
def locate (d : Disk) (path : String) : Except Fault Location :=
  if path == "" then .error .missing
  else if path.toList.contains '\x00' then
    .error (.other "file name contained an unexpected NUL byte")
  else d.walk (pathNames path) (d.start path)

/-- What is at a path, and its location. -/
def look (d : Disk) (path : String) : Except Fault (Location × Item) := do
  let l ← d.locate path
  match d.item? l with
  | some i => .ok (l, i)
  | none => .error .missing

/-! ### Operations -/

/-- The path of a location. -/
def pathOf (l : Location) : String :=
  "/" ++ String.intercalate "/" l

/-- Whether there is a directory at a path. -/
def hasDirectory (d : Disk) (path : String) : Bool :=
  match d.look path with
  | .ok (_, .directory _) => true
  | _ => false

/-- The text of the file at a path. -/
def readFile (d : Disk) (path : String) : Except Fault String := do
  match ← d.look path with
  | (_, .file text) => .ok text
  | (_, .directory _) => .error .isDirectory

/-- Puts something new at a location, in a directory that is there. -/
def create (d : Disk) (l : Location) (i : Item) : Except Fault Disk :=
  match d.item? l.dropLast with
  | some (.directory false) => .ok (d.put l i)
  | some (.file _) => .error .notDirectory
  | _ => .error .missing

/-- Writes a file, in place of the one that may be at the path. -/
def writeFile (d : Disk) (path text : String) : Except Fault Disk := do
  let l ← d.locate path
  match d.item? l with
  | some (.directory _) => .error .isDirectory
  | some (.file _) => .ok (d.put l (.file text))
  | none => d.create l (.file text)

/-- Removes the file at a path. -/
def removeFile (d : Disk) (path : String) : Except Fault Disk := do
  match ← d.look path with
  | (l, .file _) => .ok (d.erase l)
  | (_, .directory _) => .error .isDirectory

/-- Makes a directory at the end of some names. -/
def makeDirectory (d : Disk) (names : List String) (start : Location) : Except Fault Disk := do
  let l ← d.walk names start
  if (d.item? l).isSome then .error .present else d.create l (.directory false)

/-- Whether names lead to a directory. -/
def leadsToDirectory (d : Disk) (names : List String) (start : Location) : Bool :=
  match d.walk names start with
  | .ok l =>
    match d.item? l with
    | some (.directory _) => true
    | _ => false
  | .error _ => false

/-- Makes a directory, given the names to it from the last one to the first one, and before it the one
    that it lies in, if that is missing. -/
def makeAll (start : Location) (d : Disk) : List String → Except Fault Disk
  | [] => .ok d
  | name :: outer =>
    let names := (name :: outer).reverse
    match d.makeDirectory names start with
    | .ok d => .ok d
    | .error .missing => do
      let d ← makeAll start d outer
      if d.leadsToDirectory names start then .ok d else d.makeDirectory names start
    | .error fault => if d.leadsToDirectory names start then .ok d else .error fault

/-- Makes the directory at a path with all that it lies in, unless it is there. -/
def makeDirectories (d : Disk) (path : String) : Except Fault Disk :=
  if path.toList.contains '\x00' then
    .error (.other "file name contained an unexpected NUL byte")
  else makeAll (d.start path) d ((pathNames path).filter fun name => !isIdle name).reverse

end Disk

end ControlPoint.Host
