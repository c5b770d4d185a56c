import ControlPoint.Host.Basic
import ControlPoint.Settings.Basic

/-!
Settings on a machine: where they are looked for, how they are read, and how a change is kept. What was
read is written back at once, with the settings of the environment in it.
-/

namespace ControlPoint

open Yaml Host

namespace Settings

variable {m : Type → Type} [Monad m] [Host m]

/-- Why settings cannot be read or kept. -/
inductive Fault
  | directoryNotMade (path : String)
  | notDirectory (path : String)
  | notWritable (path : String)
  | invalidFile (path : String)
  | notWritten (path : String)
  | refused (fault : SetFault)
  | system (fault : Host.Fault)

def Fault.message : Fault → String
  | directoryNotMade path => "Cannot create config directory " ++ path
  | notDirectory path => path ++ " is not a directory"
  | notWritable path => "Config directory " ++ path ++ " is not writable"
  | invalidFile path => "Invalid configuration file " ++ path
  | notWritten path => "Cannot write " ++ path
  | refused fault => fault.message
  | system fault => fault.message

/-! ### The directory -/

/-- The name of directories that are looked for. -/
def directoryName : String := ".pmogen"

/-- The variable that names the directory. -/
def directoryVariable : String := "PMOGEN_CONFIG"

/-- The directory in the user's own one, if there is any. -/
def homeDirectory? (e : Environment) : m (Option String) := do
  match (e.get? "HOME").filter (· != "") with
  | some home =>
    let path := joinPath home directoryName
    return if ← isPresent path then some path else none
  | none => return none

/-- The directory with the settings: the given one, else the one in the environment, else the first that
    is there of the one here and the one of the user, else the one here. -/
def chooseDirectory (e : Environment) (given : String) : m String := do
  if given != "" then return given
  match e.get? directoryVariable with
  | some path =>
    report (Log.info "Trying to load config from env"
      [("env_var", directoryVariable), ("path", path)])
    return path
  | none =>
    if ← isPresent directoryName then return directoryName
    else return (← homeDirectory? e).getD directoryName

/-- Makes a directory if it is missing, and makes sure that files can be written there. -/
def prepareDirectory (path : String) : m (Except Fault Unit) := do
  if !(← isPresent path) then
    if let .error _ ← makeDirectories path then return .error (.directoryNotMade path)
  if !(← isDirectory path) then return .error (.notDirectory path)
  let trial := joinPath path ".write_test"
  if let .error _ ← writeFile trial "test" then return .error (.notWritable path)
  match ← removeFile trial with
  | .ok _ => return .ok ()
  | .error fault => return .error (.system fault)

/-! ### Reading and keeping -/

/-- The document that counts, given the text of the file if there is one: the defaults under the file,
    with keys in lower case. -/
def documentOf? (file : Option String) : Option Value :=
  match file with
  | none => some (lowerKeys defaults)
  | some text => (Value.read? text).map fun v => lowerKeys (merge defaults (lowerKeys v))

/-- Writes the settings. -/
def save (s : Settings) : m (Except Fault Unit) := do
  match ← writeFile s.path s.text with
  | .ok _ => return .ok ()
  | .error _ => return .error (.notWritten s.path)

/-- The text that is in the file with the settings, if it can be read. -/
def saved? (s : Settings) : m (Option String) :=
  return (← readFile s.path).toOption

/-- Reads the file of a directory that is prepared. -/
def readDirectory (e : Environment) (directory : String) : m (Except Fault Settings) := do
  report (Log.info "Using config directory" [("config_dir", directory)])
  let path := joinPath directory fileName
  let file := (← readFile path).toOption
  let words :=
    if file.isSome then "Loaded config file" else "Config file not found, using default embedded config"
  report (Log.info words [("config_file", path)])
  match documentOf? file with
  | none => return .error (.invalidFile path)
  | some document =>
    let (document, entries) := overrideAll document e.assignments
    reportAll entries
    let settings : Settings := ⟨directory, document⟩
    match ← settings.save with
    | .ok _ => return .ok settings
    | .error fault => return .error fault

/-- Reads the settings, from the given directory if it is not empty, and writes what came of them. -/
def load (e : Environment) (given : String) : m (Except Fault Settings) := do
  let directory ← chooseDirectory e given
  match ← prepareDirectory directory with
  | .ok _ => readDirectory e directory
  | .error fault => return .error fault

/-- Keeps a changed document, unless the change was refused. The changed settings count even if they
    cannot be written. -/
def keep (s : Settings) (changed : Except SetFault Value) : m (Settings × Except Fault Unit) := do
  match changed with
  | .ok document =>
    let settings := { s with document := document }
    return (settings, ← settings.save)
  | .error fault => return (s, .error (.refused fault))

/-- Gives a value to a path. -/
def put (s : Settings) (path : KeyPath) (value : Value) : m (Settings × Except Fault Unit) :=
  s.keep (set path value s.document)

/-- Gives a value to a path, both as texts. -/
def putText (s : Settings) (path text : String) : m (Settings × Except Fault Unit) :=
  s.keep (setText path text s.document)

end Settings

end ControlPoint
