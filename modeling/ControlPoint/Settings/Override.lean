import ControlPoint.Log
import ControlPoint.Settings.Document
import ControlPoint.Text.Split
import ControlPoint.Yaml.Document

/-!
Settings given in texts of their own: by variables of the environment, whose names hold the keys divided
by two underscores, and by paths in which full stops divide the keys. One that does not fit the document is
left out.
-/

namespace ControlPoint.Settings

open Yaml

/-- What the names of variables that override settings begin with. -/
def overrideStart : String := "PMOGEN_CONFIG__"

/-- The value that a text stands for. A text that is no document stands for itself. -/
def valueOf (text : String) : Value :=
  (Value.read? text).getD (.text text)

/-- The keys that stand between separators, without empty ones. -/
def keysBetween (separator text : String) : KeyPath :=
  (Text.splitWord separator text).filter (· != "")

/-- The document in which the value at a path with full stops is another one. -/
def setText (path text : String) (v : Value) : Except SetFault Value :=
  let keys := keysBetween "." path
  if keys.isEmpty then .error .emptyPath else set keys (valueOf text) v

/-- The keys in the name of a variable, if it overrides a setting. -/
def overridePath? (name : String) : Option KeyPath := do
  let rest ← Text.afterStart overrideStart.toList name.toList
  let keys := keysBetween "__" (String.ofList rest)
  if keys.isEmpty then none else some keys

/-- The document with the setting that a variable overrides. -/
def override (v : Value) (assignment : String × String) : Value × List Log.Entry :=
  match overridePath? assignment.1 with
  | none => (v, [])
  | some keys =>
    let applying := Log.debug "Applying configuration override" [("key", assignment.1)]
    match set keys (valueOf assignment.2) v with
    | .ok v => (v, [applying])
    | .error fault => (v, [applying, Log.warn "Configuration override ignored"
        [("key", assignment.1), ("error", fault.message)]])

/-- The document with the settings that variables override, one after another. -/
def overrideAll (v : Value) : List (String × String) → Value × List Log.Entry
  | [] => (v, [])
  | first :: rest =>
    let (v, entries) := override v first
    let (v, further) := overrideAll v rest
    (v, entries ++ further)

end ControlPoint.Settings
