import ControlPoint.Text.Lower
import ControlPoint.Yaml.Value

/-!
Documents of settings: values under paths of keys. Keys are compared in lower case, a document is merged
over another key by key, and giving a value to a path makes the mappings on the way.
-/

namespace ControlPoint.Settings

open Yaml

/-- The keys on the way to a value, from the outside in. -/
abbrev KeyPath := List String

/-- A key as it stands in documents. -/
def key (name : String) : Value :=
  .text (Text.lower name)

/-! ### Reading and writing -/

/-- Why there is no value at a path. Both name the keys up to where the search ended. -/
inductive SearchFault
  | notMapping (path : KeyPath)
  | missing (path : KeyPath)
  deriving DecidableEq, Repr

def SearchFault.message : SearchFault → String
  | notMapping path => "Path " ++ String.intercalate "." path ++ " is not a mapping"
  | missing path => "Path " ++ String.intercalate "." path ++ " does not exist"

/-- The value at a path, after the keys in `before`. -/
def findFrom (before : KeyPath) : KeyPath → Value → Except SearchFault Value
  | [], v => .ok v
  | name :: rest, .mapping entries =>
    match Entries.get? entries (key name) with
    | some v => findFrom (before ++ [name]) rest v
    | none => .error (.missing (before ++ [name]))
  | _ :: _, _ => .error (.notMapping before)

/-- The value at a path. -/
def find (path : KeyPath) (v : Value) : Except SearchFault Value :=
  findFrom [] path v

/-- Why no value can be given to a path. -/
inductive SetFault
  | emptyPath
  | notMapping
  deriving DecidableEq, Repr

def SetFault.message : SetFault → String
  | emptyPath => "Empty configuration path"
  | notMapping => "Current node is not a map"

/-- The document in which the value at a path is another one. Mappings that are missing on the way are
    made; where something else is in the way, there is no such document. -/
def set : KeyPath → Value → Value → Except SetFault Value
  | [], value, _ => .ok value
  | name :: rest, value, .mapping entries => do
    let inner := (Entries.get? entries (key name)).getD (.mapping [])
    let inner ← set rest value inner
    return .mapping (Entries.insert entries (key name) inner)
  | _ :: _, _, _ => .error .notMapping

/-! ### Keys -/

/-- A key in lower case, if it is a text. -/
def lowerKey : Value → Value
  | .text name => key name
  | other => other

mutual

/-- The value with all keys in lower case that lie in mappings and sequences alone. Of keys that coincide,
    the value of the last one counts, in the place of the first one. -/
def lowerKeys : Value → Value
  | .mapping entries => .mapping (lowerEntries [] entries)
  | .sequence items => .sequence (lowerItems items)
  | other => other

/-- Adds entries with all keys in lower case to a mapping. -/
def lowerEntries (done : Entries) : List (Value × Value) → Entries
  | [] => done
  | (k, v) :: rest => lowerEntries (done.insert (lowerKey k) (lowerKeys v)) rest

/-- Items with all keys in lower case. -/
def lowerItems : List Value → List Value
  | [] => []
  | item :: rest => lowerKeys item :: lowerItems rest

end

/-! ### Merging -/

mutual

/-- A document over another one. Two mappings are merged key by key; of anything else, the upper one
    counts. -/
def merge (lower : Value) : Value → Value
  | .mapping upper =>
    match lower with
    | .mapping entries => .mapping (mergeEntries entries upper)
    | _ => .mapping upper
  | upper => upper

/-- The entries of a mapping over those of another one, in whose order the old keys stay. -/
def mergeEntries (lower : Entries) : List (Value × Value) → Entries
  | [] => lower
  | (k, v) :: rest =>
    match lower.get? k with
    | some old => mergeEntries (lower.insert k (merge old v)) rest
    | none => mergeEntries (lower ++ [(k, v)]) rest

end

end ControlPoint.Settings
