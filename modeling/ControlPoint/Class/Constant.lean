import ControlPoint.Language.Keyword
import ControlPoint.Language.Literal
import ControlPoint.Language.Template

/-!
The named constants of a class. Every text that the code of a class refers to has one: it is asked
for by its group and its value, declared when first asked for, and the same ever after.
-/

namespace ControlPoint.Class

open Naming Template Text

/-- A declared constant. -/
structure Constant where
  identifier : String
  value : String
  comment : String
  deriving DecidableEq, Repr

/-- The constants of a class: groups in the order of their first use, and in each group constants
    in the order of theirs. -/
structure ConstantPool where
  groups : List (String × List Constant)
  names : Scope

namespace ConstantPool

/-- The group of the names of actions. -/
def actionNames : String := "ActionName"

/-- The group of the names of state variables. -/
def variableNames : String := "StateVarName"

/-- The group of the unique names of embedded devices. -/
def deviceNames : String := "DeviceUDN"

/-- The group of the identifiers of services. -/
def serviceIds : String := "ServiceID"

/-- The group of the values that a state variable allows. -/
def allowedValues (name : String) : String := "AllowedValue_" ++ name

def empty (rule : CaseRule) : ConstantPool := ⟨[], Scope.empty rule⟩

/-- The constants of a group. -/
def group (p : ConstantPool) (name : String) : List Constant :=
  match p.groups.find? fun (g, _) => g == name with
  | some (_, constants) => constants
  | none => []

/-- The constant of a value in a group. -/
def lookup? (p : ConstantPool) (group value : String) : Option Constant :=
  (p.group group).find? fun c => c.value == value

def size (p : ConstantPool) : Nat := (p.groups.flatMap Prod.snd).length

def isEmpty (p : ConstantPool) : Bool := p.size == 0

/-- Puts a constant at the end of its group; a group that is not there yet comes last. -/
def appendTo (group : String) (c : Constant) :
    List (String × List Constant) → List (String × List Constant)
  | [] => [(group, [c])]
  | (g, constants) :: rest =>
    if g == group then (g, constants ++ [c]) :: rest else (g, constants) :: appendTo group c rest

/-- The name that a new constant would best have: after its group and its name, or after its value
    where the name is blank. -/
def wantedName (group name value : String) : String :=
  Language.constantName (sanitize .type group)
    (sanitize .type (if isBlankText name then value else name))

/-- The identifier of the constant of a value in a group. If there is none it is declared, under a
    free name and with the comment. -/
def get (p : ConstantPool) (group name value comment : String) : String × ConstantPool :=
  match p.lookup? group value with
  | some c => (c.identifier, p)
  | none =>
    let (identifier, names) := p.names.allocate (wantedName group name value)
    (identifier, ⟨appendTo group ⟨identifier, value, comment⟩ p.groups, names⟩)

/-- The declaration of a constant. -/
def declaration (l : Language) (v : Visibility) (c : Constant) : Except MissingValue String :=
  l.render .constant
    [("scope", l.visibilityWord v), ("name", c.identifier), ("literal", l.literal c.value),
      ("comment", c.comment)]

/-- The declarations of a group, as a region of its own. -/
def groupText (l : Language) (v : Visibility) (group : String × List Constant) :
    Except MissingValue String := do
  let lines ← group.2.mapM (declaration l v)
  l.render .region [("name", group.1), ("body", String.intercalate "\n" lines)]

/-- The declarations of all constants, a region for each group. -/
def definitions (l : Language) (v : Visibility) (p : ConstantPool) :
    Except MissingValue String := do
  let regions ← p.groups.mapM (groupText l v)
  return String.intercalate "\n\n" regions

end ConstantPool

end ControlPoint.Class
