import ControlPoint.Description.DataType
import ControlPoint.Description.KeyedMap
import ControlPoint.Number.Binary64

/-!
The description of a service: its actions with their arguments, and the table of its state variables
with the values these allow.
-/

namespace ControlPoint.Description

open Markup Text Number

/-- The version of the architecture that a description declares. -/
structure SpecVersion where
  major : Nat
  minor : Nat
  deriving DecidableEq, Repr

/-- Which way an argument goes. -/
inductive Direction
  | input
  | output
  | unknown
  deriving DecidableEq, Repr

/-- Reads a direction; any other word leaves it unknown. -/
def Direction.ofText (text : String) : Direction :=
  let word := lowerAscii (trim text)
  if word == "in" then .input
  else if word == "out" then .output
  else .unknown

def Direction.name : Direction → String
  | .input => "in"
  | .output => "out"
  | .unknown => "unknown"

/-- An argument of an action. `related` is the rank in the state table of the variable that the
    argument names, once this has been looked up. -/
structure Argument where
  element : Element
  name : String
  direction : Direction
  relatedStateVariable : String
  isReturn : Bool
  related : Option Nat
  deriving DecidableEq, Repr

def Argument.blank (element : Element) : Argument :=
  ⟨element, "", .unknown, "", false, none⟩

def Argument.isInput (a : Argument) : Bool := a.direction == .input

def Argument.isOutput (a : Argument) : Bool := a.direction == .output

/-- An action with its arguments in order of declaration. -/
structure Action where
  element : Element
  name : String
  arguments : List Argument
  deriving DecidableEq, Repr

def Action.blank (element : Element) : Action := ⟨element, "", []⟩

instance : Described Action := ⟨.action, Action.name⟩

/-- The input arguments, each with its position among the input arguments alone. -/
def Action.inputs (a : Action) : List (Nat × Argument) :=
  (a.arguments.filter Argument.isInput).zipIdx.map fun (argument, i) => (i, argument)

/-- The output arguments, each with its position among the output arguments alone. -/
def Action.outputs (a : Action) : List (Nat × Argument) :=
  (a.arguments.filter Argument.isOutput).zipIdx.map fun (argument, i) => (i, argument)

/-- The values that a variable of a text type may take, in order of declaration, each once. -/
structure AllowedValueList where
  element : Element
  values : List String
  deriving DecidableEq, Repr

/-- Adds an allowed value unless it is there already. -/
def AllowedValueList.add (l : AllowedValueList) (value : String) : AllowedValueList :=
  if l.values.contains value then l else { l with values := l.values ++ [value] }

/-- The limits of a variable of a number type, as texts; an empty text is no limit. -/
structure AllowedValueRange where
  element : Element
  minimum : String
  maximum : String
  step : String
  deriving DecidableEq, Repr

/-- A text, unless it is empty. -/
def nonEmpty? (text : String) : Option String :=
  if text == "" then none else some text

/-- Whether a number lies between the limits. A limit that is absent or no number allows all. -/
def AllowedValueRange.admits (r : AllowedValueRange) (value : Binary64) : Bool :=
  let isAbove := match (nonEmpty? r.minimum).bind Binary64.read? with
    | some least => least.le value
    | none => true
  let isBelow := match (nonEmpty? r.maximum).bind Binary64.read? with
    | some most => value.le most
    | none => true
  isAbove && isBelow

/-- A state variable. -/
structure StateVariable where
  element : Element
  name : String
  dataTypeName : String
  defaultValue : Option String
  allowedValues : Option AllowedValueList
  allowedRange : Option AllowedValueRange
  deriving DecidableEq, Repr

def StateVariable.blank (element : Element) : StateVariable :=
  ⟨element, "", "", none, none, none⟩

instance : Described StateVariable := ⟨.stateVariable, StateVariable.name⟩

/-- The data type, where the declared name is a standard one. -/
def StateVariable.dataType? (v : StateVariable) : Option DataType :=
  DataType.parse? v.dataTypeName

/-- Whether changes of the variable are announced, which is so unless the description denies it. -/
def StateVariable.sendsEvents (v : StateVariable) : Bool :=
  v.element.switch "sendEvents" true

def StateVariable.isMulticast (v : StateVariable) : Bool :=
  v.element.switch "multicast" false

/-- The allowed values in order, none if there is no list. -/
def StateVariable.valueList (v : StateVariable) : List String :=
  match v.allowedValues with
  | some l => l.values
  | none => []

/-- Whether the variable makes an enumeration: its type is textual and it allows at least one listed
    value. -/
def StateVariable.isEnumerated (v : StateVariable) : Bool :=
  (match v.dataType? with
    | some t => t.isEnumerable
    | none => false) && !v.valueList.isEmpty

/-- The description of a service. -/
structure ServiceDescription where
  element : Element
  specVersion : SpecVersion
  actions : KeyedMap Action
  stateVariables : KeyedMap StateVariable

def ServiceDescription.blank (element : Element) : ServiceDescription :=
  ⟨element, ⟨0, 0⟩, .empty, .empty⟩

/-- The variable that an argument is related to. -/
def ServiceDescription.relatedVariable? (s : ServiceDescription) (a : Argument) :
    Option StateVariable :=
  a.related.bind s.stateVariables.at?

/-- Looks up, for an argument, the variable that it names. -/
def Argument.resolveIn (table : KeyedMap StateVariable) (a : Argument) : Argument :=
  { a with related := table.indexOf? (trim a.relatedStateVariable) }

/-- Looks up the related variables of all arguments. This waits for the whole description, as the
    state table may come after the actions. -/
def ServiceDescription.resolveReferences (s : ServiceDescription) : ServiceDescription :=
  { s with actions := s.actions.mapValues fun action =>
      { action with arguments := action.arguments.map (Argument.resolveIn s.stateVariables) } }

/-- What the looking up reports: every argument whose variable is not in the table. -/
def ServiceDescription.referenceLog (s : ServiceDescription) : List Log.Entry :=
  s.actions.values.flatMap fun action =>
    action.arguments.filterMap fun a =>
      if a.related.isNone then
        some (Log.debug "Unresolved relatedStateVariable"
          [("action", action.name), ("argument", a.name), ("related", a.relatedStateVariable)])
      else none

end ControlPoint.Description
