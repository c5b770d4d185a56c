import ControlPoint.Class.Constant
import ControlPoint.Class.Options
import ControlPoint.Class.Probe
import ControlPoint.Description.Service
import ControlPoint.Language.TypeName

/-!
The class of a service: what it declares. A variable of a text type with listed values gets an
enumeration with a reading and a writing function, a property of that type and one for the raw
text; any other variable gets a property. A variable whose changes are announced gets an event with
its raiser. An action gets a method. All names of a class come from one scope, in the order of
declaration, so a later name gives way to an earlier one.
-/

namespace ControlPoint.Class

open Description Naming

/-- A member of an enumeration, with the constant of the value it stands for. -/
structure EnumMember where
  name : String
  constant : String
  deriving DecidableEq, Repr

/-- An enumeration of allowed values. Beside its members it has one for all other values. -/
structure EnumType where
  name : String
  parseFunction : String
  toStringFunction : String
  members : List EnumMember
  deriving DecidableEq, Repr

/-- The member for values that are not allowed. -/
def unknownMember : String := "_Unknown"

/-- An event and the method that raises it. -/
structure Event where
  name : String
  raiser : String
  deriving DecidableEq, Repr

/-- What a class declares for a state variable. A property is missing where the variable was found
    not to be accessible. -/
structure VariableMembers where
  source : StateVariable
  constant : String
  plainType : String
  enumeration : Option EnumType
  property : Option String
  textProperty : Option String
  event : Option Event
  deriving DecidableEq, Repr

/-- The type under which the variable's value is seen. -/
def VariableMembers.exposedType (v : VariableMembers) : String :=
  match v.enumeration with
  | some e => e.name
  | none => v.plainType

/-- A parameter of a method. -/
structure Parameter where
  source : Argument
  name : String
  deriving DecidableEq, Repr

/-- What a class declares for an action. -/
structure Method where
  source : Action
  constant : String
  name : String
  parameters : List Parameter
  deriving DecidableEq, Repr

/-- What the class of a service declares. Its name is not yet escaped. -/
structure ServiceClass where
  language : Language
  name : String
  members : List VariableMembers
  methods : List Method
  constants : ConstantPool

/-- A class in the making: the constants and the names given out so far. -/
structure Draft where
  constants : ConstantPool
  members : Scope

namespace Draft

/-- Gives out a name among the members of the class. -/
def allocate (d : Draft) (base : String) : String × Draft :=
  (d.members.freeName base, { d with members := d.members.reserve (d.members.freeName base) })

/-- The constant of a value in a group. -/
def constant (d : Draft) (group name value comment : String) : String × Draft :=
  ((d.constants.get group name value comment).1,
    { d with constants := (d.constants.get group name value comment).2 })

/-- Members for allowed values, each with its constant. -/
def enumMembers (l : Language) (d : Draft) (names : Scope) (group : String) :
    List String → List EnumMember × Draft
  | [] => ([], d)
  | value :: rest =>
    let (name, names) := names.allocate (sanitize .type value)
    let (constant, d) := d.constant group value value ""
    let (members, d) := enumMembers l d names group rest
    (⟨l.escape name, constant⟩ :: members, d)

/-- The enumeration of a variable's allowed values. -/
def enumType (l : Language) (d : Draft) (v : StateVariable) (base : String) : EnumType × Draft :=
  let (name, d) := d.allocate (base ++ "Enum")
  let (parseFunction, d) := d.allocate ("Parse" ++ name)
  let (toStringFunction, d) := d.allocate (name ++ "ToString")
  let names := (Scope.empty l.caseRule).reserve unknownMember
  let (members, d) :=
    enumMembers l d names (ConstantPool.allowedValues v.name) v.valueList.eraseDups
  (⟨l.escape name, l.escape parseFunction, l.escape toStringFunction,
    members⟩, d)

/-- The enumeration of a variable, if it makes one. -/
def enumType? (l : Language) (d : Draft) (v : StateVariable) (base : String) : Option EnumType × Draft :=
  if v.isEnumerated then
    let (e, d) := enumType l d v base
    (some e, d)
  else (none, d)

/-- A name that is given out on a condition, escaped. -/
def allocateIf (l : Language) (d : Draft) (wanted : Bool) (base : String) :
    Option String × Draft :=
  if wanted then
    let (name, d) := d.allocate base
    (some (l.escape name), d)
  else (none, d)

/-- The event of a variable whose changes are announced. -/
def event? (l : Language) (d : Draft) (v : StateVariable) (base : String) : Option Event × Draft :=
  if v.sendsEvents then
    let (name, d) := d.allocate (base ++ "Changed")
    let (raiser, d) := d.allocate ("On" ++ name)
    (some ⟨l.escape name, l.escape raiser⟩, d)
  else (none, d)

/-- What the class declares for a variable, accessible or not. -/
def variableMembers (l : Language) (d : Draft) (v : StateVariable) (accessible : Bool) :
    VariableMembers × Draft :=
  let base := sanitize .type v.name
  let (constant, d) := d.constant ConstantPool.variableNames v.name v.name v.dataTypeName
  let (enumeration, d) := enumType? l d v base
  let (property, d) := allocateIf l d accessible base
  let (textProperty, d) := allocateIf l d (accessible && v.isEnumerated) (base ++ "AsString")
  let (event, d) := event? l d v base
  (⟨v, constant, l.typeFor v.dataType?, enumeration, property, textProperty, event⟩, d)

/-- What the class declares for all variables, in order of declaration. -/
def addVariables (l : Language) (d : Draft) : List (StateVariable × Bool) → List VariableMembers × Draft
  | [] => ([], d)
  | (v, accessible) :: rest =>
    let (first, d) := variableMembers l d v accessible
    let (others, d) := addVariables l d rest
    (first :: others, d)

end Draft

/-- The variables that every method has. -/
def localNames : List String := ["loIn", "loOut", "loOutValues"]

/-- An argument whose direction is known. -/
def isDirected (a : Argument) : Bool := a.direction != .unknown

/-- Parameters for arguments, named in one scope. -/
def parametersFrom (l : Language) (names : Scope) : List Argument → List Parameter
  | [] => []
  | a :: rest =>
    let (name, names) := names.allocate (sanitize .parameter a.name)
    ⟨a, l.escape name⟩ :: parametersFrom l names rest

/-- The parameters of an action's method: the arguments whose direction is known. -/
def methodParameters (l : Language) (a : Action) : List Parameter :=
  parametersFrom l ((Scope.empty l.caseRule).reserveAll localNames) (a.arguments.filter isDirected)

namespace Draft

/-- What the class declares for an action. -/
def method (l : Language) (d : Draft) (a : Action) : Method × Draft :=
  let (constant, d) := d.constant ConstantPool.actionNames a.name a.name ""
  let (name, d) := d.allocate (sanitize .type a.name)
  (⟨a, constant, l.escape name, methodParameters l a⟩, d)

/-- What the class declares for all actions, in order of declaration. -/
def methods (l : Language) (d : Draft) : List Action → List Method × Draft
  | [] => ([], d)
  | a :: rest =>
    let (first, d) := method l d a
    let (others, d) := methods l d rest
    (first :: others, d)

end Draft

namespace ServiceClass

/-- The names that the template of a service's class declares. -/
def reservedMembers : List String :=
  ["moService", "Service", "StateVariableChanged", "ServiceInstanceDied"]

/-- The state in which the declaring of a class starts: its own name is taken and so are the names
    that the template declares. -/
def start (l : Language) (name : String) : Draft :=
  ⟨ConstantPool.empty l.caseRule,
    ((Scope.empty l.caseRule).reserve name).reserveAll reservedMembers⟩

/-- The variables of a service with what the answers say of each. Without answers, and for a
    variable that was not asked for, all is accessible. -/
def withAnswers (declared : List StateVariable) (answers : Option (List Answer)) :
    List (StateVariable × Bool) :=
  match answers with
  | none => declared.map fun v => (v, true)
  | some answers => declared.zipIdx.map fun (v, i) =>
      (v, (answers[i]?.map Answer.isAccessible).getD true)

/-- The class of a service. -/
def declare (l : Language) (className : String) (s : ServiceDescription)
    (answers : Option (List Answer)) : ServiceClass :=
  let name := sanitize .type className
  let (members, d) :=
    Draft.addVariables l (start l name) (withAnswers s.stateVariables.values answers)
  let (methods, d) := Draft.methods l d s.actions.values
  ⟨l, name, members, methods, d.constants⟩

end ServiceClass

end ControlPoint.Class
