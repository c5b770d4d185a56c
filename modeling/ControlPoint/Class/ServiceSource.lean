import ControlPoint.Class.Layout
import ControlPoint.Class.Service

/-!
The source text of a service's class: constants, enumerations, properties, events and actions, each
in a region of its own.
-/

namespace ControlPoint.Class

open Description Template

/-- The arguments of a method that go one way, each with its parameter and its position among them. -/
def Method.directed (m : Method) (way : Direction) : List (Parameter × Nat) :=
  (m.parameters.filter fun p => p.source.direction == way).zipIdx

namespace ServiceClass

/-- The word for who may use the members of the class. -/
def scopeWord (c : ServiceClass) (o : Options) : String := c.language.visibilityWord o.visibility

/-- An enumeration with its reading and its writing function. -/
def enumerationText (c : ServiceClass) (o : Options) (v : VariableMembers) (e : EnumType) :
    Except MissingValue String := do
  let l := c.language
  let members ← joinAll "\n" (fun name => l.render .enumMember [("name", .text name)])
    (e.members.map EnumMember.name ++ [unknownMember])
  let enumeration ← l.render .enumeration
    [("doc", ← docComment l ("Allowed values of the " ++ v.source.name ++ " state variable.") ""),
      ("scope", c.scopeWord o), ("name", e.name), ("members", members)]
  let fields (m : EnumMember) : Fields :=
    [("enum_name", e.name), ("member", m.name), ("constant", m.constant)]
  let parseCases ← joinAll "\n" (fun m => l.render .enumParseCase (fields m)) e.members
  let parse ← l.render .enumParse
    [("scope", c.scopeWord o), ("function_name", e.parseFunction), ("enum_name", e.name),
      ("unknown_member", unknownMember), ("cases", parseCases)]
  let writeCases ← joinAll "\n" (fun m => l.render .enumToStringCase (fields m)) e.members
  let write ← l.render .enumToString
    [("scope", c.scopeWord o), ("function_name", e.toStringFunction), ("enum_name", e.name),
      ("cases", writeCases)]
  return String.intercalate "\n\n" [enumeration, parse, write]

def enumerationsText (c : ServiceClass) (o : Options) : Except MissingValue String :=
  joinAll "\n\n" (fun (v, e) => c.enumerationText o v e)
    (c.members.filterMap fun v => v.enumeration.map fun e => (v, e))

/-- The remarks on a variable: its allowed range and its default value. -/
def variableRemarks (v : StateVariable) : String :=
  let range := match v.allowedRange with
    | none => []
    | some r =>
      let step := match nonEmpty? r.step with
        | some step => ", step " ++ step
        | none => ""
      ["Allowed range: " ++ (nonEmpty? r.minimum).getD "?" ++ " to " ++
        (nonEmpty? r.maximum).getD "?" ++ step ++ "."]
  let default := match v.defaultValue with
    | none => []
    | some value => ["Default value: " ++ value ++ "."]
  String.intercalate "\n" (range ++ default)

/-- The properties of a variable: one, or two where there is one for the raw text. -/
def propertyText (c : ServiceClass) (o : Options) (v : VariableMembers) (property : String) :
    Except MissingValue String := do
  let l := c.language
  let doc ← docComment l ("Current value of the " ++ v.source.name ++ " state variable (" ++
    v.source.dataTypeName ++ ").") (variableRemarks v.source)
  match v.enumeration, v.textProperty with
  | some e, some textProperty =>
    l.render .enumProperty
      [("doc", doc),
        ("string_doc",
          ← docComment l ("Raw text value of the " ++ v.source.name ++ " state variable.") ""),
        ("scope", c.scopeWord o), ("name", property), ("string_name", textProperty),
        ("enum_name", e.name), ("unknown_member", unknownMember),
        ("parse_function", e.parseFunction), ("constant", v.constant)]
  | _, _ =>
    l.render .property
      [("doc", doc), ("scope", c.scopeWord o), ("name", property), ("type", v.plainType),
        ("constant", v.constant)]

def propertiesText (c : ServiceClass) (o : Options) : Except MissingValue String :=
  joinAll "\n\n" (fun (v, property) => c.propertyText o v property)
    (c.members.filterMap fun v => v.property.map fun property => (v, property))

/-- An event with the method that raises it. -/
def eventText (c : ServiceClass) (o : Options) (v : VariableMembers) (e : Event) :
    Except MissingValue String := do
  let l := c.language
  let event ← l.render .event
    [("doc", ← docComment l ("Raised when the " ++ v.source.name ++ " state variable changes.") ""),
      ("scope", c.scopeWord o), ("name", e.name), ("type", v.exposedType)]
  let raiser ← l.render .eventRaiser
    [("name", e.raiser), ("event_name", e.name), ("type", v.exposedType)]
  return String.intercalate "\n\n" [event, raiser]

/-- The name of the reading function, empty where there is no enumeration. -/
def parseFunction (e : Option EnumType) : String :=
  (e.map EnumType.parseFunction).getD ""

/-- The name of the writing function, empty where there is no enumeration. -/
def toStringFunction (e : Option EnumType) : String :=
  (e.map EnumType.toStringFunction).getD ""

/-- The branch that hands a notification on to the raiser of the variable's event. -/
def branchText (c : ServiceClass) (v : VariableMembers) (e : Event) : Except MissingValue String :=
  c.language.render .dispatchBranch
    [("constant", v.constant), ("raiser", e.raiser), ("type", v.exposedType),
      ("enumerated", v.enumeration.isSome), ("parse_function", parseFunction v.enumeration)]

/-- The variables that have an event. -/
def evented (c : ServiceClass) : List (VariableMembers × Event) :=
  c.members.filterMap fun v => v.event.map fun e => (v, e)

/-- The events, and after them the one place where notifications arrive. -/
def eventsText (c : ServiceClass) (o : Options) : Except MissingValue String := do
  let blocks ← c.evented.mapM fun (v, e) => c.eventText o v e
  let branches ← joinAll "\n" (fun (v, e) => c.branchText v e) c.evented
  let dispatcher ← c.language.render .dispatcher [("branches", branches)]
  return String.intercalate "\n\n" (blocks ++ [dispatcher])

/-- What the class declares for the variable to which an argument is related. -/
def related? (c : ServiceClass) (a : Argument) : Option VariableMembers :=
  a.related.bind fun i => c.members[i]?

/-- The type of an argument; without a related variable nothing is known of it. -/
def argumentType (c : ServiceClass) (a : Argument) : String :=
  match c.related? a with
  | some v => v.exposedType
  | none => c.language.unknownType

/-- The enumeration of an argument's values. -/
def argumentEnum? (c : ServiceClass) (a : Argument) : Option EnumType :=
  (c.related? a).bind VariableMembers.enumeration

def parameterText (c : ServiceClass) (isOut : Bool) (p : Parameter) : Except MissingValue String :=
  c.language.render .parameter
    [("out", isOut), ("name", p.name), ("type", c.argumentType p.source)]

/-- The putting of an input argument into its cell of the call. -/
def inputText (c : ServiceClass) (p : Parameter) (index : Nat) : Except MissingValue String :=
  let e := c.argumentEnum? p.source
  c.language.render .inAssignment
    [("index", .whole index), ("name", p.name), ("enumerated", e.isSome),
      ("to_string_function", toStringFunction e)]

/-- The taking of an output argument out of its cell of the answer. -/
def outputText (c : ServiceClass) (p : Parameter) (index : Nat) : Except MissingValue String :=
  let e := c.argumentEnum? p.source
  c.language.render .outValue
    [("index", .whole index), ("type", c.argumentType p.source), ("enumerated", e.isSome),
      ("parse_function", parseFunction e)]

/-- The remarks on a method: a line for each of its arguments. -/
def methodRemarks (m : Method) : String :=
  String.intercalate "\n" (m.parameters.map fun p =>
    p.source.name ++ " (" ++ p.source.direction.name ++ "): " ++
      (nonEmpty? p.source.relatedStateVariable).getD "no related state variable")

/-- A method. With exactly one output argument it returns that; else it returns nothing and has a
    parameter for each output argument. -/
def methodText (c : ServiceClass) (o : Options) (m : Method) : Except MissingValue String := do
  let l := c.language
  let ins := m.directed .input
  let assignments ← joinAll "\n" (fun (p, i) => c.inputText p i) ins
  let doc ← docComment l ("Invokes the " ++ m.source.name ++ " action.") (methodRemarks m)
  let call : Fields :=
    [("doc", doc), ("scope", c.scopeWord o), ("name", m.name), ("constant", m.constant),
      ("in_count", .whole ins.length), ("in_upper", .whole (Int.ofNat ins.length - 1)),
      ("in_assignments", assignments)]
  match m.directed .output with
  | [(single, index)] =>
    let parameters ← joinAll ", " (fun (p, _) => c.parameterText false p) ins
    let result : Fields :=
      [("parameters", parameters), ("return_type", c.argumentType single.source),
        ("return_value", ← c.outputText single index)]
    l.render .singleReturnAction (call ++ result)
  | outs =>
    let parameters ← joinAll ", " (fun p => c.parameterText p.source.isOutput p) m.parameters
    let results ← joinAll "\n" (fun (p, i) => do
      l.render .outAssignment [("name", p.name), ("value", ← c.outputText p i)]) outs
    let result : Fields := [("parameters", parameters), ("out_assignments", results)]
    l.render .multiOutAction (call ++ result)

def methodsText (c : ServiceClass) (o : Options) : Except MissingValue String :=
  joinAll "\n\n" (c.methodText o) c.methods

/-- What the class is for, in a sentence. -/
def summary (o : Options) : String :=
  if o.sourceType == "" then "Control point wrapper for a UPnP service."
  else "Control point wrapper for the " ++ o.sourceType ++ " service."

/-- The source of the class. -/
def source (c : ServiceClass) (o : Options) : Except MissingValue String := do
  let body ← regions c.language
    [("Constants", ← c.constants.definitions c.language o.visibility),
      ("Enumerations", ← c.enumerationsText o), ("Properties", ← c.propertiesText o),
      ("Events", ← c.eventsText o), ("Actions", ← c.methodsText o)]
  classSource c.language .serviceClass o c.name (summary o) body

/-- The file of the class. -/
def file (c : ServiceClass) (o : Options) : Except MissingValue File := do
  return File.of c.language c.name o.isPart (← c.source o)

/-- What the writing of the class reports: arguments that are passed over because nothing is known of
    their direction, arguments of unknown type, and the class itself. -/
def report (c : ServiceClass) (s : ServiceDescription) : List Log.Entry :=
  let skipped := s.actions.values.flatMap fun action =>
    (action.arguments.filter fun a => !isDirected a).map fun a =>
      Log.debug "Argument without direction skipped"
        [("action", action.name), ("argument", a.name)]
  let untyped := c.methods.flatMap fun m =>
    (m.parameters.filter fun p => (c.related? p.source).isNone).map fun p =>
      Log.debug "Unresolved related state variable, using the unknown type"
        [("action", m.source.name), ("argument", p.source.name),
          ("related", p.source.relatedStateVariable)]
  skipped ++ untyped ++
    [Log.info "Service class generated"
      [("class", c.name), ("language", c.language.name), ("actions", toString c.methods.length),
        ("state_variables", toString c.members.length),
        ("constants", toString c.constants.size)]]

end ServiceClass

end ControlPoint.Class
