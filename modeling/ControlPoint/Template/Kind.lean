/-!
What a template is for. Lists are never laid out by a template: their items are rendered one by one
and joined.
-/

namespace ControlPoint.Template

/-- The parts of a class for which each language has a template. -/
inductive Kind
  | constant
  | region
  | docComment
  | enumeration
  | enumMember
  | enumParse
  | enumParseCase
  | enumToString
  | enumToStringCase
  | property
  | enumProperty
  | event
  | eventRaiser
  | dispatchBranch
  | dispatcher
  | parameter
  | inAssignment
  | outValue
  | outAssignment
  | singleReturnAction
  | multiOutAction
  | deviceInfoProperty
  | serviceProperty
  | deviceProperty
  | serviceClass
  | deviceClass
  deriving DecidableEq, Repr

namespace Kind

/-- Every kind. -/
def all : List Kind :=
  [constant, region, docComment, enumeration, enumMember, enumParse, enumParseCase, enumToString,
    enumToStringCase, property, enumProperty, event, eventRaiser, dispatchBranch, dispatcher,
    parameter, inAssignment, outValue, outAssignment, singleReturnAction, multiOutAction,
    deviceInfoProperty, serviceProperty, deviceProperty, serviceClass, deviceClass]

/-- The name under which a kind is known. -/
def name : Kind → String
  | constant => "constant"
  | region => "region"
  | docComment => "doc_comment"
  | enumeration => "enumeration"
  | enumMember => "enum_member"
  | enumParse => "enum_parse"
  | enumParseCase => "enum_parse_case"
  | enumToString => "enum_to_string"
  | enumToStringCase => "enum_to_string_case"
  | property => "property"
  | enumProperty => "enum_property"
  | event => "event"
  | eventRaiser => "event_raiser"
  | dispatchBranch => "dispatch_branch"
  | dispatcher => "dispatcher"
  | parameter => "parameter"
  | inAssignment => "in_assignment"
  | outValue => "out_value"
  | outAssignment => "out_assignment"
  | singleReturnAction => "single_return_action"
  | multiOutAction => "multi_out_action"
  | deviceInfoProperty => "device_info_property"
  | serviceProperty => "service_property"
  | deviceProperty => "device_property"
  | serviceClass => "service_class"
  | deviceClass => "device_class"

/-- The kind of a name. -/
def ofName? (name : String) : Option Kind :=
  all.find? fun kind => kind.name == name

end Kind

end ControlPoint.Template
