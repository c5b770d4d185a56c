import ControlPoint.Markup.Token

/-!
The vocabulary of descriptions: the kinds of elements that structure a service or device
description. An element's name is compared without regard to the case of ASCII letters.
-/

namespace ControlPoint.Description

open Markup Text

/-- The kinds of structuring elements. -/
inductive NodeKind
  | scpd
  | specVersion
  | actionList
  | action
  | argumentList
  | argument
  | serviceStateTable
  | stateVariable
  | allowedValueList
  | allowedValueRange
  | root
  | device
  | deviceList
  | serviceList
  | service
  | iconList
  | icon
  deriving DecidableEq, Repr

namespace NodeKind

/-- Every kind. -/
def all : List NodeKind :=
  [scpd, specVersion, actionList, action, argumentList, argument, serviceStateTable, stateVariable,
    allowedValueList, allowedValueRange, root, device, deviceList, serviceList, service, iconList,
    icon]

/-- The name of the elements of a kind. -/
def elementName : NodeKind → String
  | scpd => "scpd"
  | specVersion => "specVersion"
  | actionList => "actionList"
  | action => "action"
  | argumentList => "argumentList"
  | argument => "argument"
  | serviceStateTable => "serviceStateTable"
  | stateVariable => "stateVariable"
  | allowedValueList => "allowedValueList"
  | allowedValueRange => "allowedValueRange"
  | root => "root"
  | device => "device"
  | deviceList => "deviceList"
  | serviceList => "serviceList"
  | service => "service"
  | iconList => "iconList"
  | icon => "icon"

/-- Whether an element of this name is of the kind. -/
def isNamed (kind : NodeKind) (name : String) : Bool :=
  sameIgnoringCase name kind.elementName

/-- Whether a token opens an element of the kind. -/
def opensAt (kind : NodeKind) : Token → Bool
  | .start e => kind.isNamed e.name
  | .empty e => kind.isNamed e.name
  | _ => false

/-- Whether a token closes an element of the kind. -/
def closesAt (kind : NodeKind) : Token → Bool
  | .close name => kind.isNamed name
  | _ => false

end NodeKind

end ControlPoint.Description
