import ControlPoint.Description.Device

/-!
Parts of a description while they are being read. A node takes texts for its own fields and the
finished nodes of its child elements; what it does not take leaves it as it is.
-/

namespace ControlPoint.Description

open Markup Text

/-- A part of a description. The devices inside a device are gathered apart from it, as their keys
    have to be told from one another until it is complete. -/
inductive Node
  | scpd (service : ServiceDescription)
  | specVersion (version : SpecVersion)
  | actionList (actions : KeyedMap Action)
  | action (action : Action)
  | argumentList (arguments : List Argument)
  | argument (argument : Argument)
  | serviceStateTable (table : KeyedMap StateVariable)
  | stateVariable (declared : StateVariable)
  | allowedValueList (values : AllowedValueList)
  | allowedValueRange (range : AllowedValueRange)
  | root (description : DeviceDescription)
  | device (info : DeviceInfo) (embedded : KeyedMap Device)
  | deviceList (devices : KeyedMap Device)
  | serviceList (services : KeyedMap ServiceReference)
  | service (service : ServiceReference)
  | iconList (icons : List Icon)
  | icon (icon : Icon)

namespace Node

/-- The node of an element of which nothing has been read but its tag. -/
def ofElement (kind : NodeKind) (element : Element) : Node :=
  match kind with
  | .scpd => scpd (.blank element)
  | .specVersion => specVersion ⟨0, 0⟩
  | .actionList => actionList .empty
  | .action => action (.blank element)
  | .argumentList => argumentList []
  | .argument => argument (.blank element)
  | .serviceStateTable => serviceStateTable .empty
  | .stateVariable => stateVariable (.blank element)
  | .allowedValueList => allowedValueList ⟨element, []⟩
  | .allowedValueRange => allowedValueRange ⟨element, "", "", ""⟩
  | .root => root (.blank element)
  | .device => device (.blank element) .empty
  | .deviceList => deviceList .empty
  | .serviceList => serviceList .empty
  | .service => service (.blank element)
  | .iconList => iconList []
  | .icon => icon (.blank element)

/-- The kind of a node. -/
def kind : Node → NodeKind
  | scpd _ => .scpd
  | specVersion _ => .specVersion
  | actionList _ => .actionList
  | action _ => .action
  | argumentList _ => .argumentList
  | argument _ => .argument
  | serviceStateTable _ => .serviceStateTable
  | stateVariable _ => .stateVariable
  | allowedValueList _ => .allowedValueList
  | allowedValueRange _ => .allowedValueRange
  | root _ => .root
  | device _ _ => .device
  | deviceList _ => .deviceList
  | serviceList _ => .serviceList
  | service _ => .service
  | iconList _ => .iconList
  | icon _ => .icon

theorem kind_ofElement (kind : NodeKind) (element : Element) :
    (ofElement kind element).kind = kind := by
  cases kind <;> rfl

end Node

/-- The kinds of elements that are read as nodes where they stand immediately inside an element of a
    kind. -/
def NodeKind.childKinds : NodeKind → List NodeKind
  | .scpd => [.specVersion, .actionList, .serviceStateTable]
  | .actionList => [.action]
  | .action => [.argumentList]
  | .argumentList => [.argument]
  | .serviceStateTable => [.stateVariable]
  | .stateVariable => [.allowedValueList, .allowedValueRange]
  | .root => [.specVersion, .device]
  | .device => [.deviceList, .serviceList, .iconList]
  | .deviceList => [.device]
  | .serviceList => [.service]
  | .iconList => [.icon]
  | _ => []

/-- The kind of child that a token opens inside an element of a kind. -/
def NodeKind.childKind? (kind : NodeKind) (token : Token) : Option NodeKind :=
  kind.childKinds.find? fun child => child.opensAt token

/-- A number of a field, `none` where its text is no number of 32 bits. -/
def fieldNumber? (text : String) : Option Nat := decimal32? (trim text)

namespace DeviceInfo

/-- Puts a text into the field of a name in lower case. -/
def take? (d : DeviceInfo) (field text : String) : Option DeviceInfo :=
  match field with
  | "devicetype" => some { d with deviceType := text }
  | "friendlyname" => some { d with friendlyName := text }
  | "manufacturer" => some { d with manufacturer := text }
  | "manufacturerurl" => some { d with manufacturerUrl := text }
  | "modeldescription" => some { d with modelDescription := text }
  | "modelname" => some { d with modelName := text }
  | "modelnumber" => some { d with modelNumber := text }
  | "modelurl" => some { d with modelUrl := text }
  | "serialnumber" => some { d with serialNumber := text }
  | "udn" => some { d with udn := text }
  | "upc" => some { d with upc := text }
  | "presentationurl" => some { d with presentationUrl := text }
  | _ => none

end DeviceInfo

namespace ServiceReference

/-- Puts a text into the field of a name in lower case. -/
def take? (s : ServiceReference) (field text : String) : Option ServiceReference :=
  match field with
  | "servicetype" => some { s with serviceType := text }
  | "serviceid" => some { s with serviceId := text }
  | "scpdurl" => some { s with scpdUrl := text }
  | "controlurl" => some { s with controlUrl := text }
  | "eventsuburl" => some { s with eventSubUrl := text }
  | _ => none

end ServiceReference

namespace Icon

/-- Puts a text into the field of a name in lower case. -/
def take? (i : Icon) (field text : String) : Option Icon :=
  match field with
  | "mimetype" => some { i with mimeType := text }
  | "width" => some { i with width := fieldNumber? text }
  | "height" => some { i with height := fieldNumber? text }
  | "depth" => some { i with depth := fieldNumber? text }
  | "url" => some { i with url := text }
  | _ => none

end Icon

namespace Node

/-- Puts the text of an immediate child element into the field that the element's name stands for,
    whatever its case; `none` where the node has no such field. -/
def takeText? (node : Node) (elementName text : String) : Option Node :=
  let field := lowerAscii elementName
  match node with
  | specVersion v =>
    match field with
    | "major" => some (specVersion { v with major := (fieldNumber? text).getD 0 })
    | "minor" => some (specVersion { v with minor := (fieldNumber? text).getD 0 })
    | _ => none
  | action a =>
    match field with
    | "name" => some (action { a with name := text })
    | _ => none
  | argument a =>
    match field with
    | "name" => some (argument { a with name := text })
    | "direction" => some (argument { a with direction := .ofText text })
    | "relatedstatevariable" => some (argument { a with relatedStateVariable := text })
    | _ => none
  | stateVariable v =>
    match field with
    | "name" => some (stateVariable { v with name := text })
    | "datatype" => some (stateVariable { v with dataTypeName := text })
    | "defaultvalue" => some (stateVariable { v with defaultValue := some text })
    | _ => none
  | allowedValueList l =>
    match field with
    | "allowedvalue" => some (allowedValueList (l.add text))
    | _ => none
  | allowedValueRange r =>
    match field with
    | "minimum" => some (allowedValueRange { r with minimum := text })
    | "maximum" => some (allowedValueRange { r with maximum := text })
    | "step" => some (allowedValueRange { r with step := text })
    | _ => none
  | root r =>
    match field with
    | "urlbase" => some (root { r with urlBase := text })
    | _ => none
  | device info embedded => (info.take? field text).map (device · embedded)
  | service s => (s.take? field text).map service
  | icon i => (i.take? field text).map icon
  | _ => none

/-- Takes note of an immediate child element by its name alone, as an argument does of the mark that
    it is the returned one; `none` where the name means nothing. -/
def takeMark? (node : Node) (elementName : String) : Option Node :=
  match node with
  | argument a =>
    if sameIgnoringCase elementName "retval" then some (argument { a with isReturn := true })
    else none
  | _ => none

/-- Adds the finished node of a child element. Lists add their items one by one; of a part that
    there is only once, the last one counts. -/
def adopt (parent child : Node) : Node :=
  match parent, child with
  | scpd s, specVersion v => scpd { s with specVersion := v }
  | scpd s, actionList actions => scpd { s with actions := s.actions.insertAll actions.values }
  | scpd s, serviceStateTable table =>
    scpd { s with stateVariables := s.stateVariables.insertAll table.values }
  | actionList actions, action a => actionList (actions.insert a)
  | action a, argumentList arguments => action { a with arguments := a.arguments ++ arguments }
  | argumentList arguments, argument a => argumentList (arguments ++ [a])
  | serviceStateTable table, stateVariable v => serviceStateTable (table.insert v)
  | stateVariable v, allowedValueList l => stateVariable { v with allowedValues := some l }
  | stateVariable v, allowedValueRange r => stateVariable { v with allowedRange := some r }
  | root r, specVersion v => root { r with specVersion := v }
  | root r, device info embedded => root { r with device := .mk info embedded.entries }
  | device info embedded, deviceList devices => device info (embedded.insertAll devices.values)
  | device info embedded, serviceList services =>
    device { info with services := info.services.insertAll services.values } embedded
  | device info embedded, iconList icons =>
    device { info with icons := info.icons ++ icons } embedded
  | deviceList devices, device info embedded => deviceList (devices.insert (.mk info embedded.entries))
  | serviceList services, service s => serviceList (services.insert s)
  | iconList icons, icon i => iconList (icons ++ [i])
  | parent, _ => parent

/-- What the adding of a child reports. -/
def adoptLog (parent child : Node) : List Log.Entry :=
  match parent, child with
  | scpd s, actionList actions => s.actions.insertAllLog actions.values
  | scpd s, serviceStateTable table => s.stateVariables.insertAllLog table.values
  | actionList actions, action a => actions.insertLog a
  | serviceStateTable table, stateVariable v => table.insertLog v
  | device _ embedded, deviceList devices => embedded.insertAllLog devices.values
  | device info _, serviceList services => info.services.insertAllLog services.values
  | deviceList devices, device info embedded => devices.insertLog (Device.mk info embedded.entries)
  | serviceList services, service s => services.insertLog s
  | _, _ => []

end Node

end ControlPoint.Description
