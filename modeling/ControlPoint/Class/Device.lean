import ControlPoint.Class.Constant
import ControlPoint.Class.Layout
import ControlPoint.Description.Device
import ControlPoint.Text.Quoted

/-!
The class of a device: properties for what the device says of itself, for the devices directly inside
it and for its own services. A child for which a class was written is wrapped in that class; any
other is handed out as it is.
-/

namespace ControlPoint.Class

open Description Naming Template

/-- Classes written for children, by unique device name or service identifier. -/
abbrev ChildClasses := List (String × String)

/-- The class written for a child. -/
def ChildClasses.find? (classes : ChildClasses) (id : String) : Option String :=
  (List.find? (fun (k, _) => k == id) classes).map Prod.snd

/-- A property for a child: a device directly inside or a service. `specific` is the class written
    for it, as it stands in code. -/
structure ChildProperty where
  name : String
  constant : String
  summary : String
  specific : Option String
  deriving DecidableEq, Repr

/-- What the class of a device declares. Its name is not yet escaped. -/
structure DeviceClass where
  language : Language
  name : String
  /-- The names of the properties for what the device says of itself. -/
  information : List String
  devices : List ChildProperty
  services : List ChildProperty
  constants : ConstantPool

namespace DeviceClass

/-- The names that the template of a device's class declares. -/
def reservedMembers : List String := ["moDevice", "Device"]

/-- What every device says of itself: the name of the property, the member of the object model that
    holds it, and what it is. -/
def informationMembers : List (String × String × String) :=
  [("FriendlyName", "FriendlyName", "Friendly name of the device."),
    ("ModelName", "ModelName", "Model name of the device."),
    ("ModelNumber", "ModelNumber", "Model number of the device."),
    ("DeviceType", "Type", "UPnP device type."),
    ("UniqueDeviceName", "UniqueDeviceName", "Unique device name (UDN).")]

/-- The type of a service without a class of its own. -/
def genericServiceType : String := "UPnPService"

/-- The type of a device without a class of its own. -/
def genericDeviceType : String := "UPnPDevice"

/-- A child of a device, as far as a property for it goes. -/
structure Child where
  id : String
  shortName : String
  group : String
  comment : String
  summary : String
  deriving DecidableEq, Repr

/-- The devices directly inside that can be told by their unique names. -/
def childDevices (d : Device) : List Child :=
  (d.embedded.map Prod.snd).filterMap fun child =>
    if Text.isBlankText child.udn then none
    else some
      { id := child.udn, shortName := child.shortTypeName, group := ConstantPool.deviceNames,
        comment := child.info.friendlyName,
        summary := "Embedded device " ++ child.info.friendlyName ++ " (" ++ child.deviceType ++ ")." }

/-- The services that can be told by their identifiers. -/
def childServices (d : Device) : List Child :=
  d.services.filterMap fun s =>
    if Text.isBlankText s.serviceId then none
    else some
      { id := s.serviceId, shortName := s.shortId, group := ConstantPool.serviceIds,
        comment := s.serviceType, summary := "The " ++ s.serviceType ++ " service." }

/-- Gives out names, one after another. -/
def allocateAll (names : Scope) : List String → List String × Scope
  | [] => ([], names)
  | base :: rest =>
    let (name, names) := names.allocate base
    let (others, names) := allocateAll names rest
    (name :: others, names)

/-- The properties for children, in order, with their constants. -/
def childProperties (l : Language) (classes : ChildClasses) (names : Scope) (pool : ConstantPool) :
    List Child → List ChildProperty × Scope × ConstantPool
  | [] => ([], names, pool)
  | child :: rest =>
    let (name, names) := names.allocate (sanitize .type child.shortName)
    let (constant, pool) := pool.get child.group child.shortName child.id child.comment
    let (others, names, pool) := childProperties l classes names pool rest
    (⟨l.escape name, constant, child.summary,
      (classes.find? child.id).map (l.identifier .type)⟩ :: others, names, pool)

/-- The class of a device. -/
def declare (l : Language) (className : String) (d : Device) (classes : ChildClasses) :
    DeviceClass :=
  let name := sanitize .type className
  let names := ((Scope.empty l.caseRule).reserve name).reserveAll reservedMembers
  let (information, names) := allocateAll names (informationMembers.map Prod.fst)
  let (devices, names, pool) :=
    childProperties l classes names (.empty l.caseRule) (childDevices d)
  let (services, _, pool) := childProperties l classes names pool (childServices d)
  ⟨l, name, information.map l.escape, devices, services, pool⟩

/-- The property for something that the device says of itself. -/
def informationText (c : DeviceClass) (o : Options) (name member summary : String) :
    Except MissingValue String := do
  c.language.render .deviceInfoProperty
    [("doc", ← docComment c.language summary ""),
      ("scope", c.language.visibilityWord o.visibility), ("name", name), ("member", member)]

/-- The property for a child, with the type of children that have no class of their own. -/
def childText (c : DeviceClass) (o : Options) (kind : Kind) (generic : String) (p : ChildProperty) :
    Except MissingValue String := do
  c.language.render kind
    [("doc", ← docComment c.language p.summary ""),
      ("scope", c.language.visibilityWord o.visibility), ("name", p.name),
      ("type", p.specific.getD generic), ("constant", p.constant),
      ("specific", p.specific.isSome)]

/-- What the class is for, in a sentence. -/
def summary (d : Device) : String :=
  if d.deviceType == "" then "Control point wrapper for a UPnP device."
  else "Control point wrapper for the " ++ d.deviceType ++ " device."

/-- The source of the class. -/
def source (c : DeviceClass) (d : Device) (o : Options) : Except MissingValue String := do
  let information ← joinAll "\n\n"
    (fun (name, _, member, text) => c.informationText o name member text)
    (c.information.zip informationMembers)
  let body ← regions c.language
    [("Constants", ← c.constants.definitions c.language o.visibility),
      ("Device information", information),
      ("Devices",
        ← joinAll "\n\n" (c.childText o .deviceProperty genericDeviceType) c.devices),
      ("Services",
        ← joinAll "\n\n" (c.childText o .serviceProperty genericServiceType) c.services)]
  classSource c.language .deviceClass o c.name (summary d) body

/-- The file of the class. -/
def file (c : DeviceClass) (d : Device) (o : Options) : Except MissingValue File := do
  return File.of c.language c.name o.isPart (← c.source d o)

/-- A class that may be there, as reports show it. -/
def quotedClass : Option String → String
  | none => "None"
  | some name => "Some(" ++ Text.quoted name ++ ")"

/-- What the writing of the class reports: every child, and the class itself. -/
def report (c : DeviceClass) (d : Device) (classes : ChildClasses) : List Log.Entry :=
  let devices := (d.embedded.map Prod.snd).map fun child =>
    if Text.isBlankText child.udn then
      Log.debug "Embedded device without UDN skipped" [("device_type", child.deviceType)]
    else
      Log.debug "Child device property"
        [("udn", child.udn), ("specific", quotedClass (classes.find? child.udn))]
  let services := d.services.map fun s =>
    if Text.isBlankText s.serviceId then
      Log.debug "Service without serviceId skipped" [("service_type", s.serviceType)]
    else
      Log.debug "Service property"
        [("service_id", s.serviceId), ("specific", quotedClass (classes.find? s.serviceId))]
  devices ++ services ++
    [Log.info "Device class generated"
      [("class", c.name), ("language", c.language.name), ("devices", toString d.embedded.length),
        ("services", toString d.services.length)]]

end DeviceClass

end ControlPoint.Class
